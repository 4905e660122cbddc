import Agenda.Store.SlotStore

/-!
# Scripts for a slot store

A script works on one store of texts.  Handles of accepted values are numbered in the order in
which they were given out, and a step names an entry by such a number or by any handle at all.
-/

namespace Agenda
namespace Scenario

/-- How a step names an entry. -/
inductive StoreTarget where
  /-- By the number of an accepted value. -/
  | issued (number : Nat)
  /-- By a handle. -/
  | exactly (handle : SlotHandle)

/-- What a script can ask of a store. -/
inductive StoreStep where
  | insert (due : Instant) (value : String)
  /-- Insert a number of values whose due instants go up by a stride, round a modulus. -/
  | insertMany (count : Nat) (due : Instant) (stride modulus : Nat)
  | peek
  | pop
  | drain
  | remove (target : StoreTarget)
  | contains (target : StoreTarget)
  | handle (target : StoreTarget)
  /-- Remove the entries of numbered handles from one number to another, with a stride. -/
  | removeRange (start stop stride : Nat)
  | same (number other : Nat)
  | isEmpty
  | removeAll

/-- An entry as a script sees it when it takes it out. -/
structure Popped where
  /-- The handle. -/
  handle : SlotHandle
  /-- The due instant. -/
  due : Instant
  /-- The value. -/
  value : String

/-- What a step answers. -/
inductive StoreAnswer where
  | nothing
  | truth (value : Bool)
  | count (value : Nat)
  | text (value : String)
  | texts (values : List String)
  | refused (refused : Refused String)
  | first (handle : SlotHandle) (due : Instant)
  | popped (entry : Popped)
  | drained (entries : List Popped)
  | handle (handle : SlotHandle)
  /-- No value was accepted under the number. -/
  | noHandle

/-- A store and the handles that it gave out. -/
structure StoreScene where
  /-- The store. -/
  store : SlotStore String
  /-- The handles of the accepted values. -/
  issued : Array SlotHandle

namespace StoreScene

/-- Insert a value and keep its handle. -/
def insert (scene : StoreScene) (due : Instant) (value : String) : StoreAnswer × StoreScene :=
  let ⟨store, issued⟩ := scene
  match store.insert due value with
  | (.ok handle, store) => (.text handle.text, ⟨store, issued.push handle⟩)
  | (.error refused, store) => (.refused refused, ⟨store, issued⟩)

/-- Insert values numbered from an index on; the last answer stands for all of them. -/
def insertMany (due : Instant) (stride modulus : Nat) :
    Nat → Nat → StoreAnswer → StoreScene → StoreAnswer × StoreScene
  | 0, _, answer, scene => (answer, scene)
  | count + 1, index, _, scene =>
      let (answer, grown) :=
        scene.insert (due + index * stride % max modulus 1) ("v" ++ toString index)
      insertMany due stride modulus count (index + 1) answer grown

/-- Take out the earliest entry. -/
def pop (scene : StoreScene) : Option Popped × StoreScene :=
  let ⟨store, issued⟩ := scene
  match store.peek with
  | (none, peeked) => (none, ⟨peeked, issued⟩)
  | (some (handle, due), peeked) =>
      let (value, rest) := peeked.remove handle
      (value.map fun value => ⟨handle, due, value⟩, ⟨rest, issued⟩)

/-- Take out a number of entries, or all of them if there are fewer. -/
def popMany : Nat → StoreScene → List Popped × StoreScene
  | 0, scene => ([], scene)
  | count + 1, scene =>
      match scene.pop with
      | (none, rest) => ([], rest)
      | (some entry, rest) =>
          let (entries, emptied) := popMany count rest
          (entry :: entries, emptied)

/-- The handle that a step names. -/
def resolve (scene : StoreScene) : StoreTarget → Option SlotHandle
  | .issued number => scene.issued[number]?
  | .exactly handle => some handle

/-- Remove the entry of a handle. -/
def remove (scene : StoreScene) (handle : SlotHandle) : Option String × StoreScene :=
  let (value, store) := scene.store.remove handle
  (value, { scene with store })

/-- Remove the entries of handles, and count those that there were. -/
def removeMany (scene : StoreScene) (handles : List SlotHandle) : Nat × StoreScene :=
  handles.foldl
    (fun removed handle =>
      let (value, rest) := removed.2.remove handle
      (if value.isSome then removed.1 + 1 else removed.1, rest))
    (0, scene)

/-- The numbered handles from one number to another, with a stride of one at least. -/
def issuedRange (scene : StoreScene) (start stop stride : Nat) : List SlotHandle :=
  let last := min stop scene.issued.size
  let step := max stride 1
  (List.range ((last - start + step - 1) / step)).filterMap fun index =>
    scene.issued[start + index * step]?

/-- Answer a step that names an entry. -/
def withTarget (scene : StoreScene) (target : StoreTarget)
    (use : SlotHandle → StoreAnswer × StoreScene) : StoreAnswer × StoreScene :=
  match scene.resolve target with
  | none => (.noHandle, scene)
  | some handle => use handle

/-- Carry out a step. -/
def perform (scene : StoreScene) : StoreStep → StoreAnswer × StoreScene
  | .insert due value => scene.insert due value
  | .insertMany count due stride modulus =>
      insertMany due stride modulus count 0 .nothing scene
  | .peek =>
      let (first, store) := scene.store.peek
      let answer : StoreAnswer :=
        match first with
        | none => .nothing
        | some (handle, due) => .first handle due
      (answer, { scene with store })
  | .pop =>
      match scene.pop with
      | (none, rest) => (.nothing, rest)
      | (some entry, rest) => (.popped entry, rest)
  | .drain =>
      let (entries, emptied) := popMany (scene.store.size + 1) scene
      (.drained entries, emptied)
  | .remove target =>
      scene.withTarget target fun handle =>
        match scene.remove handle with
        | (none, rest) => (.nothing, rest)
        | (some value, rest) => (.text value, rest)
  | .contains target =>
      scene.withTarget target fun handle => (.truth (scene.store.contains handle), scene)
  | .handle target => scene.withTarget target fun handle => (.handle handle, scene)
  | .removeRange start stop stride =>
      let (count, rest) := scene.removeMany (scene.issuedRange start stop stride)
      (.count count, rest)
  | .same number other =>
      match scene.issued[number]?, scene.issued[other]? with
      | some first, some second => (.truth (first == second), scene)
      | _, _ => (.truth false, scene)
  | .isEmpty => (.truth (OrderedStore.isEmpty scene.store), scene)
  | .removeAll =>
      let (values, store) := scene.store.removeAll
      (.texts values, { scene with store })

/-- Carry out a script, and pair each answer with the size of the store after it. -/
def play : StoreScene → List StoreStep → List (StoreAnswer × Nat)
  | _, [] => []
  | scene, step :: steps =>
      let (answer, next) := scene.perform step
      (answer, next.store.size) :: play next steps

end StoreScene

/-- Carry out a script on a store without entries. -/
def playStore (limit : Option Nat) (steps : List StoreStep) : List (StoreAnswer × Nat) :=
  StoreScene.play ⟨.empty limit, #[]⟩ steps

end Scenario
end Agenda
