import Agenda.Json.Token

/-!
# JSON values

A JSON value keeps every member of an object in the order in which it was written, repeated
keys included, and every number as it was written.  The text of a string exists only if its
16-bit units pair up.
-/

namespace Agenda

/-- A value of a JSON text. -/
inductive Json where
  | null
  | bool (value : Bool)
  | number (chars : List Char)
  | string (pieces : List Json.Piece)
  | array (items : List Json)
  | object (members : List (List Json.Piece × Json))
  deriving Repr

namespace Json

/-- Whether a 16-bit unit is the first half of a pair. -/
def isHighSurrogate (unit : Nat) : Bool := 0xD800 ≤ unit && unit < 0xDC00

/-- Whether a 16-bit unit is the second half of a pair. -/
def isLowSurrogate (unit : Nat) : Bool := 0xDC00 ≤ unit && unit < 0xE000

/-- The character of a pair of 16-bit units. -/
def pairedChar (high low : Nat) : Char :=
  Char.ofNat (0x10000 + (high - 0xD800) * 0x400 + (low - 0xDC00))

/-- The text of a string, if all halves of pairs stand together. -/
def text? : List Piece → Option (List Char)
  | [] => some []
  | .char char :: rest => (text? rest).map (char :: ·)
  | .unit high :: .unit low :: rest =>
      if isHighSurrogate high then
        if isLowSurrogate low then (text? rest).map (pairedChar high low :: ·) else none
      else if isLowSurrogate high then
        none
      else
        (text? (.unit low :: rest)).map (Char.ofNat high :: ·)
  | .unit unit :: rest =>
      if isHighSurrogate unit || isLowSurrogate unit then none
      else (text? rest).map (Char.ofNat unit :: ·)

/-- A container that is not closed yet, with what it holds so far in reverse. -/
inductive Open where
  /-- An array that waits for an item. -/
  | array (items : List Json)
  /-- An object that waits for the value of a key. -/
  | object (members : List (List Piece × Json)) (key : List Piece)

/-- What may come next, and the containers around it from the inside out. -/
inductive Stage where
  /-- A value. -/
  | beforeValue (around : List Open)
  /-- A value, or the end of an array without items. -/
  | firstItem (around : List Open)
  /-- A comma, or the end of an array. -/
  | afterItem (items : List Json) (around : List Open)
  /-- A key, or the end of an object without members. -/
  | firstKey (around : List Open)
  /-- A key. -/
  | beforeKey (members : List (List Piece × Json)) (around : List Open)
  /-- The colon after a key. -/
  | beforeColon (members : List (List Piece × Json)) (key : List Piece) (around : List Open)
  /-- A comma, or the end of an object. -/
  | afterMember (members : List (List Piece × Json)) (around : List Open)
  /-- Nothing. -/
  | finished (value : Json)

namespace Stage

/-- Go on after a complete value. -/
def fill (value : Json) : List Open → Stage
  | [] => finished value
  | .array items :: around => afterItem (value :: items) around
  | .object members key :: around => afterMember ((key, value) :: members) around

/-- Go on after the first token of a value. -/
def begin? (around : List Open) : Token → Option Stage
  | .null => some (fill .null around)
  | .bool value => some (fill (.bool value) around)
  | .number chars => some (fill (.number chars) around)
  | .string pieces => some (fill (.string pieces) around)
  | .openArray => some (firstItem around)
  | .openObject => some (firstKey around)
  | _ => none

/-- Go on after a token, if it may come next. -/
def next? : Stage → Token → Option Stage
  | beforeValue around, token => begin? around token
  | firstItem around, .closeArray => some (fill (.array []) around)
  | firstItem around, token => begin? (.array [] :: around) token
  | afterItem items around, .comma => some (beforeValue (.array items :: around))
  | afterItem items around, .closeArray => some (fill (.array items.reverse) around)
  | firstKey around, .closeObject => some (fill (.object []) around)
  | firstKey around, .string pieces => some (beforeColon [] pieces around)
  | beforeKey members around, .string pieces => some (beforeColon members pieces around)
  | beforeColon members pieces around, .colon =>
      some (beforeValue (.object members pieces :: around))
  | afterMember members around, .comma => some (beforeKey members around)
  | afterMember members around, .closeObject =>
      some (fill (.object members.reverse) around)
  | _, _ => none

/-- The value that was read, if nothing is missing. -/
def result? : Stage → Option Json
  | finished value => some value
  | _ => none

end Stage

/-- The value that tokens make up. -/
def ofTokens? (tokens : List Token) : Option Json :=
  (tokens.foldlM Stage.next? (.beforeValue [])).bind Stage.result?

/-- The value of a JSON text. -/
def read? (text : String) : Option Json :=
  (tokens? text.toList).bind ofTokens?

end Json
end Agenda
