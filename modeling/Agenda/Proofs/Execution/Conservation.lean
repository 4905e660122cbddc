import Agenda.Proofs.Execution.Continuation
import Agenda.Proofs.Execution.Parties

/-!
# No item is lost

Every item that is created has one account, which says what has become of it.  As long as it is
pending it is in the store or kept aside, as its handle says.  It leaves once: its callback is
called, or it is released with all the others.

The accounts are made from the events alone.  That they are right about the scheduler, and that
every call and every release is accounted for, holds however deep callbacks are nested and
however the parties take turns, because each change of a scheduler keeps the accounts right.

That the events are right about what is done is said of each step: items are created as the events
tell, and the callbacks that are put to run are those that the events tell of, once for each, so
that none is run for an item that stays pending or is released.
-/

namespace Agenda

variable {κ D ε : Type}

/-! ## Accounts -/

/-- What has become of an item. -/
inductive Fate (κ D : Type) where
  /-- It is in the store or kept aside, as its handle says. -/
  | pending
  /-- Its callback was called. -/
  | dispatched (callback : κ) (told : Dispatch D)
  /-- It was released. -/
  | released

/-- An item that was created, the handle that its creation returned, and its fate. -/
structure Account (κ D : Type) where
  /-- The handle. -/
  handle : ItemHandle
  /-- The item. -/
  item : Item κ D
  /-- What has become of it. -/
  fate : Fate κ D

namespace Account

/-- The item, if it is pending, under its handle. -/
def pending? : Account κ D → Option (ItemHandle × Item κ D)
  | ⟨handle, item, .pending⟩ => some (handle, item)
  | _ => none

/-- The call of the item's callback, if there was one. -/
def call? : Account κ D → Option (κ × Dispatch D)
  | ⟨_, _, .dispatched callback told⟩ => some (callback, told)
  | _ => none

/-- The item, if it was released. -/
def released? : Account κ D → Option (Item κ D)
  | ⟨_, item, .released⟩ => some item
  | _ => none

/-- Enter a call: it is the fate of a pending item that has the handle. -/
def settle (callback : κ) (told : Dispatch D) : Account κ D → Account κ D
  | ⟨handle, item, .pending⟩ =>
      ⟨handle, item, if handle = told.handle then .dispatched callback told else .pending⟩
  | account => account

/-- Enter a release: it is the fate of every pending item. -/
def release : Account κ D → Account κ D
  | ⟨handle, item, .pending⟩ => ⟨handle, item, .released⟩
  | account => account

end Account

/-- Enter an event into the accounts. -/
def enter (accounts : List (Account κ D)) : Event κ D → List (Account κ D)
  | .accepted handle item | .detached handle item => accounts ++ [⟨handle, item, .pending⟩]
  | .dispatched callback told => accounts.map (Account.settle callback told)
  | .released _ => accounts.map Account.release
  | _ => accounts

/-- An account for every item that was created in a history, the oldest first. -/
def accountsOf (history : List (Event κ D)) : List (Account κ D) := history.foldl enter []

/-- Every item that was created is in the store, kept aside, dispatched once or released, and in
one of these only; the accounts say which. -/
structure Conserved (history : List (Event κ D)) (scheduler : Scheduler SlotStore κ D) :
    Prop where
  /-- There is one account for each item that was created, under the handle that its creation
  returned. -/
  creations_eq : (accountsOf history).map (fun account => (account.handle, account.item)) =
    creations history
  /-- No two pending items have the same handle. -/
  pending_nodup : (((accountsOf history).filterMap Account.pending?).map Prod.fst).Nodup
  /-- The store holds the pending items whose handles are of the store. -/
  stored_iff : ∀ handle item, scheduler.store.get? handle = some item ↔
    ⟨.stored handle, item, .pending⟩ ∈ accountsOf history
  /-- The pending items with other handles are kept aside. -/
  detached_iff : ∀ number item, scheduler.detached.get? number = some item ↔
    ⟨.detached number, item, .pending⟩ ∈ accountsOf history
  /-- The scheduler counts the items in the store. -/
  size_eq : scheduler.size =
    ((accountsOf history).filterMap Account.pending?).countP fun kept => !kept.1.isDegenerate
  /-- The scheduler counts the items kept aside. -/
  detachedCount_eq : scheduler.detachedCount =
    ((accountsOf history).filterMap Account.pending?).countP fun kept => kept.1.isDegenerate
  /-- The calls are the fates of the dispatched items, each of one item. -/
  calls_perm : (calls history).Perm ((accountsOf history).filterMap Account.call?)
  /-- A dispatched item's own callback was called, and told what the item was created with. -/
  call_eq : ∀ account ∈ accountsOf history, ∀ call ∈ account.call?,
    call.1 = account.item.callback ∧
      ∃ reason, call.2 = account.item.dispatch account.handle reason
  /-- The releases are the fates of the released items, each of one item. -/
  releases_perm : (releases history).Perm ((accountsOf history).filterMap Account.released?)

/-- What a step tells is what it does: what is created has been asked for and is answered with its
handle, and the callbacks that are put to run are those that are told of, neither more nor fewer. -/
structure Faithful {σ : Type → Type} [OrderedStore σ] (act : Interpretation κ D ε)
    (execution : Execution σ κ D ε) : Prop where
  /-- A request to schedule creates an item, and it is answered with the item's handle. -/
  schedules : ∀ delay callback data next tasks,
    execution.tasks = .routine (.schedule delay callback data next) :: tasks →
      ∃ handle,
        creations (execution.step act).1 =
            [(handle, Scheduler.itemAfter execution.host.clock.now delay callback data)] ∧
          (execution.step act).2.tasks = .routine (next handle) :: tasks
  /-- A request that may be refused creates an item if it is answered with a handle, and none
  otherwise. -/
  triesSchedule : ∀ delay callback data next tasks,
    execution.tasks = .routine (.trySchedule delay callback data next) :: tasks →
      (∃ handle,
        creations (execution.step act).1 =
            [(handle, Scheduler.itemAfter execution.host.clock.now delay callback data)] ∧
          (execution.step act).2.tasks = .routine (next (.ok handle)) :: tasks) ∨
        ∃ error, creations (execution.step act).1 = [] ∧
          (execution.step act).2.tasks = .routine (next (.error error)) :: tasks
  /-- A shutdown tells of a release and of nothing else.  It puts no callback to run: what asked for
  it goes on with the number of the released items. -/
  shutsDown : ∀ next tasks, execution.tasks = .routine (.shutdown next) :: tasks →
    ∃ items, (execution.step act).1 = [.released items] ∧
      (execution.step act).2.tasks = .routine (next items.length) :: tasks
  /-- The tasks after a step are the callbacks that it tells of, each of them once and with what it
  is told, then what the topmost task goes on with, and then exactly the tasks that waited.  So a
  step that tells of no call puts no callback to run. -/
  goesOn : ∀ task waiting, execution.tasks = task :: waiting →
    ∃ resumed, task.GoesOn (calls (execution.step act).1) resumed ∧
      (execution.step act).2.tasks =
        (calls (execution.step act).1).map (callbackTask act) ++ (resumed ++ waiting)
  /-- Where there is no task nothing happens, and there is none afterwards. -/
  rests : execution.tasks = [] →
    (execution.step act).1 = [] ∧ (execution.step act).2.tasks = []

/-! ## Entries into the accounts -/

theorem accountsOf_append (history events : List (Event κ D)) :
    accountsOf (history ++ events) = events.foldl enter (accountsOf history) :=
  List.foldl_append

namespace Account

/-- What an account can become: it stays that of the same item, and a fate is final. -/
structure Becomes (account later : Account κ D) : Prop where
  /-- The handle stays. -/
  handle_eq : later.handle = account.handle
  /-- The item stays. -/
  item_eq : later.item = account.item
  /-- What is not pending is settled for good. -/
  final : account.pending? = none → later = account

theorem Becomes.refl (account : Account κ D) : account.Becomes account :=
  ⟨rfl, rfl, fun _ => rfl⟩

theorem Becomes.trans
    {account later latest : Account κ D}
    (first : account.Becomes later)
    (second : later.Becomes latest) :
    account.Becomes latest where
  handle_eq := second.handle_eq.trans first.handle_eq
  item_eq := second.item_eq.trans first.item_eq
  final settled := by
    obtain rfl := first.final settled
    exact second.final settled

theorem becomes_settle (callback : κ) (told : Dispatch D) (account : Account κ D) :
    account.Becomes (account.settle callback told) := by
  obtain ⟨handle, item, fate⟩ := account
  cases fate with
  | pending => exact ⟨rfl, rfl, fun settled => nomatch settled⟩
  | dispatched | released => exact .refl _

theorem becomes_release (account : Account κ D) : account.Becomes account.release := by
  obtain ⟨handle, item, fate⟩ := account
  cases fate with
  | pending => exact ⟨rfl, rfl, fun settled => nomatch settled⟩
  | dispatched | released => exact .refl _

theorem mem_filterMap_pending?
    (accounts : List (Account κ D))
    (handle : ItemHandle)
    (item : Item κ D) :
    (handle, item) ∈ accounts.filterMap pending? ↔ ⟨handle, item, .pending⟩ ∈ accounts := by
  rw [List.mem_filterMap]
  constructor
  · rintro ⟨⟨_, _, fate⟩, present, isPending⟩
    cases fate <;> cases isPending
    exact present
  · intro present
    exact ⟨_, present, rfl⟩

theorem settle_pending_of_eq
    (callback : κ)
    {told : Dispatch D}
    {handle : ItemHandle}
    (sameHandle : handle = told.handle)
    (item : Item κ D) :
    settle callback told ⟨handle, item, .pending⟩ =
      ⟨handle, item, .dispatched callback told⟩ := by
  rw [settle, if_pos sameHandle]

theorem settle_pending_of_ne
    (callback : κ)
    {told : Dispatch D}
    {handle : ItemHandle}
    (otherHandle : handle ≠ told.handle)
    (item : Item κ D) :
    settle callback told ⟨handle, item, .pending⟩ = ⟨handle, item, .pending⟩ := by
  rw [settle, if_neg otherHandle]

theorem map_key_of_becomes
    {change : Account κ D → Account κ D}
    (becomes : ∀ account : Account κ D, account.Becomes (change account))
    (accounts : List (Account κ D)) :
    (accounts.map change).map (fun account => (account.handle, account.item)) =
      accounts.map fun account => (account.handle, account.item) := by
  rw [List.map_map]
  apply List.map_congr_left
  intro account _
  rw [Function.comp_apply, (becomes account).handle_eq, (becomes account).item_eq]

theorem filterMap_pending?_settle
    (callback : κ)
    (told : Dispatch D)
    (accounts : List (Account κ D)) :
    (accounts.map (settle callback told)).filterMap pending? =
      (accounts.filterMap pending?).filter (Scheduler.otherThan told.handle) := by
  rw [List.filterMap_map, List.filter_filterMap]
  apply List.filterMap_congr
  rintro ⟨handle, item, fate⟩ -
  cases fate with
  | pending =>
      by_cases sameHandle : handle = told.handle <;>
        simp [settle, pending?, Scheduler.otherThan, Option.filter, sameHandle]
  | dispatched | released => rfl

theorem filterMap_pending?_release (accounts : List (Account κ D)) :
    (accounts.map release).filterMap pending? = [] := by
  rw [List.filterMap_map, List.filterMap_eq_nil_iff]
  rintro ⟨handle, item, fate⟩ -
  cases fate <;> rfl

theorem filterMap_call?_release (accounts : List (Account κ D)) :
    (accounts.map release).filterMap call? = accounts.filterMap call? := by
  rw [List.filterMap_map]
  apply List.filterMap_congr
  rintro ⟨handle, item, fate⟩ -
  cases fate <;> rfl

theorem filterMap_released?_settle
    (callback : κ)
    (told : Dispatch D)
    (accounts : List (Account κ D)) :
    (accounts.map (settle callback told)).filterMap released? =
      accounts.filterMap released? := by
  rw [List.filterMap_map]
  apply List.filterMap_congr
  rintro ⟨handle, item, fate⟩ -
  cases fate with
  | pending => by_cases sameHandle : handle = told.handle <;> simp [settle, released?, sameHandle]
  | dispatched | released => rfl

/-- A call is entered as often as there are pending items with its handle. -/
theorem filterMap_call?_settle
    (callback : κ)
    (told : Dispatch D)
    (accounts : List (Account κ D)) :
    ((accounts.map (settle callback told)).filterMap call?).Perm
      (List.replicate (((accounts.filterMap pending?).map Prod.fst).count told.handle)
          (callback, told) ++
        accounts.filterMap call?) := by
  induction accounts with
  | nil => exact .refl []
  | cons account rest inductionHypothesis =>
      obtain ⟨handle, item, fate⟩ := account
      rw [List.map_cons, List.filterMap_cons, List.filterMap_cons, List.filterMap_cons]
      cases fate with
      | pending =>
          by_cases sameHandle : handle = told.handle
          · rw [settle_pending_of_eq callback sameHandle]
            simpa only [pending?, call?, sameHandle, List.map_cons, List.count_cons_self,
              List.replicate_succ, List.cons_append] using inductionHypothesis.cons _
          · rw [settle_pending_of_ne callback sameHandle]
            simpa only [pending?, call?, List.map_cons, List.count_cons_of_ne sameHandle]
              using inductionHypothesis
      | dispatched earlier toldEarlier =>
          exact (inductionHypothesis.cons (earlier, toldEarlier)).trans List.perm_middle.symm
      | released => exact inductionHypothesis

/-- A release is entered for every pending item. -/
theorem filterMap_released?_release (accounts : List (Account κ D)) :
    ((accounts.map release).filterMap released?).Perm
      (accounts.filterMap released? ++ (accounts.filterMap pending?).map Prod.snd) := by
  induction accounts with
  | nil => exact .refl []
  | cons account rest inductionHypothesis =>
      obtain ⟨handle, item, fate⟩ := account
      rw [List.map_cons, List.filterMap_cons, List.filterMap_cons, List.filterMap_cons]
      cases fate with
      | pending => exact (inductionHypothesis.cons item).trans List.perm_middle.symm
      | dispatched => exact inductionHypothesis
      | released => exact inductionHypothesis.cons item

end Account

theorem exists_becomes_enter
    {accounts : List (Account κ D)}
    {index : Nat}
    {account : Account κ D}
    (found : accounts[index]? = some account)
    (event : Event κ D) :
    ∃ later, (enter accounts event)[index]? = some later ∧ account.Becomes later := by
  have inRange := (List.getElem?_eq_some_iff.mp found).1
  cases event with
  | accepted | detached =>
      refine ⟨account, ?_, .refl account⟩
      rw [enter, List.getElem?_append_left inRange]
      exact found
  | dispatched callback told =>
      refine ⟨account.settle callback told, ?_, account.becomes_settle callback told⟩
      rw [enter, List.getElem?_map, found, Option.map_some]
  | released =>
      refine ⟨account.release, ?_, account.becomes_release⟩
      rw [enter, List.getElem?_map, found, Option.map_some]
  | refused | unknown | turn | rotated | statusUpdated | polled | exited =>
      exact ⟨account, found, .refl account⟩

/-- What has become of an item is final, whatever happens later. -/
theorem exists_becomes_later
    (history events : List (Event κ D))
    {index : Nat}
    {account : Account κ D}
    (found : (accountsOf history)[index]? = some account) :
    ∃ later, (accountsOf (history ++ events))[index]? = some later ∧ account.Becomes later := by
  rw [accountsOf_append]
  generalize accountsOf history = accounts at found
  induction events generalizing accounts account with
  | nil => exact ⟨account, found, .refl account⟩
  | cons event rest inductionHypothesis =>
      obtain ⟨next, foundNext, becomesNext⟩ := exists_becomes_enter found event
      obtain ⟨later, foundLater, becomesLater⟩ := inductionHypothesis _ foundNext
      exact ⟨later, foundLater, becomesNext.trans becomesLater⟩

/-! ## Changes of a scheduler -/

/-- The accounts are right about a scheduler. -/
structure Balanced (history : List (Event κ D)) (scheduler : Scheduler SlotStore κ D) :
    Prop where
  /-- The pending items are kept by the scheduler. -/
  keeps : scheduler.Keeps (refusals history)
    ((accountsOf history).filterMap Account.pending?)
  /-- There is one account for each item that was created. -/
  creations_eq : (accountsOf history).map (fun account => (account.handle, account.item)) =
    creations history
  /-- The calls are the fates of the dispatched items. -/
  calls_perm : (calls history).Perm ((accountsOf history).filterMap Account.call?)
  /-- A dispatched item's own callback was called. -/
  call_eq : ∀ account ∈ accountsOf history, ∀ call ∈ account.call?,
    call.1 = account.item.callback ∧
      ∃ reason, call.2 = account.item.dispatch account.handle reason
  /-- The releases are the fates of the released items. -/
  releases_perm : (releases history).Perm ((accountsOf history).filterMap Account.released?)

namespace Balanced

variable {history events : List (Event κ D)} {scheduler next : Scheduler SlotStore κ D}

theorem initially
    {limit : Option Nat}
    (startsEmpty : scheduler.store = .empty limit)
    (noneDetached : scheduler.detached = .empty) :
    Balanced [] scheduler where
  keeps := Scheduler.keeps_empty startsEmpty noneDetached
  creations_eq := rfl
  calls_perm := .refl []
  call_eq _ present := nomatch present
  releases_perm := .refl []

/-- Events that neither create nor take out an item leave the accounts as they are. -/
theorem idle
    (balanced : Balanced history scheduler)
    (sameAccounts : accountsOf (history ++ events) = accountsOf history)
    (noCreation : creations events = [])
    (noCall : calls events = [])
    (noRelease : releases events = [])
    (noRefusal : refusals events = 0)
    (keeps : next.Keeps (refusals history) ((accountsOf history).filterMap Account.pending?)) :
    Balanced (history ++ events) next := by
  refine ⟨?_, ?_, ?_, ?_, ?_⟩
  · rw [refusals_append, noRefusal, sameAccounts, Nat.add_zero]
    exact keeps
  · rw [creations_append, noCreation, sameAccounts, List.append_nil]
    exact balanced.creations_eq
  · rw [calls_append, noCall, sameAccounts, List.append_nil]
    exact balanced.calls_perm
  · rw [sameAccounts]
    exact balanced.call_eq
  · rw [releases_append, noRelease, sameAccounts, List.append_nil]
    exact balanced.releases_perm

/-- An item that is created gets an account. -/
theorem create
    (balanced : Balanced history scheduler)
    {event : Event κ D}
    {handle : ItemHandle}
    {item : Item κ D}
    (creates : event = .accepted handle item ∨ event = .detached handle item)
    (keeps : next.Keeps (refusals (history ++ [event]))
      ((accountsOf history).filterMap Account.pending? ++ [(handle, item)])) :
    Balanced (history ++ [event]) next := by
  have accounts_eq : accountsOf (history ++ [event]) =
      accountsOf history ++ [⟨handle, item, .pending⟩] := by
    rw [accountsOf_append]
    rcases creates with rfl | rfl <;> rfl
  have creation : creations [event] = [(handle, item)] := by
    rcases creates with rfl | rfl <;> rfl
  have noCall : calls [event] = [] := by
    rcases creates with rfl | rfl <;> rfl
  have noRelease : releases [event] = [] := by
    rcases creates with rfl | rfl <;> rfl
  refine ⟨?_, ?_, ?_, ?_, ?_⟩
  · rw [accounts_eq, List.filterMap_append]
    exact keeps
  · rw [accounts_eq, creations_append, creation, List.map_append, balanced.creations_eq]
    rfl
  · rw [accounts_eq, calls_append, noCall, List.filterMap_append]
    exact balanced.calls_perm.append_right []
  · intro account present call isCall
    rw [accounts_eq, List.mem_append, List.mem_singleton] at present
    rcases present with old | rfl
    · exact balanced.call_eq account old call isCall
    · cases isCall
  · rw [accounts_eq, releases_append, noRelease, List.filterMap_append]
    exact balanced.releases_perm.append_right []

/-- A call of a callback is entered once, for the item that was taken out. -/
theorem call
    (balanced : Balanced history scheduler)
    {handle : ItemHandle}
    {item : Item κ D}
    (removed : scheduler.remove handle = (some item, next))
    (reason : Reason) :
    Balanced (history ++ [.dispatched item.callback (item.dispatch handle reason)]) next := by
  obtain ⟨wasPending, keeps⟩ := balanced.keeps.of_remove_some removed
  have handles_nodup := balanced.keeps.handles_nodup
  have accounts_eq :
      accountsOf (history ++ [.dispatched item.callback (item.dispatch handle reason)]) =
        (accountsOf history).map (Account.settle item.callback (item.dispatch handle reason)) :=
    accountsOf_append _ _
  have once : (((accountsOf history).filterMap Account.pending?).map Prod.fst).count
      (item.dispatch handle reason).handle = 1 :=
    List.count_eq_one_of_mem handles_nodup (List.mem_map_of_mem wasPending)
  refine ⟨?_, ?_, ?_, ?_, ?_⟩
  · rw [accounts_eq, Account.filterMap_pending?_settle, refusals_append]
    exact keeps
  · rw [accounts_eq, Account.map_key_of_becomes (Account.becomes_settle _ _),
      creations_append, balanced.creations_eq]
    exact (List.append_nil _).symm
  · have entered := Account.filterMap_call?_settle item.callback (item.dispatch handle reason)
      (accountsOf history)
    rw [once] at entered
    rw [accounts_eq, calls_append]
    refine List.perm_append_comm.trans (.trans ?_ entered.symm)
    exact balanced.calls_perm.append_left _
  · intro account present call isCall
    rw [accounts_eq, List.mem_map] at present
    obtain ⟨⟨accountHandle, accountItem, fate⟩, wasPresent, rfl⟩ := present
    cases fate with
    | dispatched | released => exact balanced.call_eq _ wasPresent call isCall
    | pending =>
        by_cases sameHandle : accountHandle = handle
        · subst sameHandle
          have alsoPending := (Account.mem_filterMap_pending? _ _ _).mpr wasPresent
          have sameItem := List.inj_on_of_nodup_map handles_nodup alsoPending wasPending rfl
          obtain rfl : accountItem = item := congrArg Prod.snd sameItem
          have settled : Account.settle accountItem.callback
              (accountItem.dispatch accountHandle reason) ⟨accountHandle, accountItem, .pending⟩ =
                ⟨accountHandle, accountItem, .dispatched accountItem.callback
                  (accountItem.dispatch accountHandle reason)⟩ :=
            Account.settle_pending_of_eq _ rfl _
          rw [settled] at isCall ⊢
          obtain rfl := Option.mem_some_iff.mp isCall
          exact ⟨rfl, reason, rfl⟩
        · rw [Account.settle_pending_of_ne item.callback sameHandle] at isCall
          cases isCall
  · rw [accounts_eq, Account.filterMap_released?_settle, releases_append]
    exact (List.append_nil _).symm ▸ balanced.releases_perm

/-- A release is entered once for every item that was pending. -/
theorem release (balanced : Balanced history scheduler) :
    Balanced (history ++ [.released scheduler.release.1]) scheduler.release.2 := by
  obtain ⟨released_perm, keeps⟩ := balanced.keeps.release
  have accounts_eq : accountsOf (history ++ [.released scheduler.release.1]) =
      (accountsOf history).map Account.release := accountsOf_append _ _
  refine ⟨?_, ?_, ?_, ?_, ?_⟩
  · rw [accounts_eq, Account.filterMap_pending?_release, refusals_append]
    exact keeps
  · rw [accounts_eq, Account.map_key_of_becomes Account.becomes_release, creations_append,
      balanced.creations_eq]
    exact (List.append_nil _).symm
  · rw [accounts_eq, Account.filterMap_call?_release, calls_append]
    exact (List.append_nil _).symm ▸ balanced.calls_perm
  · intro account present call isCall
    rw [accounts_eq, List.mem_map] at present
    obtain ⟨⟨handle, item, fate⟩, wasPresent, rfl⟩ := present
    cases fate with
    | pending => cases isCall
    | dispatched | released => exact balanced.call_eq _ wasPresent call isCall
  · have entered := Account.filterMap_released?_release (accountsOf history)
    rw [accounts_eq, releases_append]
    refine .trans ?_ entered.symm
    refine balanced.releases_perm.append ?_
    rw [releases, List.flatMap_singleton]
    exact released_perm

/-- Every change of a scheduler keeps the accounts right. -/
theorem change
    {now : Instant}
    (balanced : Balanced history scheduler)
    (effect : Effect now scheduler events next)
    (few : refusals (history ++ events) < 2 ^ 64) :
    Balanced (history ++ events) next := by
  cases effect with
  | quiet quiet =>
      rename Event κ D => event
      cases event <;>
        first
        | exact balanced.idle (accountsOf_append _ _) rfl rfl rfl rfl balanced.keeps
        | cases quiet
  | peek =>
      exact balanced.idle (accountsOf_append _ _) rfl rfl rfl rfl (balanced.keeps.of_peek rfl)
  | accept _ inserted =>
      refine balanced.create (Or.inl rfl) ?_
      rw [refusals_append]
      exact balanced.keeps.accept inserted
  | detach _ inserted =>
      obtain ⟨rfl, rfl⟩ := balanced.keeps.of_insert_error inserted
      refine balanced.create (Or.inr rfl) ?_
      rw [refusals_append] at few ⊢
      exact balanced.keeps.detach (Nat.lt_of_succ_lt few) _
  | refuse inserted =>
      obtain ⟨-, rfl⟩ := balanced.keeps.of_insert_error inserted
      exact balanced.idle (accountsOf_append _ _) rfl rfl rfl rfl balanced.keeps
  | cancel removed => exact balanced.call removed .abort
  | miss removed =>
      exact balanced.idle (accountsOf_append _ _) rfl rfl rfl rfl
        (balanced.keeps.of_remove_none removed)
  | fire peeked _ removed =>
      have looked := balanced.keeps.of_peek peeked
      exact Balanced.call ⟨looked, balanced.creations_eq, balanced.calls_perm, balanced.call_eq,
        balanced.releases_perm⟩ removed .timed
  | release => exact balanced.release

theorem conserved (balanced : Balanced history scheduler) : Conserved history scheduler where
  creations_eq := balanced.creations_eq
  pending_nodup := balanced.keeps.handles_nodup
  stored_iff handle item := by
    rw [balanced.keeps.get?_store_eq_some_iff, Account.mem_filterMap_pending?]
  detached_iff number item := by
    rw [balanced.keeps.get?_detached_eq_some_iff, Account.mem_filterMap_pending?]
  size_eq := balanced.keeps.size_eq
  detachedCount_eq := balanced.keeps.detachedCount_eq
  calls_perm := balanced.calls_perm
  call_eq := balanced.call_eq
  releases_perm := balanced.releases_perm

end Balanced

/-! ## Whole courses -/

theorem Execution.faithful
    {σ : Type → Type}
    [OrderedStore σ]
    (act : Interpretation κ D ε)
    (execution : Execution σ κ D ε) :
    Faithful act execution := by
  obtain ⟨scheduler, host, stack⟩ := execution
  refine ⟨?_, ?_, ?_, ?_, ?_⟩
  · rintro delay callback data next tasks rfl
    refine ⟨_, ?_, rfl⟩
    simp only [step, request]
    split <;> rfl
  · rintro delay callback data next tasks rfl
    simp only [step, request]
    cases (scheduler.trySchedule (Scheduler.itemAfter host.clock.now delay callback data)).1 with
    | ok handle => exact Or.inl ⟨handle, rfl, rfl⟩
    | error error => exact Or.inr ⟨error, rfl, rfl⟩
  · rintro next tasks rfl
    exact ⟨_, rfl, rfl⟩
  · rintro task waiting rfl
    exact goesOn_step act scheduler host task waiting
  · rintro rfl
    exact ⟨rfl, rfl⟩

theorem Course.conserved
    (course : Course SlotStore κ D)
    {limit : Option Nat}
    (startsEmpty : (course.scheduler 0).store = .empty limit)
    (noneDetached : (course.scheduler 0).detached = .empty)
    {steps : Nat}
    (few : refusals (course.history steps) < 2 ^ 64) :
    Conserved (course.history steps) (course.scheduler steps) := by
  have balanced : Balanced (course.history steps) (course.scheduler steps) := by
    refine course.boundedInvariant (fun history => refusals history < 2 ^ 64) Balanced ?_
      (.initially startsEmpty noneDetached) (fun effect few balanced => balanced.change effect few)
      few
    exact fun few => Nat.lt_of_le_of_lt (refusals_le_append _ _) few
  exact balanced.conserved

/-- Whatever any number of parties do at a scheduler that starts without items, no item is lost,
duplicated or dispatched twice, as long as fewer than 2^64 refused items are kept aside.  What the
next step tells of creations, calls and releases is what it does, and it puts nothing to run but
by the tasks of the party that makes it. -/
theorem Parties.items_conserved
    (act : Interpretation κ D ε)
    (mover : Nat → Nat)
    (parties : Parties SlotStore κ D ε)
    (limit : Option Nat)
    (startsEmpty : parties.scheduler.store = .empty limit)
    (noneDetached : parties.scheduler.detached = .empty)
    (steps : Nat)
    (few : refusals (parties.history act mover steps) < 2 ^ 64) :
    Conserved (parties.history act mover steps) (parties.after act mover steps).scheduler ∧
      Faithful act ((parties.after act mover steps).execution (mover steps)) ∧
      (parties.after act mover (steps + 1)).tasks =
        Function.update (parties.after act mover steps).tasks (mover steps)
          (((parties.after act mover steps).execution (mover steps)).step act).2.tasks := by
  refine ⟨?_, ?_, ?_⟩
  · exact (parties.course act mover).conserved startsEmpty noneDetached few
  · exact Execution.faithful act _
  · rfl

theorem Parties.items_conserved_visit :
    visit.scheduler.store = .empty (some 2) ∧
      visit.scheduler.detached = .empty ∧
      refusals (visit.history visitAct visitMover 29) < 2 ^ 64 ∧
      ((accountsOf (visit.history visitAct visitMover 29)).filterMap Account.pending?).map
        Prod.fst = [.detached 0] ∧
      Conserved (visit.history visitAct visitMover 29)
        (visit.after visitAct visitMover 29).scheduler ∧
      Faithful visitAct ((visit.after visitAct visitMover 29).execution (visitMover 29)) ∧
      (visit.after visitAct visitMover (29 + 1)).tasks =
        Function.update (visit.after visitAct visitMover 29).tasks (visitMover 29)
          (((visit.after visitAct visitMover 29).execution (visitMover 29)).step
            visitAct).2.tasks := by
  have few : refusals (visit.history visitAct visitMover 29) < 2 ^ 64 := by
    decide +kernel
  refine ⟨rfl, rfl, few, by decide +kernel, ?_⟩
  exact items_conserved visitAct visitMover visit (some 2) rfl rfl 29 few

end Agenda
