import Agenda.Channel
import Mathlib.Algebra.Group.Nat.Defs
import Mathlib.Data.List.Nodup
import Mathlib.Data.List.Perm.Basic

/-!
# No notification is lost

Several sources and one poller work at a channel at the same time.  A poll takes the notifications
one by one, so while it is under way sources may come and go and notify the channel.  In whatever
order all of this happens, each notification passes through the queue and the list of ready sources
in the order in which it was made, and it is handed over once.
-/

namespace Agenda
namespace Channel

/-! ## Sessions -/

/-- Take the oldest notification that is queued. -/
def receive (channel : Channel) : Option Channel :=
  match channel.queue with
  | [] => none
  | source :: later =>
      some { channel with incoming := later.reverse, taken := source :: channel.taken }

/-- A poll that is under way. -/
structure Polling where
  /-- The channel when the poll began. -/
  began : Channel
  /-- How many notifications the poll has taken. -/
  received : Nat

/-- A channel, the sources that can notify it, and the poll that is under way. -/
structure Session where
  /-- The channel. -/
  channel : Channel
  /-- The sources that are registered and not dropped, the oldest first. -/
  senders : List SourceId
  /-- The poll that is under way, if there is one. -/
  polling : Option Polling

/-- What can be done to a channel next. -/
inductive Move where
  /-- A source is registered. -/
  | register
  /-- The source at a place notifies the channel. -/
  | notify (place : Nat)
  /-- The source at a place is dropped. -/
  | drop (place : Nat)
  /-- A poll begins, or the one that is under way goes on. -/
  | poll
  /-- The time of a poll that has taken nothing is over. -/
  | timeOut
  /-- The ready sources are handed over; this waits for a poll that is under way. -/
  | takeReady

/-- What is told of a move. -/
inductive Note where
  /-- A source was registered. -/
  | registered (source : SourceId)
  /-- A source notified the channel and was told whether the notification was taken. -/
  | notified (source : SourceId) (answer : Bool)
  /-- A source was dropped. -/
  | dropped (source : SourceId)
  /-- A poll returned: the channel when it began, what it returned, and the channel afterwards. -/
  | polled (began : Channel) (count : Nat) (ended : Channel)
  /-- The ready sources were handed over. -/
  | handedOver (sources : List SourceId)

namespace Session

/-- Nobody has done anything yet. -/
def start : Session := ⟨.empty, [], none⟩

/-- Register a source. -/
def register (session : Session) : List Note × Session :=
  let (source, channel) := session.channel.register
  ([.registered source], { session with channel, senders := session.senders ++ [source] })

/-- The source at a place notifies the channel. -/
def notify (session : Session) (place : Nat) : List Note × Session :=
  match session.senders[place]? with
  | none => ([], session)
  | some source =>
      let (answer, channel) := session.channel.notify source
      ([.notified source answer], { session with channel })

/-- Drop the source at a place. -/
def drop (session : Session) (place : Nat) : List Note × Session :=
  match session.senders[place]? with
  | none => ([], session)
  | some source =>
      ([.dropped source],
        { session with
          channel := session.channel.drop
          senders := session.senders.eraseIdx place })

/-- The poll that is under way, or one that begins. -/
def current (session : Session) : Polling := session.polling.getD ⟨session.channel, 0⟩

/-- A poll begins or goes on, and takes a notification.  Where none is queued it returns, unless it
has taken nothing: then it waits. -/
def poll (session : Session) : List Note × Session :=
  let polling := session.current
  match session.channel.receive with
  | some channel =>
      ([],
        { session with
          channel
          polling := some { polling with received := polling.received + 1 } })
  | none =>
      if polling.received = 0 then ([], { session with polling := some polling })
      else
        ([.polled polling.began polling.received session.channel],
          { session with polling := none })

/-- A poll that has taken nothing returns, whatever was queued while it waited. -/
def timeOut (session : Session) : List Note × Session :=
  match session.polling with
  | some ⟨began, 0⟩ => ([.polled began 0 session.channel], { session with polling := none })
  | _ => ([], session)

/-- Hand over the ready sources, unless a poll is under way. -/
def takeReady (session : Session) : List Note × Session :=
  match session.polling with
  | some _ => ([], session)
  | none =>
      let (sources, channel) := session.channel.takeReady
      ([.handedOver sources], { session with channel })

/-- Make a move; one that is not possible does nothing. -/
def step (session : Session) : Move → List Note × Session
  | .register => session.register
  | .notify place => session.notify place
  | .drop place => session.drop place
  | .poll => session.poll
  | .timeOut => session.timeOut
  | .takeReady => session.takeReady

/-- Make moves one after the other. -/
def run (session : Session) : List Move → List Note × Session
  | [] => ([], session)
  | move :: moves =>
      let (notes, next) := session.step move
      let (later, last) := next.run moves
      (notes ++ later, last)

end Session

/-! ## What is told -/

namespace Note

/-- The source that was registered. -/
def registered? : Note → Option SourceId
  | registered source => some source
  | _ => none

/-- The source that has notified. -/
def notified? : Note → Option SourceId
  | notified source _ => some source
  | _ => none

/-- The source that was dropped. -/
def dropped? : Note → Option SourceId
  | dropped source => some source
  | _ => none

/-- The sources that were handed over. -/
def handedOver? : Note → Option (List SourceId)
  | handedOver sources => some sources
  | _ => none

end Note

/-- The sources that were registered, in their order. -/
def registrations (history : List Note) : List SourceId := history.filterMap Note.registered?

/-- The sources that have notified, in the order of their notifications. -/
def notifications (history : List Note) : List SourceId := history.filterMap Note.notified?

/-- The sources that were dropped. -/
def departures (history : List Note) : List SourceId := history.filterMap Note.dropped?

/-- The sources that were handed over as ready, in their order. -/
def deliveries (history : List Note) : List SourceId :=
  (history.filterMap Note.handedOver?).flatten

@[simp] theorem registrations_append (history notes : List Note) :
    registrations (history ++ notes) = registrations history ++ registrations notes :=
  List.filterMap_append

@[simp] theorem notifications_append (history notes : List Note) :
    notifications (history ++ notes) = notifications history ++ notifications notes :=
  List.filterMap_append

@[simp] theorem departures_append (history notes : List Note) :
    departures (history ++ notes) = departures history ++ departures notes :=
  List.filterMap_append

@[simp] theorem deliveries_append (history notes : List Note) :
    deliveries (history ++ notes) = deliveries history ++ deliveries notes := by
  rw [deliveries, List.filterMap_append, List.flatten_append]
  rfl

/-! ## One notification is taken -/

theorem receive_eq_none
    {channel : Channel}
    (nothingQueued : channel.receive = none) :
    channel.queue = [] := by
  unfold receive at nothingQueued
  split at nothingQueued
  · assumption
  · cases nothingQueued

theorem receive_of_queue_eq_nil
    {channel : Channel}
    (nothingQueued : channel.queue = []) :
    channel.receive = none := by
  rw [receive, nothingQueued]

/-- The oldest notification becomes the last of the ready ones, and nothing else is changed. -/
theorem receive_eq_some
    {channel next : Channel}
    (received : channel.receive = some next) :
    ∃ source, channel.queue = source :: next.queue ∧ next.ready = channel.ready ++ [source] ∧
      next = { channel with incoming := next.incoming, taken := next.taken } := by
  unfold receive at received
  split at received
  · cases received
  · next source later queue_eq =>
      cases received
      refine ⟨source, ?_, List.reverse_cons, rfl⟩
      rw [queue_eq, queue, List.reverse_reverse]

theorem notify_of_isOpen
    {channel : Channel}
    (isOpen : channel.isOpen = true)
    (source : SourceId) :
    channel.notify source = (true, { channel with incoming := source :: channel.incoming }) :=
  if_pos isOpen

theorem nextSource_notify (channel : Channel) (source : SourceId) :
    (channel.notify source).2.nextSource = channel.nextSource := by
  unfold notify
  split <;> rfl

theorem registered_notify (channel : Channel) (source : SourceId) :
    (channel.notify source).2.registered = channel.registered := by
  unfold notify
  split <;> rfl

/-! ## What a move changes -/

namespace Session

/-- The changes that a move can make, and what is told of them. -/
inductive Change (session : Session) : List Note → Session → Prop where
  /-- The move is not possible. -/
  | idle : Change session [] session
  /-- A source is registered. -/
  | registered :
      Change session [.registered session.channel.nextSource]
        { session with channel := session.channel.register.2
                       senders := session.senders ++ [session.channel.nextSource] }
  /-- A source notifies. -/
  | notified {source : SourceId} :
      source ∈ session.senders →
      Change session [.notified source (session.channel.notify source).1]
        { session with channel := (session.channel.notify source).2 }
  /-- A source is dropped. -/
  | dropped {source : SourceId} {others : List SourceId} :
      session.senders.Perm (source :: others) →
      Change session [.dropped source]
        { session with channel := session.channel.drop, senders := others }
  /-- A poll takes a notification. -/
  | received {began next : Channel} {count : Nat} :
      session.current = ⟨began, count⟩ →
      session.channel.receive = some next →
      Change session []
        { session with channel := next, polling := some ⟨began, count + 1⟩ }
  /-- A poll waits. -/
  | waits {began : Channel} :
      session.current = ⟨began, 0⟩ →
      session.channel.queue = [] →
      Change session [] { session with polling := some ⟨began, 0⟩ }
  /-- A poll returns. -/
  | returns {began : Channel} {count : Nat} :
      session.polling = some ⟨began, count⟩ →
      Change session [.polled began count session.channel] { session with polling := none }
  /-- The ready sources are handed over. -/
  | handedOver :
      session.polling = none →
      Change session [.handedOver session.channel.ready]
        { session with channel := session.channel.takeReady.2 }

theorem current_eq
    {session : Session}
    {polling : Polling}
    (isCurrent : session.current = polling) :
    session.polling = some polling ∨
      session.polling = none ∧ polling = ⟨session.channel, 0⟩ := by
  rw [← isCurrent, current]
  cases session.polling with
  | none => exact Or.inr ⟨rfl, rfl⟩
  | some underWay => exact Or.inl rfl

theorem notify_change (session : Session) (place : Nat) :
    session.Change (session.notify place).1 (session.notify place).2 := by
  unfold notify
  split
  · exact .idle
  · next source found => exact .notified (List.mem_of_getElem? found)

theorem drop_change (session : Session) (place : Nat) :
    session.Change (session.drop place).1 (session.drop place).2 := by
  unfold drop
  split
  · exact .idle
  · next source found =>
      obtain ⟨inBounds, rfl⟩ := List.getElem?_eq_some_iff.mp found
      exact .dropped (List.getElem_cons_eraseIdx_perm inBounds).symm

theorem poll_change (session : Session) :
    session.Change session.poll.1 session.poll.2 := by
  obtain ⟨⟨began, count⟩, isCurrent⟩ : ∃ polling, session.current = polling := ⟨_, rfl⟩
  unfold poll
  rw [isCurrent]
  cases received : session.channel.receive with
  | some next => exact .received isCurrent received
  | none =>
      cases count with
      | zero => exact .waits isCurrent (receive_eq_none received)
      | succ count =>
          rcases current_eq isCurrent with underWay | ⟨-, begins⟩
          · exact .returns underWay
          · cases begins

theorem timeOut_change (session : Session) :
    session.Change session.timeOut.1 session.timeOut.2 := by
  unfold timeOut
  split
  · next began underWay => exact .returns underWay
  · exact .idle

theorem takeReady_change (session : Session) :
    session.Change session.takeReady.1 session.takeReady.2 := by
  unfold takeReady
  split
  · exact .idle
  · next noPoll => exact .handedOver noPoll

theorem step_change (session : Session) (move : Move) :
    session.Change (session.step move).1 (session.step move).2 := by
  cases move with
  | register => exact .registered
  | notify place => exact session.notify_change place
  | drop place => exact session.drop_change place
  | poll => exact session.poll_change
  | timeOut => exact session.timeOut_change
  | takeReady => exact session.takeReady_change

/-- What every change preserves holds after any moves. -/
theorem run_preserve
    {Invariant : List Note → Session → Prop}
    (preserves : ∀ {history session notes next},
      session.Change notes next → Invariant history session → Invariant (history ++ notes) next)
    (moves : List Move)
    {history : List Note}
    {session : Session}
    (holds : Invariant history session) :
    Invariant (history ++ (session.run moves).1) (session.run moves).2 := by
  induction moves generalizing history session with
  | nil => rwa [run, List.append_nil]
  | cons move moves inductionHypothesis =>
      rw [run, ← List.append_assoc]
      exact inductionHypothesis (preserves (session.step_change move) holds)

end Session

/-! ## Notifications -/

/-- A poll has added a number of sources to the ready ones, and it has added some if any
notification was queued when it began. -/
structure Moved (began : Channel) (count : Nat) (ready : List SourceId) : Prop where
  /-- As many sources are ready in addition. -/
  exists_appended : ∃ appended, ready = began.ready ++ appended ∧ appended.length = count
  /-- Where the poll has added nothing, nothing was queued when it began. -/
  queue_eq_nil : count = 0 → began.queue = []

/-- What a note promises: a notification was taken, and a poll has returned how many sources it has
added to the ready ones. -/
def Note.Holds : Note → Prop
  | .notified _ answer => answer = true
  | .polled began count ended => Moved began count ended.ready
  | _ => True

/-- The notifications flow through the channel in their order. -/
structure Flows (history : List Note) (session : Session) : Prop where
  /-- The channel takes notifications. -/
  isOpen : session.channel.isOpen = true
  /-- What was handed over, what is ready and what is queued are the notifications. -/
  notifications_eq : deliveries history ++ session.channel.ready ++ session.channel.queue =
    notifications history
  /-- The poll that is under way has counted what it has taken. -/
  polling : ∀ polling, session.polling = some polling →
    Moved polling.began polling.received session.channel.ready
  /-- All notes are right. -/
  holds : ∀ note ∈ history, note.Holds

namespace Flows

variable {history notes : List Note} {session next : Session}

/-- A poll that begins has not taken anything yet. -/
theorem exists_appended
    (flows : Flows history session)
    {began : Channel}
    {count : Nat}
    (isCurrent : session.current = ⟨began, count⟩) :
    ∃ appended, session.channel.ready = began.ready ++ appended ∧ appended.length = count := by
  rcases Session.current_eq isCurrent with underWay | ⟨-, begins⟩
  · exact (flows.polling _ underWay).exists_appended
  · cases begins
    exact ⟨[], (List.append_nil _).symm, rfl⟩

theorem change
    (flows : Flows history session)
    (change : session.Change notes next) :
    Flows (history ++ notes) next := by
  have noteHolds : ∀ {note : Note}, note.Holds → ∀ told ∈ history ++ [note], told.Holds :=
    fun holds => List.forall_mem_append.mpr ⟨flows.holds, List.forall_mem_singleton.mpr holds⟩
  have sameNotifications : ∀ {note : Note}, deliveries [note] = [] → notifications [note] = [] →
      deliveries (history ++ [note]) ++ session.channel.ready ++ session.channel.queue =
        notifications (history ++ [note]) := by
    intro note noDelivery noNotification
    rw [deliveries_append, notifications_append, noDelivery, noNotification, List.append_nil,
      List.append_nil]
    exact flows.notifications_eq
  cases change with
  | idle =>
      rw [List.append_nil]
      exact flows
  | registered =>
      exact ⟨flows.isOpen, sameNotifications rfl rfl, flows.polling, noteHolds trivial⟩
  | @notified source present =>
      rw [notify_of_isOpen flows.isOpen]
      refine ⟨flows.isOpen, ?_, flows.polling, noteHolds rfl⟩
      rw [deliveries_append, notifications_append, ← flows.notifications_eq]
      show deliveries history ++ [] ++ session.channel.ready ++
          (source :: session.channel.incoming).reverse = _
      rw [List.reverse_cons, List.append_nil, ← List.append_assoc]
      rfl
  | dropped senders_perm =>
      exact ⟨flows.isOpen, sameNotifications rfl rfl, flows.polling, noteHolds trivial⟩
  | @received began reached count isCurrent received =>
      obtain ⟨source, queue_eq, ready_eq, same⟩ := receive_eq_some received
      obtain ⟨appended, appended_eq, length_eq⟩ := flows.exists_appended isCurrent
      rw [List.append_nil]
      refine ⟨?_, ?_, ?_, flows.holds⟩
      · rw [same]
        exact flows.isOpen
      · rw [← flows.notifications_eq, queue_eq, ready_eq, List.append_assoc, List.append_assoc,
          List.append_assoc]
        rfl
      · intro polling underWay
        cases underWay
        refine ⟨⟨appended ++ [source], ?_, ?_⟩, nofun⟩
        · rw [ready_eq, appended_eq, List.append_assoc]
        · rw [List.length_append, length_eq]
          rfl
  | waits isCurrent nothingQueued =>
      rw [List.append_nil]
      refine ⟨flows.isOpen, flows.notifications_eq, ?_, flows.holds⟩
      intro polling waiting
      cases waiting
      refine ⟨flows.exists_appended isCurrent, fun _ => ?_⟩
      rcases Session.current_eq isCurrent with underWay | ⟨-, begins⟩
      · exact (flows.polling _ underWay).queue_eq_nil rfl
      · cases begins
        exact nothingQueued
  | returns underWay =>
      refine ⟨flows.isOpen, sameNotifications rfl rfl, ?_, noteHolds (flows.polling _ underWay)⟩
      intro polling noPoll
      cases noPoll
  | handedOver noPoll =>
      refine ⟨flows.isOpen, ?_, ?_, noteHolds trivial⟩
      · rw [deliveries_append, notifications_append]
        show deliveries history ++ (session.channel.ready ++ []) ++ [] ++ session.channel.queue =
          notifications history ++ []
        rw [List.append_nil, List.append_nil, List.append_nil]
        exact flows.notifications_eq
      · intro polling underWay
        rw [noPoll] at underWay
        cases underWay

end Flows

/-! ## Sources -/

/-- The sources are those that were registered and not dropped. -/
structure Enrolled (history : List Note) (session : Session) : Prop where
  /-- The numbers of sources count their registrations. -/
  registrations_eq : registrations history =
    (List.range (registrations history).length).map UInt64.ofNat
  /-- The next number counts the registrations, too. -/
  nextSource_eq : session.channel.nextSource = UInt64.ofNat (registrations history).length
  /-- What was registered is still registered or was dropped. -/
  registrations_perm : (registrations history).Perm (session.senders ++ departures history)
  /-- The sources are counted. -/
  registered_eq : session.channel.registered = session.senders.length

namespace Enrolled

variable {history notes : List Note} {session next : Session}

theorem change
    (enrolled : Enrolled history session)
    (change : session.Change notes next) :
    Enrolled (history ++ notes) next := by
  have sameSources : ∀ {notes : List Note} {channel : Channel} {polling : Option Polling},
      registrations notes = [] → departures notes = [] →
      channel.nextSource = session.channel.nextSource →
      channel.registered = session.channel.registered →
      Enrolled (history ++ notes) ⟨channel, session.senders, polling⟩ := by
    intro notes channel polling noRegistration noDeparture nextSource_eq registered_eq
    constructor
    · rw [registrations_append, noRegistration, List.append_nil]
      exact enrolled.registrations_eq
    · rw [registrations_append, noRegistration, List.append_nil]
      exact nextSource_eq.trans enrolled.nextSource_eq
    · rw [registrations_append, noRegistration, departures_append, noDeparture, List.append_nil,
        List.append_nil]
      exact enrolled.registrations_perm
    · exact registered_eq.trans enrolled.registered_eq
  cases change with
  | idle => exact sameSources rfl rfl rfl rfl
  | registered =>
      have registrations_then : registrations (history ++ [.registered session.channel.nextSource]) =
          registrations history ++ [session.channel.nextSource] := registrations_append _ _
      have departures_then : departures (history ++ [.registered session.channel.nextSource]) =
          departures history := (departures_append _ _).trans (List.append_nil _)
      constructor
      · rw [registrations_then, List.length_append, List.length_singleton, List.range_succ,
          List.map_append, ← enrolled.registrations_eq, enrolled.nextSource_eq]
        rfl
      · rw [registrations_then, List.length_append, List.length_singleton, UInt64.ofNat_add,
          ← enrolled.nextSource_eq]
        rfl
      · rw [registrations_then, departures_then, List.append_assoc]
        refine (enrolled.registrations_perm.append_right _).trans ?_
        rw [List.append_assoc]
        exact List.perm_append_comm.append_left _
      · rw [List.length_append, ← enrolled.registered_eq]
        rfl
  | @notified source present =>
      exact sameSources rfl rfl (nextSource_notify _ source) (registered_notify _ source)
  | @dropped source others senders_perm =>
      have registrations_then : registrations (history ++ [.dropped source]) =
          registrations history := (registrations_append _ _).trans (List.append_nil _)
      have departures_then : departures (history ++ [.dropped source]) =
          departures history ++ [source] := departures_append _ _
      constructor
      · rw [registrations_then]
        exact enrolled.registrations_eq
      · rw [registrations_then]
        exact enrolled.nextSource_eq
      · rw [registrations_then, departures_then, ← List.append_assoc]
        refine enrolled.registrations_perm.trans ?_
        exact (senders_perm.append_right _).trans (List.perm_append_singleton _ _).symm
      · show session.channel.registered - 1 = others.length
        rw [enrolled.registered_eq, senders_perm.length_eq]
        rfl
  | received isCurrent received =>
      obtain ⟨source, -, -, same⟩ := receive_eq_some received
      refine sameSources rfl rfl ?_ ?_
      · rw [same]
      · rw [same]
  | waits isCurrent nothingQueued => exact sameSources rfl rfl rfl rfl
  | returns underWay => exact sameSources rfl rfl rfl rfl
  | handedOver noPoll => exact sameSources rfl rfl rfl rfl

/-- As long as the numbers suffice, no two sources have the same. -/
theorem registrations_nodup
    (enrolled : Enrolled history session)
    (suffice : (registrations history).length ≤ 2 ^ 64) :
    (registrations history).Nodup := by
  rw [enrolled.registrations_eq]
  refine List.Nodup.map_on ?_ List.nodup_range
  intro number inRange other otherInRange same
  rw [List.mem_range] at inRange otherInRange
  have toNat_eq := congrArg UInt64.toNat same
  rwa [UInt64.toNat_ofNat', UInt64.toNat_ofNat', Nat.mod_eq_of_lt (by omega),
    Nat.mod_eq_of_lt (by omega)] at toNat_eq

end Enrolled

/-! ## Polls that nothing interrupts -/

theorem poll_of_queue_eq_nil
    {channel : Channel}
    (nothingQueued : channel.queue = []) :
    channel.poll = (0, channel) := by
  have incoming_eq : channel.incoming = [] := List.reverse_eq_nil_iff.mp nothingQueued
  rw [poll, incoming_eq]
  cases channel
  cases incoming_eq
  rfl

/-- A poll may take the oldest notification first. -/
theorem poll_of_receive
    {channel next : Channel}
    (received : channel.receive = some next) :
    channel.poll = (next.poll.1 + 1, next.poll.2) := by
  obtain ⟨source, queue_eq, ready_eq, same⟩ := receive_eq_some received
  have incoming_eq : channel.incoming = next.incoming ++ [source] := by
    have reversed := congrArg List.reverse queue_eq
    rwa [queue, queue, List.reverse_reverse, List.reverse_cons, List.reverse_reverse] at reversed
  have taken_eq : next.taken = source :: channel.taken := by
    have reversed := congrArg List.reverse ready_eq
    rwa [ready, ready, List.reverse_reverse, List.reverse_append, List.reverse_reverse] at reversed
  rw [same, poll, poll, incoming_eq, taken_eq, List.length_append, List.append_assoc]
  rfl

namespace Session

/-- The moves of a poll that nothing interrupts, for as many notifications as are queued. -/
def pollMoves (queued : Nat) : List Move := List.replicate (queued + 1) .poll ++ [.timeOut]

theorem run_poll
    {session next : Session}
    {notes : List Note}
    (polled : session.poll = (notes, next))
    (moves : List Move) :
    session.run (.poll :: moves) = (notes ++ (next.run moves).1, (next.run moves).2) := by
  rw [run, step, polled]

/-- A poll that has taken something and is not interrupted takes all that is queued. -/
theorem run_pollMoves_of_received
    (channel began : Channel)
    (senders : List SourceId)
    (count : Nat) :
    (⟨channel, senders, some ⟨began, count + 1⟩⟩ : Session).run
        (pollMoves channel.queue.length) =
      ([.polled began (count + 1 + channel.poll.1) channel.poll.2],
        ⟨channel.poll.2, senders, none⟩) := by
  obtain ⟨queued, queued_eq⟩ : ∃ queued, channel.queue.length = queued := ⟨_, rfl⟩
  induction queued generalizing channel count with
  | zero =>
      have nothingQueued := List.length_eq_zero_iff.mp queued_eq
      have returns : (⟨channel, senders, some ⟨began, count + 1⟩⟩ : Session).poll =
          ([.polled began (count + 1) channel], ⟨channel, senders, none⟩) := by
        simp only [poll, receive_of_queue_eq_nil nothingQueued]
        rfl
      rw [queued_eq, poll_of_queue_eq_nil nothingQueued]
      exact run_poll returns [.timeOut]
  | succ queued inductionHypothesis =>
      cases received : channel.receive with
      | none =>
          rw [receive_eq_none received] at queued_eq
          cases queued_eq
      | some next =>
          obtain ⟨source, queue_eq, -, -⟩ := receive_eq_some received
          have laterQueued : next.queue.length = queued := by
            rw [queue_eq] at queued_eq
            exact Nat.succ.inj queued_eq
          have takes : (⟨channel, senders, some ⟨began, count + 1⟩⟩ : Session).poll =
              ([], ⟨next, senders, some ⟨began, count + 1 + 1⟩⟩) := by
            simp only [poll, received]
            rfl
          have goesOn := inductionHypothesis next (count + 1) laterQueued
          rw [laterQueued] at goesOn
          rw [queued_eq, poll_of_receive received, Nat.add_comm next.poll.1, ← Nat.add_assoc,
            ← goesOn]
          exact run_poll takes (pollMoves queued)

/-- A poll that nothing interrupts takes all that is queued at once. -/
theorem run_pollMoves
    {session : Session}
    (noPoll : session.polling = none) :
    session.run (pollMoves session.channel.queue.length) =
      ([.polled session.channel session.channel.poll.1 session.channel.poll.2],
        { session with channel := session.channel.poll.2 }) := by
  obtain ⟨channel, senders, polling⟩ := session
  cases noPoll
  dsimp only
  cases received : channel.receive with
  | none =>
      have nothingQueued := receive_eq_none received
      have waits : (⟨channel, senders, none⟩ : Session).poll =
          ([], ⟨channel, senders, some ⟨channel, 0⟩⟩) := by
        simp only [poll, received]
        rfl
      rw [nothingQueued, poll_of_queue_eq_nil nothingQueued]
      exact run_poll waits [.timeOut]
  | some next =>
      obtain ⟨source, queue_eq, -, -⟩ := receive_eq_some received
      have takes : (⟨channel, senders, none⟩ : Session).poll =
          ([], ⟨next, senders, some ⟨channel, 0 + 1⟩⟩) := by
        simp only [poll, received]
        rfl
      rw [queue_eq, List.length_cons, poll_of_receive received, Nat.add_comm next.poll.1,
        ← Nat.zero_add 1, ← run_pollMoves_of_received next channel senders 0]
      exact run_poll takes (pollMoves next.queue.length)

end Session

/-! ## Every session -/

/-- What is right in a session after a history, whoever has done what in which order. -/
structure Faithful (history : List Note) (session : Session) : Prop where
  /-- What was handed over, what is ready and what is queued are the notifications of all sources,
  dropped ones included, in the order in which they were made. -/
  notifications_eq : deliveries history ++ session.channel.ready ++ session.channel.queue =
    notifications history
  /-- A poll has returned how many sources it has added to the ready ones, and it has returned none
  only if nothing was queued when it began. -/
  polls : ∀ began count ended, .polled began count ended ∈ history →
    Moved began count ended.ready
  /-- Every source was told that its notification was taken. -/
  taken : ∀ source answer, .notified source answer ∈ history → answer = true
  /-- No two sources have the same number. -/
  registrations_nodup : (registrations history).length ≤ 2 ^ 64 → (registrations history).Nodup
  /-- What was registered is still registered or was dropped. -/
  registrations_perm : (registrations history).Perm (session.senders ++ departures history)
  /-- The sources that are registered and not dropped are counted. -/
  registered_eq : session.channel.registered = session.senders.length
  /-- A poll that begins now and is not interrupted takes all that is queued at once. -/
  poll_eq : session.polling = none →
    session.run (Session.pollMoves session.channel.queue.length) =
      ([.polled session.channel session.channel.poll.1 session.channel.poll.2],
        { session with channel := session.channel.poll.2 })

/-- Nothing is lost, done twice or put in another order, however the moves of the sources and of the
poller are interleaved. -/
theorem session_is_faithful (moves : List Move) :
    Faithful (Session.start.run moves).1 (Session.start.run moves).2 := by
  have startFlows : Flows [] Session.start := ⟨rfl, rfl, nofun, nofun⟩
  have startEnrolled : Enrolled [] Session.start := ⟨rfl, rfl, .refl _, rfl⟩
  have flows : Flows ([] ++ (Session.start.run moves).1) (Session.start.run moves).2 :=
    Session.run_preserve (fun change flows => flows.change change) moves startFlows
  have enrolled : Enrolled ([] ++ (Session.start.run moves).1) (Session.start.run moves).2 :=
    Session.run_preserve (fun change enrolled => enrolled.change change) moves startEnrolled
  rw [List.nil_append] at flows enrolled
  refine ⟨flows.notifications_eq, fun _ _ _ told => flows.holds _ told,
    fun _ _ told => flows.holds _ told, enrolled.registrations_nodup, enrolled.registrations_perm,
    enrolled.registered_eq, Session.run_pollMoves⟩

/-- The first poll waits in vain, but what is queued when its time is over is not lost. -/
example :
    deliveries (Session.start.run [.register, .register, .poll, .notify 1, .timeOut, .drop 1,
      .notify 0, .poll, .notify 0, .poll, .poll, .poll, .takeReady]).1 = [1, 0, 0] := by decide

end Channel
end Agenda
