/-!
# Notifications through a channel

Sources register with a channel and notify it when they have input.  A poll takes every
notification that is queued and adds it to the list of ready sources, which is handed over and
cleared at once.  Nothing is lost or reordered on the way, not even when a source is dropped.
Notifications are refused once the channel is closed.
-/

namespace Agenda

/-- The number of a source. -/
abbrev SourceId := UInt64

namespace SourceId

/-- The wording of a source. -/
def text (source : SourceId) : String := "source-" ++ toString source.toNat

end SourceId

/-- A channel through which sources tell that they have input. -/
structure Channel where
  /-- Notifications that no poll has taken yet, the newest first. -/
  incoming : List SourceId
  /-- Notifications that polls have taken, the newest first. -/
  taken : List SourceId
  /-- How many sources are registered and not dropped. -/
  registered : Nat
  /-- The number for the next source. -/
  nextSource : SourceId
  /-- Whether notifications are still taken. -/
  isOpen : Bool
  deriving DecidableEq, Repr

namespace Channel

/-- A channel without sources. -/
def empty : Channel := ⟨[], [], 0, 0, true⟩

/-- Notifications that no poll has taken yet, the oldest first. -/
def queue (channel : Channel) : List SourceId := channel.incoming.reverse

/-- The ready sources: notifications that polls have taken, the oldest first. -/
def ready (channel : Channel) : List SourceId := channel.taken.reverse

/-- Register a source. -/
def register (channel : Channel) : SourceId × Channel :=
  (channel.nextSource,
    { channel with
      registered := channel.registered + 1
      nextSource := channel.nextSource + 1 })

/-- Register a number of sources. -/
def registerMany : Nat → Channel → List SourceId × Channel
  | 0, channel => ([], channel)
  | count + 1, channel =>
      let (source, registered) := channel.register
      let (sources, filled) := registerMany count registered
      (source :: sources, filled)

/-- Queue a notification from a source, and say whether it was taken. -/
def notify (channel : Channel) (source : SourceId) : Bool × Channel :=
  if channel.isOpen then (true, { channel with incoming := source :: channel.incoming })
  else (false, channel)

/-- Take no notification from now on. -/
def close (channel : Channel) : Channel := { channel with isOpen := false }

/-- Drop a registered source. -/
def drop (channel : Channel) : Channel :=
  { channel with registered := channel.registered - 1 }

/-- Take what is queued, and say how much that was. -/
def poll (channel : Channel) : Nat × Channel :=
  (channel.incoming.length,
    { channel with incoming := [], taken := channel.incoming ++ channel.taken })

/-- Hand over the ready sources. -/
def takeReady (channel : Channel) : List SourceId × Channel :=
  (channel.ready, { channel with taken := [] })

/-- A description of a channel that counts its sources. -/
def description (channel : Channel) : String :=
  "ChannelPoller \x7b registered: " ++ toString channel.registered ++ ", ready: " ++
    toString channel.taken.length ++ ", .. \x7d"

@[simp] theorem queue_notify {channel : Channel} (isOpen : channel.isOpen = true)
    (source : SourceId) : (channel.notify source).2.queue = channel.queue ++ [source] := by
  simp [notify, queue, isOpen]

@[simp] theorem queue_poll (channel : Channel) : channel.poll.2.queue = [] := rfl

/-- A poll moves what is queued behind what is ready. -/
@[simp] theorem ready_poll (channel : Channel) :
    channel.poll.2.ready = channel.ready ++ channel.queue := by
  simp [poll, ready, queue]

@[simp] theorem poll_fst (channel : Channel) : channel.poll.1 = channel.queue.length := by
  simp [poll, queue]

end Channel
end Agenda
