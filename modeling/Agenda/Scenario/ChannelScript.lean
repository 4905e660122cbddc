import Agenda.Channel

/-!
# Scripts for a channel

A channel is held once, together with the sources that are registered with it.  Sources outlive
the channel: once it is closed their notifications are refused, and nothing else is left to ask.
-/

namespace Agenda
namespace Scenario

/-- What can be asked of a channel and its sources. -/
inductive ChannelStep where
  | register
  | notify (source : Nat)
  | drop (source : Nat)
  | poll
  | takeReady
  | debug
  /-- Close the channel for good. -/
  | close

/-- What a step on a channel answers. -/
inductive ChannelAnswer where
  | nothing
  | truth (value : Bool)
  | count (value : Nat)
  | text (value : String)
  | registered (source : SourceId)
  | sources (sources : List SourceId)
  /-- The channel is closed. -/
  | closed

/-- A channel, and the sources registered with it, in their order, as far as they are not
dropped. -/
structure ChannelScene where
  /-- The channel. -/
  channel : Channel
  /-- The sources. -/
  senders : Array (Option SourceId)

namespace ChannelScene

/-- Carry out a step that only an open channel can answer. -/
def whenOpen (scene : ChannelScene) (answer : ChannelAnswer × ChannelScene) :
    ChannelAnswer × ChannelScene :=
  if scene.channel.isOpen then answer else (.closed, scene)

/-- The source at a place, if it is not dropped. -/
def sender? (scene : ChannelScene) (source : Nat) : Option SourceId :=
  (scene.senders[source]?).join

/-- Carry out a step. -/
def perform (scene : ChannelScene) : ChannelStep → ChannelAnswer × ChannelScene
  | .register =>
      let (source, channel) := scene.channel.register
      scene.whenOpen (.registered source, ⟨channel, scene.senders.push (some source)⟩)
  | .notify source =>
      match scene.sender? source with
      | none => (.nothing, scene)
      | some sender =>
          let (taken, channel) := scene.channel.notify sender
          (.truth taken, { scene with channel })
  | .drop source =>
      match scene.sender? source with
      | none => (.nothing, scene)
      | some _ => (.truth true, ⟨scene.channel.drop, scene.senders.setIfInBounds source none⟩)
  | .poll =>
      let (count, channel) := scene.channel.poll
      scene.whenOpen (.count count, { scene with channel })
  | .takeReady =>
      let (sources, channel) := scene.channel.takeReady
      scene.whenOpen (.sources sources, { scene with channel })
  | .debug => scene.whenOpen (.text scene.channel.description, scene)
  | .close => (.nothing, { scene with channel := scene.channel.close })

/-- The number of registered sources while the channel is open. -/
def sourceCount? (scene : ChannelScene) : Option Nat :=
  if scene.channel.isOpen then some scene.channel.registered else none

/-- Carry out steps, and pair each answer with the number of sources after it. -/
def play : ChannelScene → List ChannelStep → List (ChannelAnswer × Option Nat)
  | _, [] => []
  | scene, step :: steps =>
      let (answer, next) := scene.perform step
      (answer, next.sourceCount?) :: play next steps

end ChannelScene

/-- Carry out steps on a channel without sources. -/
def playChannel (steps : List ChannelStep) : List (ChannelAnswer × Option Nat) :=
  ChannelScene.play ⟨.empty, #[]⟩ steps

end Scenario
end Agenda
