import Agenda.Channel
import Agenda.Config.Basic
import Agenda.Config.Text
import Agenda.Config.Variables
import Agenda.Error
import Agenda.Execution
import Agenda.Host
import Agenda.Item
import Agenda.Json.Reason
import Agenda.Json.Token
import Agenda.Json.Value
import Agenda.Proofs.Channel
import Agenda.Proofs.Config.Rendering
import Agenda.Proofs.Config.Settings
import Agenda.Proofs.Config.Variables
import Agenda.Proofs.DueInstants
import Agenda.Proofs.Execution.Aside
import Agenda.Proofs.Execution.Cancelling
import Agenda.Proofs.Execution.Chores
import Agenda.Proofs.Execution.Conservation
import Agenda.Proofs.Execution.Continuation
import Agenda.Proofs.Execution.Course
import Agenda.Proofs.Execution.Departures
import Agenda.Proofs.Execution.Draining
import Agenda.Proofs.Execution.DueOrder
import Agenda.Proofs.Execution.Effect
import Agenda.Proofs.Execution.Exits
import Agenda.Proofs.Execution.FiringOrder
import Agenda.Proofs.Execution.FullReset
import Agenda.Proofs.Execution.Handles
import Agenda.Proofs.Execution.History
import Agenda.Proofs.Execution.Limits
import Agenda.Proofs.Execution.Lockstep
import Agenda.Proofs.Execution.Loops
import Agenda.Proofs.Execution.Oblivious
import Agenda.Proofs.Execution.Overwriting
import Agenda.Proofs.Execution.Parties
import Agenda.Proofs.Execution.Pending
import Agenda.Proofs.Execution.Renaming
import Agenda.Proofs.Execution.Resuming
import Agenda.Proofs.Execution.Rotation
import Agenda.Proofs.Execution.SafeFiring
import Agenda.Proofs.Execution.SharedLoops
import Agenda.Proofs.Execution.Stopping
import Agenda.Proofs.Execution.Termination
import Agenda.Proofs.Execution.Turns
import Agenda.Proofs.Execution.Waiting
import Agenda.Proofs.Json.Grammar
import Agenda.Proofs.Json.Reading
import Agenda.Proofs.Scheduler.Detached
import Agenda.Proofs.Scheduler.Keeping
import Agenda.Proofs.Scheduler.Naming
import Agenda.Proofs.Scheduler.Twins
import Agenda.Proofs.Store.Footprint
import Agenda.Proofs.Store.HeapOrder
import Agenda.Proofs.Store.Ledger
import Agenda.Proofs.Store.Reachability
import Agenda.Proofs.Store.Refinement
import Agenda.Proofs.Store.Representation
import Agenda.Proofs.Store.Slots
import Agenda.Proofs.Store.StaleHandles
import Agenda.Proofs.Text
import Agenda.Proofs.TimeLeft
import Agenda.Routine
import Agenda.Scenario.ChannelScript
import Agenda.Scenario.Client
import Agenda.Scenario.ClockScript
import Agenda.Scenario.Play
import Agenda.Scenario.SignalScript
import Agenda.Scenario.Step
import Agenda.Scenario.StoreScript
import Agenda.Scheduler.Basic
import Agenda.Scheduler.Build
import Agenda.Scheduler.Detached
import Agenda.Scheduler.Iteration
import Agenda.Sharing
import Agenda.Signals
import Agenda.Store.Basic
import Agenda.Store.KeyQueue
import Agenda.Store.LeftistHeap
import Agenda.Store.SingleStore
import Agenda.Store.SlotStore
import Agenda.Text.Blank
import Agenda.Text.Numeral
import Agenda.Text.Quoted
import Agenda.Text.Unprintable
import Agenda.Time
