import Polycore.Board.Recorder
import Polycore.Core.ModelFormat
import Polycore.Main
import Polycore.Proofs.Kernel.Objects
import Polycore.Proofs.Kernel.Swap
import Polycore.Proofs.Kernel.Quantum
import Polycore.Proofs.Kernel.Requests
import Polycore.Proofs.Processor.Requests
import Polycore.Proofs.Session.Basic
import Polycore.Proofs.Session.Coupling
import Polycore.Proofs.Session.Slots
import Polycore.Proofs.Kernel.Clocks
import Polycore.Proofs.Run.Firing
import Polycore.Proofs.Run.Turns
import Polycore.Proofs.Run.Runs
import Polycore.Proofs.Run.Agreement
import Polycore.Proofs.Run.Consistency
import Polycore.Proofs.Run.Delivery
import Polycore.Proofs.Run.Budget
import Polycore.Proofs.Processor.CoreTypes
import Polycore.Proofs.Processor.Acceptance
import Polycore.Proofs.Session.Granted
import Polycore.Proofs.Kernel.Armed
import Polycore.Proofs.Kernel.Exchange
import Polycore.Proofs.Kernel.Conservation
import Polycore.Proofs.Kernel.Seeds
import Polycore.Proofs.Kernel.Advances
import Polycore.Proofs.Run.Seeds
import Polycore.Proofs.Run.Outcomes
import Polycore.Proofs.Run.Toggling
import Polycore.Proofs.Run.Switches
import Polycore.Proofs.Run.Refusals
import Polycore.Proofs.Kernel.Atomicity
import Polycore.Proofs.Processor.Machines
import Polycore.Proofs.Processor.Representation
import Polycore.Proofs.Session.Rehearsal
import Polycore.Proofs.Session.Isolation
import Polycore.Proofs.Session.Retries
import Polycore.Proofs.Session.Routes
import Polycore.Proofs.Processor.Switching
import Polycore.Proofs.Processor.Standing
import Polycore.Proofs.Json.Readers
import Polycore.Proofs.Run.Reports
import Polycore.Proofs.Run.Experiments
import Polycore.Proofs.Command.Calls
import Polycore.Proofs.Kernel.Drift
import Polycore.Proofs.Processor.Partners
import Polycore.Proofs.Processor.Layout
import Polycore.Proofs.Run.Failures
import Polycore.Proofs.Run.Sequences
import Polycore.Proofs.Session.Recordings
import Polycore.Proofs.Run.Repeats
import Polycore.Proofs.Run.Merging
import Polycore.Proofs.Presets
