/-!
# Exit triggers

The events that hand control from the board back to the run.
-/

namespace Polycore

/-- Named event that hands control back to the run. -/
inductive Trigger where
  /-- the guest asked to exit -/
  | exit
  /-- the guest entered its region of interest -/
  | workBegin
  /-- the guest left its region of interest -/
  | workEnd
  /-- the guest asked for a checkpoint -/
  | checkpoint
  /-- the tick limit was reached -/
  | maxTick
deriving DecidableEq, Repr, Inhabited

namespace Trigger

def all : List Trigger :=
  [exit, workBegin, workEnd, checkpoint, maxTick]

def name : Trigger → String
  | exit => "exit"
  | workBegin => "work_begin"
  | workEnd => "work_end"
  | checkpoint => "checkpoint"
  | maxTick => "max_tick"

def label : Trigger → String
  | exit => "Exit"
  | workBegin => "WorkBegin"
  | workEnd => "WorkEnd"
  | checkpoint => "Checkpoint"
  | maxTick => "MaxTick"

end Trigger

end Polycore
