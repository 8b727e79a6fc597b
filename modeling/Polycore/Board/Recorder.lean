import Polycore.Board.Basic

/-!
# Recording board

A board that executes nothing and keeps what it was asked for, in order. It grants every request
unless a refusal was armed; an armed refusal answers one request and is gone, and the refused
request is not recorded.
-/

namespace Polycore

structure Recorder where
  /-- the caches run a coherence protocol -/
  ruby : Bool := false
  /-- every granted swap, oldest first -/
  swaps : List (List (ModelId × ModelId)) := []
  /-- every granted timeline, oldest first -/
  timelines : List (ModelId × Timeline) := []
  /-- how often host acceleration was asked for -/
  hostRequests : Nat := 0
  /-- the memory mode set last -/
  memMode : Option MemMode := none
  /-- reason with which the next swap is refused -/
  armedSwap : Option String := none
  /-- error with which the next timeline is refused -/
  armedTimeline : Option BoardError := none
deriving DecidableEq, Repr

namespace Recorder

def failNextSwap (reason : String) (board : Recorder) : Recorder :=
  { board with armedSwap := some reason }

def failNextTimeline (error : BoardError) (board : Recorder) : Recorder :=
  { board with armedTimeline := some error }

def swap (pairs : List (ModelId × ModelId)) (board : Recorder) : Answer Recorder :=
  match board.armedSwap with
  | some reason => (.error (.swapFailed reason), { board with armedSwap := none })
  | none => (.ok (), { board with swaps := board.swaps ++ [pairs] })

def assignTimeline (model : ModelId) (timeline : Timeline) (board : Recorder) : Answer Recorder :=
  match board.armedTimeline with
  | some error => (.error error, { board with armedTimeline := none })
  | none => (.ok (), { board with timelines := board.timelines ++ [(model, timeline)] })

instance : Board Recorder where
  swap := swap
  assignTimeline := assignTimeline
  enableHostAcceleration board := (.ok (), { board with hostRequests := board.hostRequests + 1 })
  usesRuby board := board.ruby
  setMemMode mode board := { board with memMode := some mode }

end Recorder

end Polycore
