import Resumable.Scenario.Bodies

/-!
# Playing a scenario

A scenario performs its operations one after the other at the top level, noting the result of each.
At the end every reader lets go of its body, and the iterators that are still kept are given up in
the order of their indices, including those that bodies make meanwhile; each of these gives one more
entry.  The entries are then read off the history: what was logged and noted between two results
belongs to the second.
-/

namespace Resumable.Scenario

/-! ## The program -/

/-- Performs an operation at the top level. -/
def playOp (op : Op) : Act Unit := do
  let result ← perform none op
  Program.note (.entry result (← statuses))

/-- Lets all readers of a generator go. -/
def releaseAll (g : GenId) : Act Unit := do
  match ← Program.look g with
  | none => return ()
  | some v => (List.replicate v.readers g).forM fun g => do
    let _ ← Program.release g

/-- Gives up the iterator of an index, if it is still kept. -/
def giveUp (index : Nat) : Act Unit := do
  if (← iteratorAt? index).isSome then
    playOp (.onIterator (some index) .drop)

/-- Gives up all iterators from an index on, round by round: each round gives up those that are kept
when it begins, and the next one those that bodies made meanwhile.  Bodies may keep making new ones
for as long as they like, so the number of rounds is limited. -/
def giveUpFrom (start : Nat) : Nat → Act Unit
  | 0 => return ()
  | rounds + 1 => do
    let stop := (← Program.read).iterators.nextKey
    if start < stop then
      (List.range' start (stop - start)).forM giveUp
      giveUpFrom stop rounds

/-- Plays operations, and clears the stage within a number of rounds. -/
def play (ops : List Op) (rounds : Nat) : Act Unit := do
  ops.forM playOp
  (← Program.read).generators.toList.forM releaseAll
  giveUpFrom 0 rounds

/-! ## The entries -/

/-- The line that an event shows, if any. -/
def line? : Event stage → Option Line
  | .logged _ r => some (.record r.line)
  | .noted (.stepped number input mode) => some (.stepped number input mode)
  | .noted (.nested result stock) => some (.nested result stock)
  | .noted (.asked expected method) => some (.asked expected method)
  | _ => none

/-- The entries of events in the order in which they happened, where `lines` are those already seen
of the first entry, newest first. -/
def entriesFrom (lines : List Line) : List (Event stage) → List Entry
  | [] => []
  | .noted (.entry result stock) :: rest => ⟨result, lines.reverse, stock⟩ :: entriesFrom [] rest
  | event :: rest => entriesFrom ((line? event).toList ++ lines) rest

def entries (w : World stage) : List Entry :=
  entriesFrom [] w.history.reverse

/-- How many rounds of giving up iterators the end of a scenario may take.  A scenario whose end
needs more of them would not be seen to end. -/
def roundLimit : Nat :=
  1 <<< 64

/-- Plays a scenario and shows what happened.  Steps go no deeper inside each other than the
operations name generators, and one more for the end of the scenario. -/
def transcript (ops : List Op) : List Entry :=
  entries (engine.run (Op.weightList ops + 1) (play ops roundLimit) opening).2

end Resumable.Scenario
