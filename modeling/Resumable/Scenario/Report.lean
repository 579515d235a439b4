import Resumable.Scenario.Plan
import Resumable.Specimen
import Resumable.Outcome

/-!
# Reports

What a scenario shows of itself: the result of every operation, the status of every slot of the
stock after it, and the lines of what happened meanwhile.  A result is an answer, a fault, a panic
that was caught, or an objection to the operation itself, which then has done nothing.
-/

namespace Resumable.Scenario

/-- Why an operation of a scenario is not performed. -/
inductive Objection where
  | noSuchGenerator
  | noSuchIterator
  | badGenerator
  | badFlavor
  | badReceiver
  | unknownStep
  | iteratorInUse
  | generatorInUse
deriving DecidableEq, Repr

def Objection.message : Objection → String
  | .noSuchGenerator => "no such generator"
  | .noSuchIterator => "no such iterator"
  | .badGenerator => "bad generator"
  | .badFlavor => "bad flavor"
  | .badReceiver => "bad receiver or realm"
  | .unknownStep => "unknown step"
  | .iteratorInUse => "iterator in use"
  | .generatorInUse => "generator in use"

/-- What is told of a body. -/
inductive BodyInfo where
  /-- How often a script was stepped, and how many of its steps are left. -/
  | script (calls left : Nat)
  /-- A closure tells nothing. -/
  | closure
deriving DecidableEq, Repr

/-- What a closure is called in diagnostics. -/
def BodyInfo.closureName : String :=
  "FnResumer \x7b ... \x7d"

structure GeneratorInfo where
  phase : Phase
  flavor : Flavor
  newborn : Bool
  /-- Its body, unless it is out for a step. -/
  body : Option BodyInfo

/-- The outline of a generator leaves its body untold. -/
def GeneratorInfo.outline (i : GeneratorInfo) : Text.Outline :=
  .record "Generator"
    [("state", i.phase.outline), ("flavor", i.flavor.outline), ("newborn", .ofBool i.newborn)] true

/-- Something drawn from a generator: an item, or the end. -/
abbrev Drawn : Type :=
  Option (Except (Fault Datum) Datum)

inductive Result where
  /-- It is done and has nothing to tell. -/
  | done
  | index (i : Nat)
  /-- Whether it had an effect. -/
  | flag (b : Bool)
  | completion (c : Completion Datum)
  | drawn (items : List Drawn)
  | item (item : Drawn)
  | body (info : BodyInfo)
  | generator (info : GeneratorInfo)
  | fault (f : Fault Datum)
  | unknownMode (e : UnknownMode)
  | panic (p : Panic)
  | objection (o : Objection)

/-- The message of a panic that was caught; only bodies have one. -/
def panicMessage? : Panic → Option String
  | .body message => some message
  | _ => none

/-- The status of a slot of the stock. -/
inductive Status where
  | gone
  | present (phase : Phase) (newborn : Bool)
deriving DecidableEq, Repr

/-- A status in one word, with a star for a newborn generator. -/
def Status.word : Status → String
  | .gone => "gone"
  | .present phase newborn => phase.name ++ (if newborn then "*" else "")

/-- A note that a scenario takes in the history. -/
inductive Note where
  | stepped (number : Nat) (input : Input Datum Datum) (mode : Mode)
  /-- An operation that a body performed is over. -/
  | nested (result : Result) (stock : List Status)
  /-- The recording realm was asked. -/
  | asked (expected : Flavor) (method : String)
  /-- An operation at the top level is over. -/
  | entry (result : Result) (stock : List Status)

/-- A line of what happened during an operation. -/
inductive Line where
  | record (text : String)
  | stepped (number : Nat) (input : Input Datum Datum) (mode : Mode)
  | nested (result : Result) (stock : List Status)
  | asked (expected : Flavor) (method : String)

/-- What a scenario shows of one operation. -/
structure Entry where
  result : Result
  lines : List Line
  stock : List Status

end Resumable.Scenario
