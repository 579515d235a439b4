import Resumable.Exchange

/-!
# Faults

The four ways in which an operation on a generator can fail.  A fault is a value handed to the
caller, never an interruption; errors raised by a body, or injected from outside, travel inside
`Fault.raised` untouched.
-/

namespace Resumable

variable {E : Type}

/-- A method was called on something that is not a generator of the flavor it belongs to. -/
structure Mismatch where
  expected : Flavor
  method : String
deriving DecidableEq, Repr

def Mismatch.message (m : Mismatch) : String :=
  m.expected.name ++ " generator method `" ++ m.method ++ "` called on incompatible receiver"

/-- Why an operation on a generator failed. -/
inductive Fault (E : Type) where
  | nesting
  | finished
  | mismatch (m : Mismatch)
  /-- An error raised by the body, or thrown into a closed generator. -/
  | raised (e : E)
deriving DecidableEq, Repr

def Fault.raised? : Fault E → Option E
  | .raised e => some e
  | _ => none

/-- Whether a fault is the signal of a legacy generator that there are no more values. -/
def Fault.isFinished : Fault E → Bool
  | .finished => true
  | _ => false

/-- The message of a fault, given the text of the errors that bodies raise. -/
def Fault.message (text : E → String) : Fault E → String
  | .nesting => "already executing generator"
  | .finished => "iteration finished"
  | .mismatch m => m.message
  | .raised e => text e

end Resumable
