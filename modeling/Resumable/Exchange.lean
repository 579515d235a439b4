import Resumable.Lifecycle

/-!
# What goes into a generator and what comes out

A caller asks for a `Method`; the body is given the matching `Input` and hands back a `StepResult`,
which the flavor of the generator turns into a `Completion`.  A missing value stands for
*undefined*, which differs from every value.
-/

namespace Resumable

variable {V E : Type}

/-! ## Into the body -/

/-- What is delivered to a body at the point where it was parked. -/
inductive Input (V E : Type) where
  /-- A value to resume with; none is undefined. -/
  | value (v : Option V)
  | error (e : E)
  /-- Nothing, when the body is only to clean up. -/
  | empty
deriving DecidableEq, Repr

def Input.value? : Input V E → Option V
  | .value v => v
  | _ => none

def Input.error? : Input V E → Option E
  | .error e => some e
  | _ => none

/-- A method call on a generator, with its argument. -/
inductive Method (V E : Type) where
  | next (v : Option V)
  | throw (e : E)
  /-- Run the pending cleanup; only legacy generators have it. -/
  | close
deriving DecidableEq, Repr

def Method.mode : Method V E → Mode
  | .next _ => .next
  | .throw _ => .throw
  | .close => .close

/-- The name of a method is the name of its mode. -/
def Method.name (m : Method V E) : String :=
  m.mode.name

def Method.input : Method V E → Input V E
  | .next v => .value v
  | .throw e => .error e
  | .close => .empty

/-- The call that delivers a given input in a given mode, whatever of the input the mode can use. -/
def Method.ofMode (mode : Mode) (v : Option V) (e : E) : Method V E :=
  match mode with
  | .next => .next v
  | .throw => .throw e
  | .close => .close

/-! ## Out of the body -/

/-- What one step of a body hands back when it does not fail. -/
structure StepResult (V : Type) where
  value : V
  /-- Whether the body returned instead of yielding. -/
  completed : Bool
deriving DecidableEq, Repr

def StepResult.yielded (v : V) : StepResult V :=
  ⟨v, false⟩

def StepResult.returned (v : V) : StepResult V :=
  ⟨v, true⟩

/-! ## Out of the generator -/

/-- The pair of a value and a flag that a modern generator hands back. -/
structure IterResult (V : Type) where
  value : Option V
  done : Bool
deriving DecidableEq, Repr

/-- What a finished modern generator hands back: no value, and done. -/
def IterResult.sentinel : IterResult V :=
  ⟨none, true⟩

/-- What a successful resume hands back, in the shape that the flavor asks for. -/
inductive Completion (V : Type) where
  | result (r : IterResult V)
  | value (v : V)
deriving DecidableEq, Repr

/-- The carried value, which is missing in the sentinel. -/
def Completion.value? : Completion V → Option V
  | .result r => r.value
  | .value v => some v

/-- Whether the completion reports the end; only a result pair can. -/
def Completion.isDone : Completion V → Bool
  | .result r => r.done
  | .value _ => false

/-- A step result in the shape that a flavor asks for. -/
def StepResult.complete (r : StepResult V) : Flavor → Completion V
  | .modern => .result ⟨some r.value, r.completed⟩
  | .legacy => .value r.value

/-- The value of a step reaches the caller in either flavor. -/
@[simp]
theorem StepResult.value?_complete (r : StepResult V) (f : Flavor) :
    (r.complete f).value? = some r.value := by
  cases f <;> rfl

/-- The end shows in the completion of a modern generator only. -/
@[simp]
theorem StepResult.isDone_complete (r : StepResult V) (f : Flavor) :
    (r.complete f).isDone = (r.completed && f = .modern) := by
  cases f <;> simp [StepResult.complete, Completion.isDone]

end Resumable
