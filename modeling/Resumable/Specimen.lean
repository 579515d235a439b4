import Resumable.Fault
import Resumable.Text.Column
import Resumable.Text.Outline

/-!
# Values under inspection

Every value that the library hands to its users can be looked at from outside: it has an outline,
which diagnostics print on one line or over several, and some values also have a text of their own
for messages.  A `Specimen` is any one of these values, over integers as values and texts as errors.
-/

namespace Resumable

open Text (Outline fit)

/-! ## Outlines -/

/-- The outline of a phase is its name with a capital. -/
def Phase.outline : Phase → Outline
  | .suspended => .atom "Suspended"
  | .running => .atom "Running"
  | .closed => .atom "Closed"

def Flavor.outline : Flavor → Outline
  | .modern => .atom "Modern"
  | .legacy => .atom "Legacy"

def Mode.outline : Mode → Outline
  | .next => .atom "Next"
  | .throw => .atom "Throw"
  | .close => .atom "Close"

/-- The outline of an unknown mode shows the text that was given. -/
def UnknownMode.outline (e : UnknownMode) : Outline :=
  .call "ParseModeError" [.ofString e.text]

def Mismatch.outline (m : Mismatch) : Outline :=
  .record "TypeError" [("expected", m.expected.outline), ("method", .ofString m.method)] false

variable {V E : Type}

def Fault.outline (error : E → Outline) : Fault E → Outline
  | .nesting => .atom "Nesting"
  | .finished => .atom "IterationFinished"
  | .mismatch m => .call "Type" [m.outline]
  | .raised e => .call "Raised" [error e]

def IterResult.outline (value : V → Outline) (r : IterResult V) : Outline :=
  .record "IterResult" [("value", .ofOption value r.value), ("done", .ofBool r.done)] false

def Completion.outline (value : V → Outline) : Completion V → Outline
  | .result r => .call "Result" [r.outline value]
  | .value v => .call "Value" [value v]

def StepResult.outline (value : V → Outline) (r : StepResult V) : Outline :=
  .record "StepResult" [("value", value r.value), ("completed", .ofBool r.completed)] false

def Input.outline (value : V → Outline) (error : E → Outline) : Input V E → Outline
  | .value v => .call "Value" [.ofOption value v]
  | .error e => .call "Error" [error e]
  | .empty => .atom "Empty"

def Method.outline (value : V → Outline) (error : E → Outline) : Method V E → Outline
  | .next v => .call "Next" [.ofOption value v]
  | .throw e => .call "Throw" [error e]
  | .close => .atom "Close"

/-! ## Specimens -/

/-- Any one value of the library, over integers as values and texts as errors. -/
inductive Specimen where
  | phase (p : Phase)
  | flavor (f : Flavor)
  | mode (m : Mode)
  | unknownMode (e : UnknownMode)
  | mismatch (m : Mismatch)
  | fault (f : Fault String)
  | iterResult (r : IterResult Int)
  | completion (c : Completion Int)
  | stepResult (r : StepResult Int)
  | input (i : Input Int String)
  | method (m : Method Int String)
  | noWrappers
deriving DecidableEq

/-- The outline that diagnostics print. -/
def Specimen.outline : Specimen → Outline
  | .phase p => p.outline
  | .flavor f => f.outline
  | .mode m => m.outline
  | .unknownMode e => e.outline
  | .mismatch m => m.outline
  | .fault f => f.outline .ofString
  | .iterResult r => r.outline .ofInt
  | .completion c => c.outline .ofInt
  | .stepResult r => r.outline .ofInt
  | .input i => i.outline .ofInt .ofString
  | .method m => m.outline .ofInt .ofString
  | .noWrappers => .atom "NoWrappers"

/-- The text of a value for messages, where it has one.  A column with a width and a cut bears only
on the text of a raised error; every other text stays whole and unpadded. -/
def Specimen.display? (width cut : Option Nat) : Specimen → Option String
  | .phase p => some p.name
  | .flavor f => some f.name
  | .mode m => some m.name
  | .unknownMode e => some e.message
  | .mismatch m => some m.message
  | .fault f => some (f.message (fit width cut))
  | _ => none

end Resumable
