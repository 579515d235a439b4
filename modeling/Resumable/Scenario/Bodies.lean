import Resumable.Scenario.Perform

/-!
# Planned bodies

The engine of a scenario: how a planned body takes one step.  Every step is noted before anything
else.  A body of planned steps then takes its next step, performs the operations of that step one by
one, noting the result of each, and ends as the step says.  It has taken the step even when the step
ends in a panic.
-/

namespace Resumable.Scenario

/-- How a step of a planned body ends. -/
abbrev StepEnding : Type :=
  Ending Datum Datum

/-! ## Ends of steps -/

/-- How a step ends when another generator answers for it.  Errors of that generator are raised
again, faults are raised as their messages, and its panics are passed on. -/
def relay : stage.CallAnswer → StepEnding
  | .returned (.ok (some c)) =>
    let v := c.value?.getD .undefined
    if c.isDone then .returned v else .yielded v
  | .returned (.ok none) => .returned (.text "closed")
  | .returned (.error .finished) => .returned (.text "finished")
  | .returned (.error (.raised e)) => .raised e
  | .returned (.error f) => .raised (.text (f.message Datum.message))
  | .panicked p => .panicked p
  | .refused _ => .raised (.text Objection.noSuchGenerator.message)

/-- Lets another generator of the stock answer to the input of a step. -/
def delegateTo (slot : Nat) (input : Input Datum Datum) (mode : Mode) : Act StepEnding := do
  match ← generatorIn? slot with
  | none => return .raised (.text Objection.noSuchGenerator.message)
  | some g =>
    return relay (← Program.invoke g (.ofMode mode input.value? (input.error?.getD .null)))

def Out.finish (input : Input Datum Datum) (mode : Mode) : Out → Act StepEnding
  | .byMode next throw close =>
    match mode with
    | .next => next.finish input mode
    | .throw => throw.finish input mode
    | .close => close.finish input mode
  | .yields v => return .yielded v
  | .returns v => return .returned v
  | .raises e => return .raised e
  | .panics message => return .panicked (.body message)
  | .echo completed =>
    let v := input.value?.getD .undefined
    return if completed then .returned v else .yielded v
  | .rethrow otherwise => return .raised (input.error?.getD otherwise)
  | .delegate slot => delegateTo slot input mode

/-! ## Steps -/

/-- Performs the operations of a step, noting each result. -/
def performAll (handle : Option GenId) : List Op → Act Unit
  | [] => return ()
  | op :: rest => do
    let result ← perform handle op
    Program.note (.nested result (← statuses))
    performAll handle rest

/-- Takes a planned step, or none when all have been taken. -/
def takeStep (handle : Option GenId) (finale : Out) (step : Option StepPlan)
    (input : Input Datum Datum) (mode : Mode) : Act StepEnding :=
  match step with
  | none => finale.finish input mode
  | some step => do
    performAll handle step.ops
    step.out.finish input mode

/-- What a body hands out that stops at a limit. -/
def upTo (limit : Int) (n : Int64) : StepEnding :=
  if limit ≤ n.toInt then .returned (.int n.toInt) else .yielded (.int n.toInt)

/-- How a counter steps: it goes up by one more than the integer it is sent. -/
def countStep (limit : Int) (count : Int64) (input : Input Datum Datum) :
    Mode → StepEnding × Int64
  | .next =>
    let count := count + 1 + Int64.ofInt ((input.value?.getD .null).increment)
    (upTo limit count, count)
  | .throw => (.raised (input.error?.getD .null), count)
  | .close => (.returned (.int 0), count)

/-- The engine of a scenario. -/
def engine : Engine stage := fun g body input mode =>
  match body with
  | .steps number kind all looping finale calls left => do
    Program.note (.stepped number input mode)
    let left := if looping && left.isEmpty then all else left
    let handle := if kind = .script then some g else none
    let ending ← takeStep handle finale left.head? input mode
    return (ending, .steps number kind all looping finale (calls + 1) left.tail)
  | .counter number limit count => do
    Program.note (.stepped number input mode)
    let (ending, count) := countStep limit count input mode
    return (ending, .counter number limit count)
  | .fibonacci number limit a b => do
    Program.note (.stepped number input mode)
    return (upTo limit b, .fibonacci number limit b (a + b))

end Resumable.Scenario
