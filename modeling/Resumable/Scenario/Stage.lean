import Resumable.Program.Drawing
import Resumable.Program.Host
import Resumable.Program.Run
import Resumable.Scenario.Report

/-!
# The stage of a scenario

A scenario plays in a world whose bodies are planned ones and whose shared state is the stock: the
generators by slot and the iterators by index, in the order in which they were made.  A slot of the
stock names a generator of the world; consuming the generator leaves a gap, and rewrapping its body
puts a new one into the same slot.
-/

namespace Resumable.Scenario

/-- The state of a planned body. -/
inductive Body where
  /-- A body of planned steps; `left` are those not yet taken. -/
  | steps (number : Nat) (engine : EngineKind) (all : List StepPlan) (looping : Bool) (finale : Out)
      (calls : Nat) (left : List StepPlan)
  | counter (number : Nat) (limit : Int) (count : Int64)
  /-- The next two Fibonacci numbers. -/
  | fibonacci (number : Nat) (limit : Int) (a b : Int64)

/-- A planned body before its first step. -/
def Body.ofPlan (number : Nat) : BodyPlan → Body
  | .steps engine all looping finale => .steps number engine all looping finale 0 all
  | .counter limit => .counter number limit 0
  | .fibonacci limit => .fibonacci number limit 0 1

def Body.engine : Body → EngineKind
  | .steps _ engine _ _ _ _ _ => engine
  | _ => .closure

def Body.info : Body → BodyInfo
  | .steps _ .script _ _ _ calls left => .script calls left.length
  | _ => .closure

/-- The generators and iterators that operations refer to by number. -/
structure Stock where
  generators : Registry GenId
  iterators : Registry CursorId

/-- What worlds of scenarios are about. -/
abbrev stage : Signature where
  Value := Datum
  Thrown := Datum
  Body := Body
  Kind := EngineKind
  Shared := Stock
  Note := Note

/-- An activity in a world of a scenario. -/
abbrev Act (α : Type) : Type :=
  Program stage α

/-- The world in which a scenario begins. -/
def opening : World stage :=
  .initial ⟨.empty, .empty⟩

/-! ## The stock -/

def generatorIn? (slot : Nat) : Act (Option GenId) := do
  return (← Program.read).generators.get? slot

def iteratorAt? (index : Nat) : Act (Option CursorId) := do
  return (← Program.read).iterators.get? index

def addGenerator (g : GenId) : Act Nat := do
  let s ← Program.read
  Program.write { s with generators := s.generators.insert g }
  return s.generators.nextKey

/-- Puts a generator into a slot in place of the one that was there. -/
def replaceGenerator (slot : Nat) (g : GenId) : Act Unit := do
  let s ← Program.read
  Program.write { s with generators := s.generators.modify slot fun _ => g }

def dropGenerator (slot : Nat) : Act Unit := do
  let s ← Program.read
  Program.write { s with generators := s.generators.erase slot }

def addIterator (c : CursorId) : Act Nat := do
  let s ← Program.read
  Program.write { s with iterators := s.iterators.insert c }
  return s.iterators.nextKey

def dropIterator (index : Nat) : Act Unit := do
  let s ← Program.read
  Program.write { s with iterators := s.iterators.erase index }

/-- The status of a slot that holds a generator, or does not. -/
def statusOf : Option GenId → Act Status
  | none => return .gone
  | some g => do
    match ← Program.look g with
    | some v => return .present v.phase v.newborn
    | none => return .gone

def statuses : Act (List Status) := do
  let s ← Program.read
  (List.range s.generators.nextKey).mapM fun slot => statusOf (s.generators.get? slot)

end Resumable.Scenario
