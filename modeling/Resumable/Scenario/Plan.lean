import Resumable.Lifecycle
import Resumable.Scenario.Datum

/-!
# Plans

A scenario is a list of operations on a numbered stock of generators and iterators.  Making a
generator takes a plan of its body, and the steps of a planned body may perform operations in turn,
so the two are defined together.  What an operation leaves out, or gets wrong, is missing in its
plan; it is refused when it is performed.
-/

namespace Resumable.Scenario

/-! ## How a step ends -/

/-- How a step of a planned body ends. -/
inductive Out where
  /-- As the mode of the step says. -/
  | byMode (next throw close : Out)
  | yields (v : Datum)
  | returns (v : Datum)
  | raises (e : Datum)
  | panics (message : String)
  /-- With the value that was delivered. -/
  | echo (completed : Bool)
  /-- With the error that was injected, or else with a given one. -/
  | rethrow (otherwise : Datum)
  /-- As another generator of the stock answers to the same input. -/
  | delegate (slot : Nat)
deriving Inhabited

/-! ## Method calls from a host -/

/-- The engines that run planned bodies. -/
inductive EngineKind where
  /-- Bodies that know the generator they belong to. -/
  | script
  /-- Bodies that do not. -/
  | closure
deriving DecidableEq, Repr

inductive ReceiverPlan where
  | generator (slot : Nat)
  | wrapper (slot : Nat)
  | doubleWrapper (slot : Nat)
  | bag (slots : List Nat)
  | plain

/-- What is done with a receiver that is no generator of the wanted kind. -/
inductive RealmPlan where
  | noWrappers
  /-- The call is noted and answered with undefined. -/
  | record
  /-- The content of a wrapper is tried. -/
  | wrapper
  /-- The content of a wrapper in a wrapper is tried. -/
  | doubleWrapper
  /-- The receiver itself is tried. -/
  | self
  /-- Nothing is found behind it. -/
  | never
  /-- One member of a bag is tried. -/
  | bag (index : Nat)
  /-- A generator of the stock is tried, whatever the receiver. -/
  | constant (slot : Nat)

structure HostCall where
  receiver : Option ReceiverPlan
  realm : Option RealmPlan
  engine : EngineKind
  expected : Option Flavor
  method : String
  value : Option Datum
  error : Datum
  /-- Whether the entry point of the single method is used. -/
  short : Bool

/-! ## Operations and bodies -/

inductive GeneratorUse where
  | next (v : Option Datum)
  | throw (e : Datum)
  | close
  | resume (method : String) (v : Option Datum) (e : Datum)
  | info
  | take (n : Nat)
  | walk (n : Nat)
  /-- Make an iterator and keep it. -/
  | iterate
  | hold
  | release
  | consume
  /-- Put a new generator around the body. -/
  | rewrap (flavor : Option Flavor)
  | unknown

inductive IteratorUse where
  | next
  | drain (n : Nat)
  | drop

mutual

/-- An operation on the stock. -/
inductive Op where
  | make (flavor : Option Flavor) (body : Option BodyPlan)
  | call (c : HostCall)
  | onIterator (index : Option Nat) (use : IteratorUse)
  /-- Use a generator of the stock; without a slot, the one whose body performs the operation. -/
  | onGenerator (slot : Option Nat) (use : GeneratorUse)

inductive BodyPlan where
  /-- Steps taken one after the other, from the start again if looping; `finale` ends every step
  after the last one. -/
  | steps (engine : EngineKind) (steps : List StepPlan) (looping : Bool) (finale : Out)
  /-- Counts by what it is sent, up to a limit. -/
  | counter (limit : Int)
  /-- Hands out the Fibonacci numbers up to a limit. -/
  | fibonacci (limit : Int)

/-- A planned step: operations, and then an end. -/
inductive StepPlan where
  | mk (ops : List Op) (out : Out)

end

instance : Inhabited Op := ⟨.onGenerator none .unknown⟩

instance : Inhabited BodyPlan := ⟨.counter 0⟩

instance : Inhabited StepPlan := ⟨.mk [] default⟩

def StepPlan.ops : StepPlan → List Op
  | .mk ops _ => ops

def StepPlan.out : StepPlan → Out
  | .mk _ out => out

/-! ## Weight -/

def Out.weight : Out → Nat
  | .byMode next throw close => next.weight + throw.weight + close.weight
  | .delegate _ => 1
  | _ => 0

def HostCall.weight (c : HostCall) : Nat :=
  2 + match c.receiver with
    | some (.bag slots) => slots.length
    | _ => 0

mutual

/-- How often an operation names a generator or an iterator, here and in the bodies it makes.  Steps
inside steps belong to generators that differ and are named, so they go no deeper than this. -/
def Op.weight : Op → Nat
  | .make _ none => 0
  | .make _ (some body) => body.weight
  | .call c => c.weight
  | .onIterator _ _ => 1
  | .onGenerator _ _ => 1

def BodyPlan.weight : BodyPlan → Nat
  | .steps _ steps _ finale => StepPlan.weightList steps + finale.weight
  | .counter _ => 0
  | .fibonacci _ => 0

def StepPlan.weight : StepPlan → Nat
  | .mk ops out => Op.weightList ops + out.weight

def Op.weightList : List Op → Nat
  | [] => 0
  | op :: rest => op.weight + Op.weightList rest

def StepPlan.weightList : List StepPlan → Nat
  | [] => 0
  | step :: rest => step.weight + StepPlan.weightList rest

end

end Resumable.Scenario
