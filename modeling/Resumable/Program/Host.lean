import Resumable.Program.Basic

/-!
# Calls on receivers of unknown type

A host calls `next`, `throw` or `close` on an object without knowing what it is.  The receiver is
checked first: only a generator of the wanted engine and of the flavor that the method belongs to is
resumed.  Any other receiver is handed to a `Realm`, which may know how to find a generator behind
it.  The check looks at no state, so a call that fails it changes nothing.
-/

namespace Resumable

variable {σ : Signature}

/-- What a host can have at hand. -/
inductive Object where
  | generator (g : GenId)
  | wrapper (inner : Object)
  | bag (members : List GenId)
  | plain
deriving Repr

/-- What a method call answers; none is undefined. -/
abbrev Signature.CallAnswer (σ : Signature) : Type :=
  Outcome (σ.Answer (Option (Completion σ.Value)))

/-- What to do with a receiver that fails the check. -/
abbrev Realm (σ : Signature) : Type :=
  Object → Flavor → Method σ.Value σ.Thrown → Program σ σ.CallAnswer

namespace Host

/-- Whether a generator has the wanted engine and flavor. -/
def fits (kind : σ.Kind) (expected : Flavor) (v : View σ) : Bool :=
  v.kind = kind ∧ v.flavor = expected

/-- Whether a name belongs to a generator of the wanted engine and flavor. -/
def check (kind : σ.Kind) (expected : Flavor) (g : GenId) : Program σ Bool := do
  match ← Program.look g with
  | some v => return fits kind expected v
  | none => return false

/-- The answer to a call that found no generator to resume. -/
def mismatch (expected : Flavor) (m : Method σ.Value σ.Thrown) : σ.CallAnswer :=
  .returned (.error (.mismatch ⟨expected, m.name⟩))

/-- The realm without wrappers: no receiver hides a generator. -/
def noWrappers : Realm σ := fun _ expected m =>
  return mismatch expected m

/-- The realm that looks once behind the receiver. -/
def unwrapping (kind : σ.Kind) (unwrap : Object → Program σ (Option GenId)) : Realm σ :=
  fun receiver expected m => do
    match ← unwrap receiver with
    | none => return mismatch expected m
    | some g =>
      if ← check kind expected g then
        let _ ← Program.command (.announce g m.mode expected)
        Program.invoke g m
      else return mismatch expected m

/-- Calls a method on a receiver. -/
def call (kind : σ.Kind) (receiver : Object) (expected : Flavor) (m : Method σ.Value σ.Thrown)
    (realm : Realm σ) : Program σ σ.CallAnswer := do
  match receiver with
  | .generator g =>
    if ← check kind expected g then Program.invoke g m
    else realm receiver expected m
  | _ => realm receiver expected m

def next (kind : σ.Kind) (receiver : Object) (expected : Flavor) (v : Option σ.Value)
    (realm : Realm σ) : Program σ σ.CallAnswer :=
  call kind receiver expected (.next v) realm

def throw (kind : σ.Kind) (receiver : Object) (expected : Flavor) (e : σ.Thrown)
    (realm : Realm σ) : Program σ σ.CallAnswer :=
  call kind receiver expected (.throw e) realm

/-- Calls `close` on a receiver, which only legacy generators have. -/
def close (kind : σ.Kind) (receiver : Object) (realm : Realm σ) :
    Program σ (Outcome (σ.Answer Unit)) := do
  return (← call kind receiver .legacy .close realm).map (·.map fun _ => ())

end Host

end Resumable
