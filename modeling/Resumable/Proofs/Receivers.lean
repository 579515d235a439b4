import Resumable.Program.Host
import Resumable.Proofs.Past

/-!
# Which generator a call on a receiver resumes

A receiver of unknown type has a target: itself, or a generator found behind it, or none
(`Host.Target`).  The target depends on engines and flavors alone, never on what state a generator
is in, and the realm is asked for it only if the receiver itself does not fit, and then once
(`Host.locate`).  `call_reaches_target`: the call does what a call of its target does, with one
record more if the target was found behind the receiver; without a target nothing happens.
-/

namespace Resumable

variable {σ : Signature}

/-- Whether a name belongs to a generator of the wanted engine and flavor. -/
def World.fits (w : World σ) (kind : σ.Kind) (expected : Flavor) (g : GenId) : Bool :=
  (w.look g).any (Host.fits kind expected)

namespace Host

/-! ## Targets -/

/-- The generator that a call on a receiver is meant for. -/
inductive Target where
  | itself (g : GenId)
  | behind (g : GenId)
  | missing
deriving DecidableEq, Repr

section Locating

variable (kind : σ.Kind) (expected : Flavor)

def itself? (w : World σ) : Object → Option GenId
  | .generator g => if w.fits kind expected g then some g else none
  | _ => none

def hidden (w : World σ) : Option GenId → Target
  | some g => if w.fits kind expected g then .behind g else .missing
  | none => .missing

/-- The target of a receiver, and the world when it is found.  Only for a receiver that does not fit
itself is the realm asked, and only about the receiver. -/
def locate (step : Stepper σ) (unwrap : Object → Program σ (Option GenId)) (receiver : Object)
    (w : World σ) : Target × World σ :=
  match itself? kind expected w receiver with
  | some g => (.itself g, w)
  | none =>
    let (found, v) := (unwrap receiver).run step w
    (hidden kind expected v found, v)

/-- The target of a receiver in a realm that knows at once what is behind it. -/
def target (w : World σ) (find : Object → Option GenId) (receiver : Object) : Target :=
  match itself? kind expected w receiver with
  | some g => .itself g
  | none => hidden kind expected w (find receiver)

end Locating

/-- What becomes of a call whose target was found in a world.  For a target behind the receiver, one
record precedes all that the target does. -/
def Reaches (step : Stepper σ) (expected : Flavor) (m : Method σ.Value σ.Thrown)
    (called : σ.CallAnswer × World σ) : Target × World σ → Prop
  | (.itself g, v) => called = (Program.invoke g m).run step v
  | (.behind g, v) => ∃ (a : σ.CallAnswer) (u : World σ),
      (Program.invoke g m).run step v = (a, u.onto v.history) ∧
        called = (a, u.onto (.logged g (.forward m.mode expected) :: v.history))
  | (.missing, v) => called = (.returned (.error (.mismatch ⟨expected, m.name⟩)), v)

/-! ## Calls -/

section Calls

variable {kind : σ.Kind} {expected : Flavor} {m : Method σ.Value σ.Thrown} {step : Stepper σ}
  {w : World σ} {g : GenId}

theorem run_check : (check kind expected g).run step w = (w.fits kind expected g, w) := by
  simp only [check, Program.look, Program.command, bind, Program.bind, Program.run, World.serve,
    World.fits]
  cases w.look g <;> rfl

theorem noWrappers_eq (kind : σ.Kind) : noWrappers = unwrapping kind fun _ => .done none := rfl

/-- A call on a receiver that fits is the method call, and any other is up to the realm. -/
theorem run_call (receiver : Object) (realm : Realm σ) :
    (call kind receiver expected m realm).run step w =
      match itself? kind expected w receiver with
      | some g => (Program.invoke g m).run step w
      | none => (realm receiver expected m).run step w := by
  cases receiver with
  | generator g =>
    simp only [call, bind, Program.run_bind, run_check, itself?]
    cases w.fits kind expected g <;> rfl
  | _ => rfl

theorem reaches_behind (forgetful : step.Forgetful) :
    Reaches step expected m ((Program.invoke g m).run step (w.log g (.forward m.mode expected)))
      (.behind g, w) := by
  let present : World σ := { w with history := [] }
  let x := (Program.invoke g m).run step present
  have plain : (Program.invoke g m).run step w = (x.1, x.2.onto w.history) :=
    Program.run_onto forgetful w.history _ present
  have passedOn : (Program.invoke g m).run step (w.log g (.forward m.mode expected)) =
      (x.1, x.2.onto (.logged g (.forward m.mode expected) :: w.history)) :=
    Program.run_onto forgetful (.logged g (.forward m.mode expected) :: w.history) _ present
  exact ⟨x.1, x.2, plain, passedOn⟩

/-- The realm that looks behind a receiver asks once, and passes the call on if it can. -/
theorem reaches_unwrapping (forgetful : step.Forgetful)
    (unwrap : Object → Program σ (Option GenId)) (receiver : Object) :
    let x := (unwrap receiver).run step w
    Reaches step expected m ((unwrapping kind unwrap receiver expected m).run step w)
      (hidden kind expected x.2 x.1, x.2) := by
  simp only [unwrapping, bind, Program.run_bind]
  cases (unwrap receiver).run step w with
  | mk found v =>
    cases found with
    | none => exact rfl
    | some g =>
      simp only [hidden, Program.run_bind, run_check]
      cases v.fits kind expected g with
      | false => exact rfl
      | true => exact reaches_behind forgetful

theorem run_call_of_missing {find : Object → Option GenId} {receiver : Object}
    (missing : target kind expected w find receiver = .missing) :
    (call kind receiver expected m (unwrapping kind fun o => .done (find o))).run step w =
      (mismatch expected m, w) := by
  rw [run_call]
  unfold target at missing
  cases here : itself? kind expected w receiver with
  | some g =>
    rw [here] at missing
    cases missing
  | none =>
    simp only [here] at missing
    simp only [unwrapping, bind, Program.bind]
    cases found : find receiver with
    | none => rfl
    | some g =>
      have unfit : w.fits kind expected g = false := by
        simpa [found, hidden] using missing
      simp only [Program.run_bind, run_check, unfit]
      rfl

/-- **A call on a receiver does what its target does.**  A receiver that fits is resumed as by the
method itself.  If the realm finds a generator that fits, the answer, the steps, the records and the
world are those of the method call on it, after one record; otherwise the call answers with a
mismatch, and nothing happens but what the realm did to find that out.  A realm that knows at once
what is behind a receiver does nothing, and one without wrappers finds nothing.  States do not
matter: worlds in which generators have the same engines and flavors have the same targets. -/
theorem call_reaches_target (engine : Engine σ) (d : Nat) (kind : σ.Kind) (receiver : Object)
    (expected : Flavor) (m : Method σ.Value σ.Thrown) (w : World σ) :
    (∀ unwrap : Object → Program σ (Option GenId),
      Reaches (engine.stepper d) expected m
        ((call kind receiver expected m (unwrapping kind unwrap)).run (engine.stepper d) w)
        (locate kind expected (engine.stepper d) unwrap receiver w)) ∧
    (∀ find : Object → Option GenId,
      locate kind expected (engine.stepper d) (fun o => .done (find o)) receiver w =
        (target kind expected w find receiver, w)) ∧
    Reaches (engine.stepper d) expected m
      ((call kind receiver expected m noWrappers).run (engine.stepper d) w)
      (target kind expected w (fun _ => none) receiver, w) ∧
    ∀ v : World σ,
      (∀ g, (v.look g).map (fun x => (x.kind, x.flavor)) =
        (w.look g).map fun x => (x.kind, x.flavor)) →
      ∀ find, target kind expected v find receiver = target kind expected w find receiver := by
  have forgetful := engine.forgetful d
  have reaches (unwrap : Object → Program σ (Option GenId)) :
      Reaches (engine.stepper d) expected m
        ((call kind receiver expected m (unwrapping kind unwrap)).run (engine.stepper d) w)
        (locate kind expected (engine.stepper d) unwrap receiver w) := by
    rw [run_call, locate]
    cases itself? kind expected w receiver with
    | some g => exact rfl
    | none => exact reaches_unwrapping forgetful unwrap receiver
  have located (find : Object → Option GenId) :
      locate kind expected (engine.stepper d) (fun o => .done (find o)) receiver w =
        (target kind expected w find receiver, w) := by
    rw [locate, target]
    cases itself? kind expected w receiver <;> rfl
  refine ⟨reaches, located, ?_, ?_⟩
  · rw [noWrappers_eq kind, ← located]
    exact reaches _
  · intro v same find
    have fits : v.fits kind expected = w.fits kind expected := by
      funext g
      have same := same g
      unfold World.fits
      cases hv : v.look g <;> cases hw : w.look g <;> simp_all [fits]
    simp only [target, itself?, hidden, fits]

end Calls

end Host

end Resumable
