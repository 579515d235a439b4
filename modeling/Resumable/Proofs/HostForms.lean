import Resumable.Proofs.Nesting
import Resumable.Proofs.Receivers
import Resumable.Proofs.Reentrancy

/-!
# Host forms of method calls

A method call can be made on a generator directly, or through the host with the generator as the
receiver and with its own engine and flavor as what is expected (`Host.form`, `Host.closeForm`).  In
a realm without wrappers it makes no difference.  A receiver is always what it is, so the check lets
the call through, except for the close of a modern generator; that one is turned away by the check
and by the generator itself, with the same fault (`Host.run_form`, `Host.run_closeForm`).  So direct
calls may be replaced by their host forms anywhere, in bodies as well: the run stays the same
(`host_forms_interchangeable`).
-/

namespace Resumable

variable {σ : Signature} {α β : Type}

/-- What a modern generator answers to a close, and what the host answers in its place. -/
def Request.unclosable (σ : Signature) : Outcome (σ.Answer Unit) :=
  .returned (.error (.mismatch ⟨.legacy, Mode.close.name⟩))

/-- A modern generator was asked to close and has said that it cannot be. -/
inductive Event.Unclosable : Event σ → Prop
  | intro (g : GenId) : Unclosable (.answered (.close g) (Request.unclosable σ))

namespace Host

/-- A method call through the host, with the generator itself as the receiver. -/
def form (g : GenId) (m : Method σ.Value σ.Thrown) : Program σ σ.CallAnswer := do
  match ← Program.look g with
  | some v => call v.kind (.generator g) v.flavor m noWrappers
  | none => Program.invoke g m

/-- A close through the host, with the generator itself as the receiver. -/
def closeForm (g : GenId) : Program σ (Outcome (σ.Answer Unit)) := do
  match ← Program.look g with
  | some v => close v.kind (.generator g) noWrappers
  | none => Program.close g

/-! ## One call -/

section Calls

variable {step : Stepper σ} {w : World σ} {g : GenId} {gen : Gen σ}

/-- A generator is what it is. -/
theorem itself?_self (found : w.gen? g = some gen) :
    itself? gen.kind gen.flavor w (.generator g) = some g := by
  simp [itself?, World.fits, World.look, found, fits, Gen.view]

theorem run_call_self (found : w.gen? g = some gen) (m : Method σ.Value σ.Thrown) :
    (call gen.kind (.generator g) gen.flavor m noWrappers).run step w =
      (Program.invoke g m).run step w := by
  rw [run_call, itself?_self found]

/-- **A method call is its host form.** -/
theorem run_form (m : Method σ.Value σ.Thrown) :
    (form g m).run step w = (Program.invoke g m).run step w := by
  have looked : (form g m).run step w =
      ((match w.look g with
        | some v => call v.kind (.generator g) v.flavor m noWrappers
        | none => Program.invoke g m : Program σ σ.CallAnswer).run step w) := rfl
  rw [looked, World.look]
  cases found : w.gen? g with
  | none => rfl
  | some gen => exact run_call_self found m

/-- A completion that is left out and put back makes no difference. -/
theorem map_none_map_unit (a : Outcome (σ.Answer Unit)) :
    (a.map (·.map fun _ => (none : Option (Completion σ.Value)))).map (·.map fun _ => ()) = a := by
  rcases a with (_ | _) | _ | _ <;> rfl

theorem run_close_legacy (found : w.gen? g = some gen) (legacy : gen.flavor = .legacy) :
    (close gen.kind (.generator g) noWrappers).run step w = (Program.close g).run step w := by
  have called (m : Method σ.Value σ.Thrown) :
      (call gen.kind (.generator g) .legacy m noWrappers).run step w =
        (Program.invoke g m).run step w := legacy ▸ run_call_self found m
  simp only [close, bind, Program.run_bind, called]
  exact Prod.ext (map_none_map_unit _) rfl

theorem run_close_modern (found : w.gen? g = some gen) (modern : gen.flavor = .modern) :
    (close gen.kind (.generator g) noWrappers).run step w = (Request.unclosable σ, w) ∧
      (Program.close g).run step w =
        (Request.unclosable σ, w.record (.answered (.close g) (Request.unclosable σ))) := by
  constructor
  · have unfit : itself? gen.kind .legacy w (.generator g) = none := by
      simp [itself?, World.fits, World.look, found, fits, Gen.view, modern]
    simp only [close, bind, Program.run_bind, run_call, unfit]
    rfl
  · have gate : w.gate (.close g) = .answered (Request.unclosable σ) w := by
      simp only [World.gate, World.gateClose, found, modern]
      rfl
    simp only [Program.close, Program.command, Program.run, World.serve_of_gate_answered gate]

/-- A close is its host form, except that a modern generator is not even asked. -/
theorem run_closeForm (step : Stepper σ) (w : World σ) (g : GenId) :
    (closeForm g).run step w = (Program.close g).run step w ∨
      (closeForm g).run step w = (Request.unclosable σ, w) ∧
        (Program.close g).run step w =
          (Request.unclosable σ, w.record (.answered (.close g) (Request.unclosable σ))) := by
  have looked : (closeForm g).run step w =
      ((match w.look g with
        | some v => close v.kind (.generator g) noWrappers
        | none => Program.close g : Program σ (Outcome (σ.Answer Unit))).run step w) := rfl
  rw [looked, World.look]
  cases found : w.gen? g with
  | none => exact .inl rfl
  | some gen =>
    cases flavor : gen.flavor with
    | legacy => exact .inl (run_close_legacy found flavor)
    | modern => exact .inr (run_close_modern found flavor)

end Calls

end Host

/-! ## Whole runs -/

/-- Some of the direct calls of a program have been replaced by their host forms. -/
inductive Program.Hosted : Program σ α → Program σ α → Prop
  | done (a : α) : Hosted (.done a) (.done a)
  | issue (c : Command σ) {k k' : c.Reply → Program σ α} (rest : ∀ a, Hosted (k a) (k' a)) :
      Hosted (.issue c k) (.issue c k')
  | call (g : GenId) (m : Method σ.Value σ.Thrown) {k : (Request.of g m).Reply → Program σ α}
      {k' : σ.CallAnswer → Program σ α} (rest : ∀ a, Hosted (k a) (k' (Request.handOn g m a))) :
      Hosted (.issue (.request (.of g m)) k) ((Host.form g m).bind k')
  | close (g : GenId) {k k' : Outcome (σ.Answer Unit) → Program σ α}
      (rest : ∀ a, Hosted (k a) (k' a)) :
      Hosted (.issue (.request (.close g)) k) ((Host.closeForm g).bind k')

theorem Program.Hosted.refl (p : Program σ α) : p.Hosted p := by
  induction p with
  | done a => exact .done a
  | issue c k ih => exact .issue c ih

/-- The bodies of one engine are those of another with some direct calls replaced. -/
def Engine.Hosted (engine engine' : Engine σ) : Prop :=
  ∀ g body input mode, (engine g body input mode).Hosted (engine' g body input mode)

/-- What may be inserted may also be left out. -/
theorem Interspersed.of_cons {ε : Type} {P : ε → Prop} {e : ε} {es es' : List ε}
    (h : Interspersed P (e :: es) es') (he : P e) : Interspersed P es es' := by
  generalize hs : e :: es = xs at h
  induction h with
  | nil => cases hs
  | keep _ rest =>
    cases hs
    exact .insert he rest
  | insert hi _ ih => exact .insert hi (ih hs)

section Runs

variable {step step' : Stepper σ} {w w' : World σ}

/-- A close comes to the same through the host, whether or not a modern generator is asked. -/
theorem Host.upTo_closeForm (steps : step.UpTo (Interspersed Event.Unclosable) step')
    (upTo : w.UpTo (Interspersed Event.Unclosable) w') (g : GenId) :
    Abreast (World.UpTo (Interspersed Event.Unclosable)) ((closeForm g).run step w)
      (w'.serve step' (.request (.close g))) := by
  have served := upTo.command steps .keep (.request (.close g))
  have direct : (Program.close g).run step w = w.serve step (.request (.close g)) := rfl
  obtain same | ⟨hosted, spurned⟩ := run_closeForm step w g
  · rw [same, direct]
    exact served
  · rw [← direct, spurned] at served
    obtain ⟨answer, slots, shared, past⟩ := served
    rw [hosted]
    exact ⟨answer, slots, shared, past.of_cons (.intro g)⟩

/-- **A program comes to the same with its host forms.** -/
theorem Program.Hosted.run (steps : step.UpTo (Interspersed Event.Unclosable) step')
    {p p' : Program σ α} (hosted : p.Hosted p')
    (upTo : w.UpTo (Interspersed Event.Unclosable) w') :
    Abreast (World.UpTo (Interspersed Event.Unclosable)) (p'.run step w) (p.run step' w') := by
  induction hosted generalizing w w' with
  | done a => exact ⟨rfl, upTo⟩
  | issue c _ ih =>
    have served := upTo.command steps .keep c
    simp only [Program.run, served.1]
    exact ih _ served.2
  | call g m _ ih =>
    have served := upTo.command steps .keep (.request (.of g m))
    simp only [Program.run_bind, Host.run_form, Program.invoke_eq, Program.run, served.1]
    exact ih _ served.2
  | close g _ ih =>
    have closed := Host.upTo_closeForm steps upTo g
    simp only [Program.run_bind, Program.run, closed.1]
    exact ih _ closed.2

/-- **Bodies come to the same with their host forms.** -/
theorem Engine.Hosted.upTo {engine engine' : Engine σ} (hosted : engine.Hosted engine') (d : Nat) :
    (engine'.stepper d).UpTo (Interspersed Event.Unclosable) (engine.stepper d) := by
  induction d with
  | zero => exact fun _ _ _ _ _ _ upTo => ⟨rfl, upTo⟩
  | succ d ih => exact fun g body input mode _ _ upTo => (hosted g body input mode).run ih upTo

end Runs

theorem Event.Unclosable.owner? {e : Event σ} (h : e.Unclosable) : e.owner? = none := by
  cases h
  rfl

/-- **Direct calls and their host forms are interchangeable.**  On a generator of either flavor, in
any state and with any stepping of bodies, a call through the host comes to the same as the direct
call, up to how a completion is wrapped.  Only the close of a modern generator is turned away before
the generator is asked, so that its refusal is not on record.  If any direct calls are replaced by
their host forms, in bodies and at the top level, a run gives the same result and ends in the same
world, with the same steps and records for every generator; the history lacks nothing but refusals
of modern generators to be closed. -/
theorem host_forms_interchangeable :
    (∀ (step : Stepper σ) (w : World σ) g gen, w.gen? g = some gen →
      (∀ v, (Host.next gen.kind (.generator g) gen.flavor v Host.noWrappers).run step w =
        (((Program.next g v).run step w).1.map (·.map some), ((Program.next g v).run step w).2)) ∧
      (∀ e, (Host.throw gen.kind (.generator g) gen.flavor e Host.noWrappers).run step w =
        (((Program.throw g e).run step w).1.map (·.map some),
          ((Program.throw g e).run step w).2)) ∧
      (∀ m, (Host.call gen.kind (.generator g) gen.flavor m Host.noWrappers).run step w =
        (Program.invoke g m).run step w) ∧
      match gen.flavor with
      | .legacy =>
        (Host.close gen.kind (.generator g) Host.noWrappers).run step w =
          (Program.close g).run step w
      | .modern =>
        (Host.close gen.kind (.generator g) Host.noWrappers).run step w =
          (Request.unclosable σ, w) ∧
        (Program.close g).run step w =
          (Request.unclosable σ, w.record (.answered (.close g) (Request.unclosable σ)))) ∧
    ∀ engine engine' : Engine σ, engine.Hosted engine' → ∀ p p' : Program σ α, p.Hosted p' →
      ∀ d w,
        let x := engine.run d p w
        let x' := engine'.run d p' w
        x'.1 = x.1 ∧ x'.2.slots = x.2.slots ∧ x'.2.shared = x.2.shared ∧
          Interspersed Event.Unclosable x'.2.history x.2.history ∧
          ∀ g, x'.2.course g = x.2.course g := by
  constructor
  · intro step w g gen found
    refine ⟨?_, ?_, Host.run_call_self found, ?_⟩
    · intro v
      exact Host.run_call_self found (.next v)
    · intro e
      exact Host.run_call_self found (.throw e)
    · cases flavor : gen.flavor with
      | legacy => exact Host.run_close_legacy found flavor
      | modern => exact Host.run_close_modern found flavor
  · intro engine engine' hosted p p' replaced d w
    have same : w.UpTo (Interspersed Event.Unclosable) w := ⟨rfl, rfl, .refl _⟩
    obtain ⟨answer, after⟩ := replaced.run (hosted.upTo d) same
    refine ⟨answer.symm, after.slots.symm, after.shared.symm, after.past, fun g => ?_⟩
    -- refusals are nobody's events, so they are left out of every course
    refine (after.past.filter_eq fun e unclosable => ?_).symm
    simp [unclosable.owner?]

/-! ## Errands through the host -/

/-- Errands with all their method calls made through the host. -/
def hostedErrands : Engine errand := fun g body input mode =>
  match body with
  | .asks h => (Host.form h (.next none)).bind body.passOn
  | .guards h => (Host.form h (.next none)).bind fun _ => .done (.yielded 2, body)
  | .closes h => (Host.closeForm h).bind body.passOn
  | _ => errands g body input mode

theorem hosted_errands : errands.Hosted hostedErrands := by
  intro g body input mode
  cases body with
  | asks h =>
    refine .call h (.next none) fun a => ?_
    cases a <;> exact .refl _
  | guards h => exact .call h (.next none) fun a => .refl _
  | closes h => exact .close h fun a => .refl _
  | _ => exact .refl _

/-- A modern generator is resumed by another one that it then tries to close. -/
def backfire (resume : Program errand Unit) : Program errand Unit :=
  .spawnAll [(.modern, .closes 1), (.modern, .asks 0)] resume

theorem host_forms_interchangeable_backfire :
    let x := errands.run 9 (backfire (.resume 1)) (.initial ())
    let x' := hostedErrands.run 9 (backfire ((Host.form 1 (.next none)).bind fun _ => .done ()))
      (.initial ())
    errands.Hosted hostedErrands ∧ x'.2.slots = x.2.slots ∧
      Interspersed Event.Unclosable x'.2.history x.2.history ∧
      x.2.history.length = x'.2.history.length + 1 ∧
      let w := (errands.run 9 (backfire (.done ())) (.initial ())).2
      (Host.close () (.generator 1) Host.noWrappers).run (errands.stepper 9) w =
        (Request.unclosable errand, w) := by
  have replaced : (backfire (.resume 1)).Hosted
      (backfire ((Host.form 1 (.next none)).bind fun _ => .done ())) :=
    .issue _ fun _ => .issue _ fun _ => .call 1 (.next none) fun _ => .done ()
  obtain ⟨calls, runs⟩ := host_forms_interchangeable (σ := errand) (α := Unit)
  obtain ⟨-, slots, -, history, -⟩ := runs _ _ hosted_errands _ _ replaced 9 (.initial ())
  have found : ((errands.run 9 (backfire (.done ())) (.initial ())).2).gen? 1 =
    some ⟨.suspended, false, .modern, (), .asks 0, .shared 0⟩ := rfl
  have refused := (calls (errands.stepper 9) _ _ _ found).2.2.2.1
  exact ⟨hosted_errands, slots, history, rfl, refused⟩

end Resumable
