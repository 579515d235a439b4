import Resumable.Proofs.StepSequence
import Resumable.Proofs.Undisturbed

/-!
# What a resume comes to

A suspended generator whose body nobody holds is stepped once when it is resumed, and what the
resume answers and what becomes of the generator are up to that step alone, however it ends.  The
body may do anything in the meantime, also to the generator that it belongs to; nothing of that is
seen once the step is over (`resume_follows_its_step`).
-/

namespace Resumable

variable {σ : Signature}

/-! ## Resumes -/

/-- What a generator is resumed with: a value, or an error to raise. -/
inductive Resumption (σ : Signature) where
  | value (v : Option σ.Value)
  | error (e : σ.Thrown)

namespace Resumption

def input : Resumption σ → Input σ.Value σ.Thrown
  | value v => .value v
  | error e => .error e

def mode : Resumption σ → Mode
  | value _ => .next
  | error _ => .throw

def refusal (f : Flavor) : Resumption σ → σ.Answer (Completion σ.Value)
  | value _ => World.exhausted σ f
  | error e => .error (.raised e)

end Resumption

/-- Resumes a generator, on record. -/
def World.resume (step : Stepper σ) (g : GenId) :
    Resumption σ → World σ → Outcome (σ.Answer (Completion σ.Value)) × World σ
  | .value v, w => w.serve step (.request (.next g v))
  | .error e, w => w.serve step (.request (.throw g e))

structure World.Stepped (g : GenId) (gen : Gen σ) (o : Resumption σ) (e : σ.StepEnd)
    (w v : World σ) : Prop where
  gen? : v.gen? g = some { gen with
    newborn := false, phase := e.1.phase, body := e.2, loan := .shared 0 }
  course : v.course g = (e.1.reports o.mode).map (.logged g) ++ .ended g e.1 ::
    .began g o.input o.mode :: .logged g (.resume gen.flavor o.mode) :: w.course g

section Resuming

variable {ps : List (Pending σ)} {w : World σ} {g : GenId} {gen : Gen σ}

/-- **A suspended generator whose body nobody holds is stepped, and answers as the step ended.** -/
theorem Coherent.resumed (coherent : Coherent ps w) (found : w.gen? g = some gen)
    (suspended : gen.phase = .suspended) (free : gen.loan = .shared 0) (engine : Engine σ) (d : Nat)
    (o : Resumption σ) :
    let e := (engine.stepper d g gen.body o.input o.mode
      (w.embark g gen.flavor o.input o.mode)).1
    let x := w.resume (engine.stepper d) g o
    x.1 = e.1.outcome.map (·.map (·.complete gen.flavor)) ∧ World.Stepped g gen o e w x.2 := by
  -- requests of both kinds pass the gates in the same way
  have stepped (r : Request σ)
      (gate : w.gate r = .stepping ⟨g, gen.flavor, gen.body, o.input, o.mode⟩
        (w.embark g gen.flavor o.input o.mode)) :
      let e := (engine.stepper d g gen.body o.input o.mode
        (w.embark g gen.flavor o.input o.mode)).1
      let x := w.serve (engine.stepper d) (.request r)
      x.1 = r.reply gen.flavor e.1 ∧ World.Stepped g gen o e w x.2 := by
    obtain ⟨gen', departs, answer, gen?, course⟩ := coherent.stepped gate engine d
    cases departs.found.symm.trans found
    have exit (e : Ending σ.Value σ.Thrown) : e.exit o.mode = e.phase := by
      cases o <;> rfl
    exact ⟨answer, exit _ ▸ gen?, course⟩
  cases o with
  | value x =>
    have ready : World.Ready gen .next := ⟨suspended, nofun⟩
    exact stepped (.next g x) ((World.gateNext_of_ready found ready).trans (if_pos free))
  | error x =>
    have ready : World.Ready gen .throw := ⟨suspended, nofun⟩
    exact stepped (.throw g x) ((World.gateThrow_of_ready found ready).trans (if_pos free))

theorem World.Stepped.stepsOf {o : Resumption σ} {e : σ.StepEnd} {v : World σ}
    (stepped : World.Stepped g gen o e w v) :
    v.stepsOf g = w.stepsOf g ++ [⟨o.input, o.mode, some e.1⟩] := by
  unfold World.stepsOf
  rw [stepped.course, Taken.ofEvents_logged]
  exact List.reverse_cons

end Resuming

section Runs

variable {α : Type} {engine : Engine σ} {limit : Nat} {p : Program σ α} {s : σ.Shared}
  {m : Moment σ α} {g : GenId} {gen : Gen σ}

/-- **A resume follows its step.**  At every moment of every run, a suspended generator whose body
nobody holds is stepped exactly once when it is resumed, with what it is resumed with.  Whatever
that step does on its way, how it ends decides what is answered and how the generator is left:
suspended after a yield and closed otherwise, and newborn no longer. -/
theorem resume_follows_its_step (h : Leads engine limit (.atTop p (.initial s)) m)
    (found : m.world.gen? g = some gen) (suspended : gen.phase = .suspended)
    (free : gen.loan = .shared 0) (d : Nat) (o : Resumption σ) :
    let e := (engine.stepper d g gen.body o.input o.mode
      (m.world.embark g gen.flavor o.input o.mode)).1
    let x := m.world.resume (engine.stepper d) g o
    x.2.stepsOf g = m.world.stepsOf g ++ [⟨o.input, o.mode, some e.1⟩] ∧
    ∃ gen', x.2.gen? g = some gen' ∧ gen'.newborn = false ∧ gen'.flavor = gen.flavor ∧
      gen'.body = e.2 ∧ gen'.loan = .shared 0 ∧
      match e.1 with
      | .yielded v => gen'.phase = .suspended ∧ x.1 = .returned (.ok
          (match gen.flavor with
          | .modern => .result ⟨some v, false⟩
          | .legacy => .value v))
      | .returned v => gen'.phase = .closed ∧ x.1 = .returned (.ok
          (match gen.flavor with
          | .modern => .result ⟨some v, true⟩
          | .legacy => .value v))
      | .raised y => gen'.phase = .closed ∧ x.1 = .returned (.error (.raised y))
      | .panicked p => gen'.phase = .closed ∧ x.1 = .panicked p := by
  intro e x
  obtain ⟨answer, stepped⟩ := (coherent_of_leads h).resumed found suspended free engine d o
  refine ⟨stepped.stepsOf, _, stepped.gen?, rfl, rfl, rfl, rfl, ?_⟩
  change x.1 = e.1.outcome.map _ at answer
  generalize x.1 = a at answer
  generalize e.1 = ending at answer
  subst answer
  cases ending with
  | yielded v => cases gen.flavor <;> exact ⟨rfl, rfl⟩
  | returned v => cases gen.flavor <;> exact ⟨rfl, rfl⟩
  | raised y => exact ⟨rfl, rfl⟩
  | panicked p => exact ⟨rfl, rfl⟩

end Runs

/-- Two generators are there, each of which resumes the other, and nothing has happened to them. -/
def mutualMoment : Moment errand Unit :=
  (Moment.atTop (.spawnAll [(.legacy, .guards 1), (.modern, .asks 0)] (.done ()))
    (.initial ())).after errands 9 2

theorem resume_follows_its_step_mutual :
    let x := mutualMoment.world.resume (errands.stepper 9) 0 (.error 7)
    x.1 = .returned (.ok (.value 2)) ∧
    x.2.stepsOf 0 = [⟨.error 7, .throw, some (.yielded 2)⟩] ∧
    x.2.stepsOf 1 = [⟨.value none, .next, some (.yielded 1)⟩] ∧
    x.2.gen? 0 = some ⟨.suspended, false, .legacy, (), .guards 1, .shared 0⟩ := by
  have found : mutualMoment.world.gen? 0 =
    some ⟨.suspended, true, .legacy, (), .guards 1, .shared 0⟩ := rfl
  obtain ⟨steps, gen', found', newborn, flavor, body, loan, phase, answer⟩ :=
    resume_follows_its_step (.after 2) found rfl rfl 9 (.error 7)
  obtain ⟨_, _, _, _, _, _⟩ := gen'
  cases newborn
  cases flavor
  cases body
  cases loan
  cases phase
  exact ⟨answer, steps, rfl, found'⟩

end Resumable
