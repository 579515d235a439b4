import Resumable.Proofs.Reentrancy
import Resumable.Proofs.StepOutcome

/-!
# What a close comes to

A close of a legacy generator that is not being stepped closes it, on every path.  One that was
resumed before is stepped once more for its cleanup, unless readers hold the body; the others are
not stepped.  Of what the cleanup does, only an error and a panic reach the caller, and a value that
it yields does not keep the generator open.  After that there is nothing left to close.  A running
generator and a modern one turn the close away (`close_closes`).
-/

namespace Resumable

variable {σ : Signature}

/-- What a close answers after the step for its cleanup. -/
def Ending.closeAnswer : Ending σ.Value σ.Thrown → Outcome (σ.Answer Unit)
  | .raised e => .returned (.error (.raised e))
  | .panicked p => .panicked p
  | _ => .returned (.ok ())

/-- A close has taken some steps and has given an answer, and the generator is closed. -/
structure World.Closes (g : GenId) (ts : List (Taken σ)) (a : Outcome (σ.Answer Unit))
    (w : World σ) (x : Outcome (σ.Answer Unit) × World σ) : Prop where
  answer : x.1 = a
  steps : x.2.stepsOf g = w.stepsOf g ++ ts
  closed : ∃ gen, x.2.gen? g = some gen ∧ gen.flavor = .legacy ∧ gen.phase = .closed ∧
    gen.newborn = false

/-- A request gets its answer, and nothing else happens. -/
def World.OnlyAnswers (w : World σ) (r : Request σ) (a : r.Reply) : Prop :=
  ∀ step : Stepper σ, w.serve step (.request r) = (a, w.record (.answered r a))

section Closing

variable {ps : List (Pending σ)} {w v : World σ} {g : GenId} {gen gen' : Gen σ}

theorem reply_close (g : GenId) (f : Flavor) (e : Ending σ.Value σ.Thrown) :
    (Request.close g : Request σ).reply f e = e.closeAnswer := by
  cases e <;> rfl

theorem Coherent.closes_stepping (coherent : Coherent ps w) (found : w.gen? g = some gen)
    (ready : World.Ready gen .close) (free : gen.loan = .shared 0) (engine : Engine σ) (d : Nat) :
    let e := (engine.stepper d g gen.body .empty .close (w.embark g gen.flavor .empty .close)).1
    w.Closes g [⟨.empty, .close, some e.1⟩] e.1.closeAnswer
      (w.serve (engine.stepper d) (.request (.close g))) := by
  have gate : w.gate (.close g) = .stepping ⟨g, gen.flavor, gen.body, .empty, .close⟩
      (w.embark g gen.flavor .empty .close) :=
    (World.gateClose_of_ready found ready).trans (if_pos free)
  obtain ⟨gen', departs, answer, found', course⟩ := coherent.stepped gate engine d
  cases departs.found.symm.trans found
  refine ⟨answer.trans (reply_close g gen.flavor _), ?_, _, found', (ready.2 rfl).1, rfl, rfl⟩
  unfold World.stepsOf
  rw [course, Taken.ofEvents_logged]
  exact List.reverse_cons

/-- Where the close takes no step, the generator is changed at the gates at most. -/
theorem World.Becomes.closes {es : List (Event σ)} (becomes : World.Becomes g gen' es w v)
    (own : ∀ e ∈ es, e.owner? = some g)
    (silent : Taken.ofEvents (es ++ w.course g) = Taken.ofEvents (w.course g))
    (legacy : gen'.flavor = .legacy) (closed : gen'.phase = .closed)
    (started : gen'.newborn = false) {a : Outcome (σ.Answer Unit)}
    (gate : w.gate (.close g) = .answered a v) (step : Stepper σ) :
    w.Closes g [] a (w.serve step (.request (.close g))) := by
  rw [World.serve_of_gate_answered gate]
  refine ⟨rfl, ?_, gen', becomes.self, legacy, closed, started⟩
  have course : (v.record (.answered (.close g) a)).course g = es ++ w.course g := by
    rw [World.course_record, if_neg nofun, becomes.course own, if_pos rfl]
  rw [World.stepsOf, course, silent, List.append_nil]
  rfl

theorem World.closes_stalling (found : w.gen? g = some gen) (ready : Ready gen .close)
    (held : gen.loan ≠ .shared 0) (step : Stepper σ) :
    w.Closes g [] (.panicked .bodyHeld) (w.serve step (.request (.close g))) := by
  have gate : w.gate (.close g) =
      .answered (.panicked .bodyHeld) (w.stall g gen.flavor .close) :=
    (gateClose_of_ready found ready).trans (if_neg held)
  exact (becomes_stall found gen.flavor .close).closes (by simp [Event.owner?]) rfl
    (ready.2 rfl).1 rfl rfl gate step

theorem Coherent.closes_newborn (coherent : Coherent ps w) (found : w.gen? g = some gen)
    (newborn : gen.newborn = true) (step : Stepper σ) :
    w.Closes g [] (.returned (.ok ())) (w.serve step (.request (.close g))) := by
  have course := (coherent.settled g gen found).course
  rw [newborn] at course
  obtain ⟨legacy, suspended, -⟩ := course.of_newborn
  have gate : w.gate (.close g) = .answered (.returned (.ok ())) (w.shutNewborn g) := by
    simp only [World.gate, World.gateClose, found, legacy, suspended, newborn]
  exact (World.becomes_shutNewborn found).closes (by simp [Event.owner?]) rfl legacy rfl rfl gate
    step

theorem World.gate_close_of_closed (found : w.gen? g = some gen) (legacy : gen.flavor = .legacy)
    (closed : gen.phase = .closed) : w.gate (.close g) = .answered (.returned (.ok ())) w := by
  simp only [gate, gateClose, found, legacy, closed]

theorem Coherent.closes_closed (coherent : Coherent ps w) (found : w.gen? g = some gen)
    (legacy : gen.flavor = .legacy) (closed : gen.phase = .closed) (step : Stepper σ) :
    w.Closes g [] (.returned (.ok ())) (w.serve step (.request (.close g))) := by
  have started : gen.newborn = false := by
    refine Bool.eq_false_iff.mpr fun newborn => ?_
    have course := (coherent.settled g gen found).course
    rw [newborn] at course
    cases closed.symm.trans course.of_newborn.2.1
  exact (World.Becomes.refl found).closes nofun rfl legacy closed started
    (World.gate_close_of_closed found legacy closed) step

/-- A closed generator stays closed, and has nothing left to close. -/
theorem World.Closes.later {ts : List (Taken σ)} {a : Outcome (σ.Answer Unit)}
    {x : Outcome (σ.Answer Unit) × World σ} (closes : w.Closes g ts a x) {β : Type}
    {engine : Engine σ} {limit : Nat} {m m' : Moment σ β} (coherent : Coherent m.pending m.world)
    (here : m.world = x.2) (later : Leads engine limit m m')
    (found : m'.world.gen? g = some gen) :
    m'.world.OnlyAnswers (.close g) (.returned (.ok ())) := by
  obtain ⟨gen₀, found₀, legacy, closed, -⟩ := closes.closed
  rw [← here] at found₀
  have retired := later.keeps World.Retired.move coherent
    (World.retired_of_closed coherent found₀ closed)
  obtain ⟨n, rfl⟩ := retired.gen? gen found
  exact World.serve_of_gate_answered (World.gate_close_of_closed found legacy closed)

theorem Coherent.close_of_running (coherent : Coherent ps w) (found : w.gen? g = some gen)
    (legacy : gen.flavor = .legacy) (running : gen.phase = .running) :
    w.OnlyAnswers (.close g) (.returned (.error .nesting)) := by
  have course := (coherent.settled g gen found).course
  rw [running] at course
  have gate := World.gate_of_running found running course.started .close
  rw [legacy] at gate
  exact World.serve_of_gate_answered gate

theorem World.close_of_modern (found : w.gen? g = some gen) (modern : gen.flavor = .modern) :
    w.OnlyAnswers (.close g) (.returned (.error (.mismatch ⟨.legacy, "close"⟩))) := by
  refine serve_of_gate_answered ?_
  simp only [gate, gateClose, found, modern]
  rfl

end Closing

section Runs

variable {α : Type} {engine : Engine σ} {limit : Nat} {p : Program σ α} {s : σ.Shared}
  {m : Moment σ α} {g : GenId} {gen : Gen σ}

/-- **A close closes.**  At every moment of every run, a legacy generator that is not running is
closed by a close and newborn no longer, whether the close returns or panics.  If it was suspended
and not newborn, its body is stepped exactly once for the cleanup, and the close answers with the
error of that step if it raised one; readers of the body keep the step from being taken, and the
close panics.  In every other case no step is taken.  Any later close has nothing left to do.  A
running legacy generator refuses to be closed, and a modern one cannot be. -/
theorem close_closes (h : Leads engine limit (.atTop p (.initial s)) m)
    (found : m.world.gen? g = some gen) (d : Nat) :
    let x := m.world.serve (engine.stepper d) (.request (.close g))
    (gen.flavor = .legacy → gen.phase ≠ .running →
      (∃ gen', x.2.gen? g = some gen' ∧ gen'.phase = .closed ∧ gen'.newborn = false) ∧
      (if gen.phase = .suspended ∧ gen.newborn = false then
        if gen.loan = .shared 0 then
          let e := (engine.stepper d g gen.body .empty .close
            (m.world.embark g gen.flavor .empty .close)).1.1
          x.2.stepsOf g = m.world.stepsOf g ++ [⟨.empty, .close, some e⟩] ∧ x.1 = e.closeAnswer
        else x.2.stepsOf g = m.world.stepsOf g ∧ x.1 = .panicked .bodyHeld
      else x.2.stepsOf g = m.world.stepsOf g ∧ x.1 = .returned (.ok ())) ∧
      ∀ (β : Type) (m₁ m' : Moment σ β) limit' gen', m₁.world = x.2 → m₁.pending = m.pending →
        Leads engine limit' m₁ m' → m'.world.gen? g = some gen' →
          m'.world.OnlyAnswers (.close g) (.returned (.ok ()))) ∧
    (gen.flavor = .legacy → gen.phase = .running →
      m.world.OnlyAnswers (.close g) (.returned (.error .nesting))) ∧
    (gen.flavor = .modern →
      m.world.OnlyAnswers (.close g) (.returned (.error (.mismatch ⟨.legacy, "close"⟩)))) := by
  intro x
  have coherent := coherent_of_leads h
  refine ⟨?_, coherent.close_of_running found, World.close_of_modern found⟩
  intro legacy resting
  have kept : Coherent m.pending x.2 := (coherent.serve (engine.discreet d) _).coherent
  have closed {ts : List (Taken σ)} {a : Outcome (σ.Answer Unit)}
      (closes : m.world.Closes g ts a x) :
      ∃ gen', x.2.gen? g = some gen' ∧ gen'.phase = .closed ∧ gen'.newborn = false := by
    obtain ⟨gen', found', -, closed⟩ := closes.closed
    exact ⟨gen', found', closed⟩
  have later {ts : List (Taken σ)} {a : Outcome (σ.Answer Unit)}
      (closes : m.world.Closes g ts a x) (β : Type) (m₁ m' : Moment σ β) (limit' : Nat)
      (gen' : Gen σ) (here : m₁.world = x.2) (pending : m₁.pending = m.pending)
      (leads : Leads engine limit' m₁ m') (found' : m'.world.gen? g = some gen') :
      m'.world.OnlyAnswers (.close g) (.returned (.ok ())) :=
    closes.later (by rw [here, pending]; exact kept) here leads found'
  by_cases started : gen.phase = .suspended ∧ gen.newborn = false
  · have ready : World.Ready gen .close := ⟨started.1, fun _ => ⟨legacy, started.2⟩⟩
    rw [if_pos started]
    by_cases free : gen.loan = .shared 0
    · have closes := coherent.closes_stepping found ready free engine d
      rw [if_pos free]
      exact ⟨closed closes, ⟨closes.steps, closes.answer⟩, later closes⟩
    · have closes := World.closes_stalling found ready free (engine.stepper d)
      rw [if_neg free]
      exact ⟨closed closes, ⟨closes.steps.trans (List.append_nil _), closes.answer⟩, later closes⟩
  · have closes : m.world.Closes g [] (.returned (.ok ())) x := by
      cases newborn : gen.newborn with
      | true => exact coherent.closes_newborn found newborn _
      | false =>
        refine coherent.closes_closed found legacy ?_ _
        cases phase : gen.phase with
        | suspended => exact absurd ⟨phase, newborn⟩ started
        | running => exact absurd phase resting
        | closed => rfl
    rw [if_neg started]
    exact ⟨closed closes, ⟨closes.steps.trans (List.append_nil _), closes.answer⟩, later closes⟩

end Runs

/-- A legacy generator that closes itself in every step was resumed, and is about to be closed. -/
def selfClosing : Moment errand Unit :=
  (Moment.atTop (.spawnAll [(.legacy, .closes 0)] (.issue (.request (.next 0 none)) fun _ =>
    .issue (.request (.close 0)) fun _ => .issue (.hold 0) fun _ => .done ()))
    (.initial ())).after errands 9 4

theorem close_closes_selfClosing :
    let x := selfClosing.world.serve (errands.stepper 9) (.request (.close 0))
    selfClosing.world.gen? 0 = some ⟨.suspended, false, .legacy, (), .closes 0, .shared 0⟩ ∧
    x.1 = .returned (.ok ()) ∧
    x.2.stepsOf 0 = [⟨.value none, .next, some (.yielded 1)⟩, ⟨.empty, .close, some (.yielded 1)⟩] ∧
    (selfClosing.after errands 9 4).world.gen? 0 =
      some ⟨.closed, false, .legacy, (), .closes 0, .shared 1⟩ ∧
    (selfClosing.after errands 9 4).world.OnlyAnswers (.close 0) (.returned (.ok ())) := by
  have found : selfClosing.world.gen? 0 =
    some ⟨.suspended, false, .legacy, (), .closes 0, .shared 0⟩ := rfl
  have found' : (selfClosing.after errands 9 4).world.gen? 0 =
    some ⟨.closed, false, .legacy, (), .closes 0, .shared 1⟩ := rfl
  obtain ⟨closes, -⟩ := close_closes (.after 4) found 9
  obtain ⟨-, ⟨steps, answer⟩, later⟩ := closes rfl nofun
  have again := later Unit (selfClosing.after errands 9 3) (selfClosing.after errands 9 4) 9 _
    rfl rfl (.after 1) found'
  exact ⟨found, answer, steps, found', again⟩

end Resumable
