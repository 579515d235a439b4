import Resumable.Proofs.Closing
import Resumable.Proofs.IteratorClose

/-!
# What giving up an iterator comes to

An iterator that is given up leaves its generator alone if it is finished or if the generator is a
modern one, and otherwise closes it.  That takes a step of the body for the cleanup in one case only
(`Gen.CleansUp`), and it fails in two: the generator is being stepped, or the cleanup raises an
error (`Gen.FailsToClose`).  A failure shows in one warning and nowhere else, and only a generator
that is being stepped is left open (`discard_closes`).
-/

namespace Resumable

variable {σ : Signature}

/-! ## Warnings -/

/-- Whether an event is a record that asks for attention. -/
def Event.warns : Event σ → Bool
  | .logged _ r => r.level = .warn
  | _ => false

section Events

variable {e : Event σ} {g : GenId}

/-- What belongs to the course of a generator does not. -/
theorem Event.warns_of_owner? (own : e.owner? = some g) : e.warns = false := by
  cases e with
  | logged h r => cases r <;> first | rfl | cases own
  | _ => rfl

/-- Nor is it said to a caller. -/
theorem Event.spoken_of_owner? (own : e.owner? = some g) : e.spoken = false := by
  cases e <;> first | rfl | cases own

end Events

/-! ## The cases -/

/-- Giving up an iterator, finished or not, takes a step for the cleanup of its generator. -/
def Gen.CleansUp (gen : Gen σ) (finished : Bool) : Prop :=
  finished = false ∧ gen.flavor = .legacy ∧ gen.phase = .suspended ∧ gen.newborn = false ∧
    gen.loan = .shared 0

instance (gen : Gen σ) (finished : Bool) : Decidable (gen.CleansUp finished) :=
  inferInstanceAs (Decidable (_ ∧ _))

/-- Giving up an iterator fails to close its generator, where a step for the cleanup ends in a given
way. -/
def Gen.FailsToClose (gen : Gen σ) (finished : Bool) (e : Ending σ.Value σ.Thrown) : Prop :=
  finished = false ∧ gen.flavor = .legacy ∧
    (gen.phase = .running ∨ gen.CleansUp finished ∧ ∃ x, e = .raised x)

theorem Gen.cleansUp_iff {gen : Gen σ} {finished : Bool} :
    gen.CleansUp finished ↔ finished = false ∧ World.Ready gen .close ∧ gen.loan = .shared 0 := by
  constructor
  · rintro ⟨unfinished, legacy, suspended, started, free⟩
    exact ⟨unfinished, ⟨suspended, fun _ => ⟨legacy, started⟩⟩, free⟩
  · rintro ⟨unfinished, ⟨suspended, closable⟩, free⟩
    exact ⟨unfinished, (closable rfl).1, suspended, (closable rfl).2, free⟩

/-- What becomes of the step that giving up an iterator takes. -/
def World.cleanup (step : Stepper σ) (c : CursorId) (gen : Gen σ) (w : World σ) :
    σ.StepEnd × World σ :=
  step c.gen gen.body .empty .close
    ((w.modifyCursor c fun _ => ⟨false, true⟩).embark c.gen gen.flavor .empty .close)

/-- An iterator has been given up: its generator has taken some steps, and from the world that the
last of them left, only events of the generator and at most one warning have gone on record. -/
structure World.GivesUp (c : CursorId) (ts : List (Taken σ)) (a : Outcome Unit) (fails : Prop)
    (w base : World σ) (x : Outcome Unit × World σ) : Prop where
  answer : x.1 = a
  steps : x.2.stepsOf c.gen = w.stepsOf c.gen ++ ts
  history : ∃ ws es, x.2.history = .answered (.discard c) a :: (ws ++ es ++ base.history) ∧
    (∀ e ∈ es, e.owner? = some c.gen) ∧
    (fails → ws = [.logged c.gen .closeFailed] ∧ a = .returned ()) ∧ (¬ fails → ws = [])
  gone : x.2.cursor? c = none

namespace World

variable {w v base : World σ} {c : CursorId} {gen : Gen σ} {a : Outcome Unit}

theorem GivesUp.congr {ts : List (Taken σ)} {fails fails' : Prop} {x : Outcome Unit × World σ}
    (givesUp : w.GivesUp c ts a fails base x) (same : fails ↔ fails') :
    w.GivesUp c ts a fails' base x :=
  propext same ▸ givesUp

/-- An iterator is given up without a step and without a warning. -/
theorem givesUp_of_gate (es : List (Event σ)) (gate : w.gate (.discard c) = .answered a v)
    (history : v.history = es ++ w.history) (own : ∀ e ∈ es, e.owner? = some c.gen)
    (untaken : Taken.ofEvents (es ++ w.course c.gen) = Taken.ofEvents (w.course c.gen))
    (gone : v.cursor? c = none) (step : Stepper σ) :
    w.GivesUp c [] a False w (w.serve step (.request (.discard c))) := by
  rw [serve_of_gate_answered gate]
  refine ⟨rfl, ?_, ⟨[], es, congrArg (_ :: ·) history, own, False.elim, fun _ => rfl⟩, gone⟩
  have course : (v.record (.answered (.discard c) a)).course c.gen = es ++ w.course c.gen := by
    rw [course_record, if_neg nofun, course_append history]
    rw [List.filter_eq_self.mpr fun e he => by simpa using own e he]
  rw [stepsOf, course, untaken, List.append_nil]
  rfl

/-- A finished iterator, and any one over a modern generator, is just gone. -/
theorem gate_discard_of_idle {finished : Bool} (hc : w.cursor? c = some ⟨finished, false⟩)
    (found : w.gen? c.gen = some gen) (idle : finished = true ∨ gen.flavor = .modern) :
    w.gate (.discard c) = .answered (.returned ()) (w.eraseCursor c) := by
  cases finished with
  | true => exact gateDiscard_of_finished hc found
  | false =>
    have modern := idle.resolve_left nofun
    rw [gate, gateDiscard_of_modern hc found modern, eraseCursor_modifyCursor]

/-- So is an iterator of which nothing else is recorded. -/
theorem givesUp_gone (gate : w.gate (.discard c) = .answered a (w.eraseCursor c))
    (step : Stepper σ) : w.GivesUp c [] a False w (w.serve step (.request (.discard c))) :=
  givesUp_of_gate [] gate rfl nofun rfl (by rw [cursor?_eraseCursor, if_pos rfl]) step

section Legacy

variable (hc : w.cursor? c = some ⟨false, false⟩) (found : w.gen? c.gen = some gen)
  (legacy : gen.flavor = .legacy)
include hc found legacy

/-- An unfinished iterator closes its legacy generator, and is gone whatever that answers. -/
theorem gate_discard_of_answered {o : Outcome (σ.Answer Unit)} {u : World σ}
    (closing : (w.modifyCursor c fun _ => ⟨false, true⟩).gateClose c.gen = .answered o u) :
    w.gate (.discard c) = .answered (dispose c (o, u)).1 (dispose c (o, u)).2 := by
  rw [gate, gateDiscard_of_unused hc found legacy, closing]
  rfl

theorem gate_discard_of_closed (closed : gen.phase = .closed) :
    w.gate (.discard c) = .answered (.returned ()) (w.eraseCursor c) := by
  have found' := (gen?_modifyCursor w c (fun _ => ⟨false, true⟩) c.gen).trans found
  have unready : ¬ Ready gen .close := fun ready => nomatch closed.symm.trans ready.1
  have closing := gateClose_of_not_ready found' unready
  rw [if_neg (by simp [closed])] at closing
  rw [gate_discard_of_answered hc found legacy closing,
    ← eraseCursor_modifyCursor w c fun _ => ⟨false, true⟩]
  simp [Gen.answer, legacy, closed, dispose]

/-- In the middle of a step the close fails, and nothing happens but that this is logged. -/
theorem gate_discard_of_running (running : gen.phase = .running) (started : gen.newborn = false) :
    w.gate (.discard c) =
      .answered (.returned ()) ((w.log c.gen .closeFailed).eraseCursor c) := by
  have found' := (gen?_modifyCursor w c (fun _ => ⟨false, true⟩) c.gen).trans found
  have unready : ¬ Ready gen .close := fun ready => nomatch running.symm.trans ready.1
  have closing := gateClose_of_not_ready found' unready
  rw [if_neg (by simp [started])] at closing
  rw [gate_discard_of_answered hc found legacy closing,
    ← eraseCursor_modifyCursor (w.log c.gen .closeFailed) c fun _ => ⟨false, true⟩]
  simp only [Gen.answer, legacy, running, started, dispose]
  rfl

theorem givesUp_running (running : gen.phase = .running) (started : gen.newborn = false)
    (step : Stepper σ) :
    w.GivesUp c [] (.returned ()) True w (w.serve step (.request (.discard c))) := by
  rw [serve_of_gate_answered (gate_discard_of_running hc found legacy running started)]
  refine ⟨rfl, (List.append_nil _).symm, ⟨[.logged c.gen .closeFailed], [], rfl, nofun, ?_, ?_⟩, ?_⟩
  · exact fun _ => ⟨rfl, rfl⟩
  · exact fun calm => (calm trivial).elim
  · simp [cursor?_eraseCursor]

theorem givesUp_newborn (suspended : gen.phase = .suspended) (newborn : gen.newborn = true)
    (step : Stepper σ) :
    w.GivesUp c [] (.returned ()) False w (w.serve step (.request (.discard c))) := by
  let marked := w.modifyCursor c fun _ => ⟨false, true⟩
  have found' : marked.gen? c.gen = some gen := (gen?_modifyCursor ..).trans found
  have closing : marked.gateClose c.gen =
      .answered (.returned (.ok ())) (marked.shutNewborn c.gen) := by
    simp only [gateClose, found', legacy, suspended, newborn]
  exact givesUp_of_gate [.logged c.gen .closeNewborn]
    (gate_discard_of_answered hc found legacy closing) rfl (by simp [Event.owner?]) rfl
    (cursor?_dispose_self _) step

/-- Readers of the body make it a panic, without a step. -/
theorem givesUp_stalling (ready : Ready gen .close) (held : gen.loan ≠ .shared 0)
    (step : Stepper σ) :
    w.GivesUp c [] (.panicked .bodyHeld) False w (w.serve step (.request (.discard c))) := by
  have found' := (gen?_modifyCursor w c (fun _ => ⟨false, true⟩) c.gen).trans found
  have closing := (gateClose_of_ready found' ready).trans (if_neg held)
  exact givesUp_of_gate [.conflict c.gen, .logged c.gen (.resume gen.flavor .close)]
    (gate_discard_of_answered hc found legacy closing) rfl (by simp [Event.owner?]) rfl
    (cursor?_dispose_self _) step

end Legacy

end World

section Coherent

variable {ps : List (Pending σ)} {w : World σ} {c : CursorId} {gen : Gen σ}

/-- A step is taken for the cleanup, and an error that it raised is not passed on. -/
theorem Coherent.givesUp_stepping (coherent : Coherent ps w)
    (hc : w.cursor? c = some ⟨false, false⟩) (found : w.gen? c.gen = some gen)
    (ready : World.Ready gen .close) (free : gen.loan = .shared 0) (engine : Engine σ) (d : Nat) :
    let y := w.cleanup (engine.stepper d) c gen
    w.GivesUp c [⟨.empty, .close, some y.1.1⟩] ((Request.discard c).reply gen.flavor y.1.1)
      (∃ x, y.1.1 = .raised x) y.2 (w.serve (engine.stepper d) (.request (.discard c))) := by
  intro y
  let call : Call σ := ⟨c.gen, gen.flavor, gen.body, .empty, .close⟩
  let pd : Pending σ := ⟨.discard c, call⟩
  have found' := (w.gen?_modifyCursor c (fun _ => ⟨false, true⟩) c.gen).trans found
  have gate : w.gate (.discard c) = .stepping call
      ((w.modifyCursor c fun _ => ⟨false, true⟩).embark c.gen gen.flavor .empty .close) := by
    rw [World.gate, World.gateDiscard_of_unused hc found (ready.2 rfl).1,
      World.gateClose_of_ready found' ready, World.depart, if_pos free]
    rfl
  obtain ⟨gen', departs, answer, -, course⟩ := coherent.stepped gate engine d
  refine ⟨answer, ?_, ⟨((Request.discard c).reports y.1.1).map (.logged c.gen),
    (y.1.1.reports .close).map (.logged pd.call.gen) ++ [.ended c.gen y.1.1], ?_, ?_, ?_, ?_⟩, ?_⟩
  · rw [World.stepsOf, course, Taken.ofEvents_logged]
    exact List.reverse_cons
  · have entered : Coherent (pd :: ps) _ := coherent.move (.enter gate)
    obtain ⟨gen₁, -, -, lands⟩ := (entered.stepper engine d).lands y.1
    rw [(World.enters_of_gate gate).serve]
    refine lands.recorded.trans ?_
    rw [World.reply_conclude]
    simp only [List.map_append, List.append_assoc]
    rfl
  · intro e he
    rcases List.mem_append.mp he with reported | ended
    · exact World.owner?_of_mem_reports reported
    · rw [List.mem_singleton.mp ended]
      rfl
  · rintro ⟨x, raised⟩
    rw [raised]
    exact ⟨rfl, rfl⟩
  · intro orderly
    generalize y.1.1 = e at orderly
    cases e with
    | raised x => exact absurd ⟨x, rfl⟩ orderly
    | _ => rfl
  · rw [(World.enters_of_gate gate).serve]
    exact World.cursor?_dispose_self _

/-- **However an iterator is given up, the cases tell what happens.** -/
theorem Coherent.givesUp {finished : Bool} (coherent : Coherent ps w)
    (hc : w.cursor? c = some ⟨finished, false⟩) (found : w.gen? c.gen = some gen)
    (engine : Engine σ) (d : Nat) :
    let y := w.cleanup (engine.stepper d) c gen
    ∃ a, w.GivesUp c (if gen.CleansUp finished then [⟨.empty, .close, some y.1.1⟩] else []) a
      (gen.FailsToClose finished y.1.1) (if gen.CleansUp finished then y.2 else w)
      (w.serve (engine.stepper d) (.request (.discard c))) := by
  intro y
  by_cases cleansUp : gen.CleansUp finished
  · obtain ⟨rfl, ready, free⟩ := Gen.cleansUp_iff.mp cleansUp
    rw [if_pos cleansUp, if_pos cleansUp]
    refine ⟨_, (coherent.givesUp_stepping hc found ready free engine d).congr ⟨?_, ?_⟩⟩
    · exact fun raised => ⟨rfl, cleansUp.2.1, .inr ⟨cleansUp, raised⟩⟩
    · rintro ⟨-, -, running | ⟨-, raised⟩⟩
      · cases running.symm.trans ready.1
      · exact raised
  rw [if_neg cleansUp, if_neg cleansUp]
  by_cases idle : finished = true ∨ gen.flavor = .modern
  · refine ⟨_, (World.givesUp_gone (World.gate_discard_of_idle hc found idle) _).congr
      ⟨False.elim, ?_⟩⟩
    rintro ⟨rfl, legacy, -⟩
    cases legacy.symm.trans (idle.resolve_left nofun)
  obtain ⟨unfinished, unmodern⟩ := not_or.mp idle
  obtain rfl : finished = false := Bool.eq_false_iff.mpr unfinished
  have legacy : gen.flavor = .legacy := by
    cases flavor : gen.flavor with
    | modern => exact absurd flavor unmodern
    | legacy => rfl
  have resting (still : gen.phase ≠ .running) : False ↔ gen.FailsToClose false y.1.1 := by
    simp [Gen.FailsToClose, still, cleansUp]
  have course := (coherent.settled c.gen gen found).course
  cases phase : gen.phase with
  | closed =>
    have gate := World.gate_discard_of_closed hc found legacy phase
    exact ⟨_, (World.givesUp_gone gate _).congr (resting (by simp [phase]))⟩
  | running =>
    rw [phase] at course
    refine ⟨_, (World.givesUp_running hc found legacy phase course.started _).congr ⟨?_, ?_⟩⟩
    · exact fun _ => ⟨rfl, legacy, .inl phase⟩
    · exact fun _ => trivial
  | suspended =>
    have still := resting (by simp [phase])
    cases newborn : gen.newborn with
    | true => exact ⟨_, (World.givesUp_newborn hc found legacy phase newborn _).congr still⟩
    | false =>
      have ready : World.Ready gen .close := ⟨phase, fun _ => ⟨legacy, newborn⟩⟩
      have held : gen.loan ≠ .shared 0 := fun free => cleansUp ⟨rfl, legacy, phase, newborn, free⟩
      exact ⟨_, (World.givesUp_stalling hc found legacy ready held _).congr still⟩

end Coherent

section Runs

variable {α : Type} {engine : Engine σ} {limit : Nat} {p : Program σ α} {s : σ.Shared}
  {m : Moment σ α} {c : CursorId} {gen : Gen σ} {finished : Bool}

/-- **Giving up an iterator closes its generator, or says in the log that it could not.**  At every
moment of every run an iterator that is not in use can be given up, and is gone then.  Its generator
takes a step if and only if that is needed for the cleanup, and then exactly one, to be closed.  The
warning that the close failed goes on record once if the generator is being stepped, when nothing
else happens, or if that step raised an error, of which the caller hears nothing; otherwise no
warning is added to what the step itself wrote.  Giving up a finished iterator, or one over a modern
generator, has no effect and leaves no record.  A legacy generator that is not being stepped is
closed after an unfinished iterator over it was given up. -/
theorem discard_closes (h : Leads engine limit (.atTop p (.initial s)) m)
    (hc : m.world.cursor? c = some ⟨finished, false⟩) (found : m.world.gen? c.gen = some gen)
    (d : Nat) :
    let x := m.world.serve (engine.stepper d) (.request (.discard c))
    let y := m.world.cleanup (engine.stepper d) c gen
    let base := if gen.CleansUp finished then y.2 else m.world
    let fails := gen.FailsToClose finished y.1.1
    x.2.stepsOf c.gen = m.world.stepsOf c.gen ++
      (if gen.CleansUp finished then [⟨.empty, .close, some y.1.1⟩] else []) ∧
    (∃ ws es, x.2.history = .answered (.discard c) x.1 :: (ws ++ es ++ base.history) ∧
      (∀ e ∈ es, e.owner? = some c.gen ∧ e.warns = false) ∧
      (fails → ws = [.logged c.gen .closeFailed]) ∧ (¬ fails → ws = [])) ∧
    (fails → x.1 = .returned () ∧
      x.2.dialogue = .answered (.discard c) (.returned ()) :: base.dialogue) ∧
    (finished = true ∨ gen.flavor = .modern →
      x = (.returned (), (m.world.eraseCursor c).record (.answered (.discard c) (.returned ())))) ∧
    (finished = false → gen.flavor = .legacy → gen.phase = .running →
      x = (.returned (), ((m.world.log c.gen .closeFailed).eraseCursor c).record
        (.answered (.discard c) (.returned ())))) ∧
    (finished = false → gen.flavor = .legacy → gen.phase ≠ .running →
      ∃ gen', x.2.gen? c.gen = some gen' ∧ gen'.phase = .closed) ∧
    x.2.cursor? c = none := by
  intro x y base fails
  have coherent := coherent_of_leads h
  obtain ⟨a, answer, steps, ⟨ws, es, history, own, failed, closed⟩, gone⟩ :=
    coherent.givesUp hc found engine d
  rw [← answer] at history failed
  refine ⟨steps, ⟨ws, es, history, ?_, fun h => (failed h).1, closed⟩, ?_, ?_, ?_, ?_, gone⟩
  · exact fun e he => ⟨own e he, Event.warns_of_owner? (own e he)⟩
  · intro h
    obtain ⟨rfl, answer⟩ := failed h
    have silent : es.filter (·.spoken) = [] :=
      List.filter_eq_nil_iff.mpr fun e he => by simp [Event.spoken_of_owner? (own e he)]
    refine ⟨answer, ?_⟩
    rw [World.dialogue, history, answer]
    simp only [List.filter_cons, List.filter_append, silent]
    rfl
  · intro idle
    exact World.serve_of_gate_answered (World.gate_discard_of_idle hc found idle) _
  · rintro rfl legacy running
    have course := (coherent.settled c.gen gen found).course
    rw [running] at course
    exact World.serve_of_gate_answered
      (World.gate_discard_of_running hc found legacy running course.started) _
  · rintro rfl legacy resting
    exact closed_of_unfinished coherent hc found legacy resting d

end Runs

/-- Bodies that yield for ever, and raise an error when they are to clean up. -/
def sulks : Engine errand := fun _ body _ mode =>
  .done (if mode = .close then .raised 0 else .yielded 0, body)

theorem discard_closes_sulking :
    let m := resumedWithIterator.after sulks 9 4
    let x := m.world.serve (sulks.stepper 9) (.request (.discard ⟨0, 0⟩))
    m.world.gen? 0 = some ⟨.suspended, false, .legacy, (), .yields, .shared 0⟩ ∧
    x.2.stepsOf 0 = [⟨.value none, .next, some (.yielded 0)⟩, ⟨.empty, .close, some (.raised 0)⟩] ∧
    (∃ es, x.2.history = .answered (.discard ⟨0, 0⟩) (.returned ()) ::
      .logged 0 .closeFailed :: es) ∧
    ∃ gen', x.2.gen? 0 = some gen' ∧ gen'.phase = .closed := by
  have hc : (resumedWithIterator.after sulks 9 4).world.cursor? ⟨0, 0⟩ = some ⟨false, false⟩ := rfl
  have found : (resumedWithIterator.after sulks 9 4).world.gen? 0 =
    some ⟨.suspended, false, .legacy, (), .yields, .shared 0⟩ := rfl
  obtain ⟨steps, ⟨ws, es, history, -, failed, -⟩, told, -, -, closed, -⟩ :=
    discard_closes (.after 4) hc found 9
  have fails : (⟨.suspended, false, .legacy, (), .yields, .shared 0⟩ : Gen errand).FailsToClose
      false (.raised 0) :=
    ⟨rfl, rfl, .inr ⟨by decide, 0, rfl⟩⟩
  obtain rfl := failed fails
  rw [(told fails).1] at history
  exact ⟨found, steps, ⟨_, history⟩, closed rfl rfl nofun⟩

end Resumable
