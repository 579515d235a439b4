import Resumable.Proofs.Lifetime

/-!
# Closed generators

A closed generator answers every request at once (`World.AnsweredAtOnce`): with what its flavor says
for the end, with the error that was thrown, or with no item.  Nobody is stepped, no generator
changes, and nothing is logged, whoever reads its body.  `closed_for_good`: once closed, at any
moment of any run, it is as it was and answers so ever after.
-/

namespace Resumable

variable {σ : Signature}

namespace World

/-- Whatever bodies do, a request gets an answer that steps none of them: no generator changes,
nothing is logged, and only the iterator of the request may change. -/
structure AnsweredAtOnce (r : Request σ) (a : r.Reply) (w : World σ) : Prop where
  reply : ∀ step, (w.serve step (.request r)).1 = a
  history : ∀ step, (w.serve step (.request r)).2.history = .answered r a :: w.history
  gen? : ∀ step g, (w.serve step (.request r)).2.gen? g = w.gen? g
  cursor? : ∀ step d, r.cursor? ≠ some d →
    (w.serve step (.request r)).2.cursor? d = w.cursor? d

section Requests

variable {w : World σ} {r : Request σ} {a : r.Reply} {g : GenId} {gen : Gen σ} {c : CursorId}
  {cur : Cursor}

theorem answeredAtOnce_of_perform (w' : World σ) (h : ∀ step, w.perform step r = (a, w'))
    (history : w'.history = w.history) (gen? : ∀ g, w'.gen? g = w.gen? g)
    (cursor? : ∀ d, r.cursor? ≠ some d → w'.cursor? d = w.cursor? d) :
    AnsweredAtOnce r a w := by
  have served (step : Stepper σ) :
      w.serve step (.request r) = (a, w'.record (.answered r a)) := by
    rw [serve, h]
  refine ⟨?_, ?_, ?_, ?_⟩
  · intro step
    rw [served]
  · intro step
    rw [served]
    exact congrArg (_ :: ·) history
  · intro step g
    rw [served]
    exact gen? g
  · intro step d hd
    rw [served]
    exact cursor? d hd

/-- A program that makes a request of a closed generator goes on at once. -/
theorem AnsweredAtOnce.react {β : Type} (atOnce : AnsweredAtOnce r a w)
    (found : w.gen? r.target = some gen) (closed : gen.phase = .closed)
    (k : r.Reply → Program σ β) :
    w.react (.request r) k = .goOn (k a) (w.serve Stepper.never (.request r)).2 := by
  have performed := perform_eq_through Stepper.never r w
  have reply := atOnce.reply Stepper.never
  simp only [serve] at reply ⊢
  simp only [World.react]
  cases hg : w.gate r with
  | answered a' w' =>
    rw [hg] at performed
    simp only [performed, Passage.through] at reply ⊢
    rw [reply]
  | stepping call w' =>
    obtain ⟨gen', departs⟩ := departs_of_gate hg
    rw [departs.target, departs.found] at found
    cases found
    cases departs.ready.1.symm.trans closed

theorem next_of_closed (found : w.gen? g = some gen) (closed : gen.phase = .closed)
    (step : Stepper σ) (v : Option σ.Value) :
    next step g v w = (.returned (exhausted σ gen.flavor), w) := by
  simp only [next, found, closed]

theorem throw_of_closed (found : w.gen? g = some gen) (closed : gen.phase = .closed)
    (step : Stepper σ) (e : σ.Thrown) :
    throw step g e w = (.returned (.error (.raised e)), w) := by
  simp only [throw, found, closed]

/-- What a closed generator answers to a close. -/
def closedAgain (σ : Signature) : Flavor → σ.Answer Unit
  | .legacy => .ok ()
  | .modern => .error (.mismatch ⟨.legacy, "close"⟩)

theorem close_of_closed (found : w.gen? g = some gen) (closed : gen.phase = .closed)
    (step : Stepper σ) : close step g w = (.returned (closedAgain σ gen.flavor), w) := by
  simp only [close, found, closed]
  cases gen.flavor <;> rfl

/-- The end of a generator is no item. -/
theorem report_exhausted (f : Flavor) :
    Cursor.report (.returned (exhausted σ f)) = (true, .returned none) := by
  cases f <;> rfl

theorem advance_of_closed (found : w.gen? c.gen = some gen) (closed : gen.phase = .closed)
    (hc : w.cursor? c = some cur) (idle : cur.busy = false) :
    AnsweredAtOnce (.advance c) (.returned none) w := by
  cases hf : cur.finished with
  | true =>
    refine answeredAtOnce_of_perform w ?_ rfl (fun _ => rfl) fun _ _ => rfl
    intro step
    simp [perform, advance, hc, idle, hf]
  | false =>
    let marked := w.modifyCursor c fun _ => ⟨false, true⟩
    have found' : marked.gen? c.gen = some gen := by rw [← found, gen?_modifyCursor]
    refine answeredAtOnce_of_perform (marked.modifyCursor c fun _ => ⟨true, false⟩) ?_ rfl ?_ ?_
    · intro step
      have told : advance step c w = tell c (next step c.gen none marked) := by
        simp only [advance, hc, idle, hf, Bool.false_eq_true, if_false]
        rfl
      rw [next_of_closed found' closed step none] at told
      simp only [perform, told, tell, report_exhausted]
    · intro g
      rw [gen?_modifyCursor, gen?_modifyCursor]
    · intro d hd
      have hne : c ≠ d := fun h => hd (h ▸ rfl)
      rw [cursor?_modifyCursor, if_neg hne, cursor?_modifyCursor, if_neg hne]

/-- An iterator over a closed generator is dropped without any ado. -/
theorem discard_of_closed (found : w.gen? c.gen = some gen) (closed : gen.phase = .closed)
    (hc : w.cursor? c = some cur) (idle : cur.busy = false) :
    AnsweredAtOnce (.discard c) (.returned ()) w := by
  cases hf : cur.finished with
  | true =>
    refine answeredAtOnce_of_perform (w.eraseCursor c) ?_ rfl ?_ ?_
    · intro step
      simp [perform, discard, hc, idle, hf]
    · intro g
      rw [gen?_eraseCursor]
    · intro d hd
      have hne : c ≠ d := fun h => hd (h ▸ rfl)
      rw [cursor?_eraseCursor, if_neg hne]
  | false =>
    let marked := w.modifyCursor c fun _ => ⟨false, true⟩
    have found' : marked.gen? c.gen = some gen := by rw [← found, gen?_modifyCursor]
    have abandoned (step : Stepper σ) : abandon step c.gen marked = (.returned (), marked) := by
      simp only [abandon, found']
      cases hg : gen.flavor with
      | modern => rfl
      | legacy => simp only [close_of_closed found' closed step, hg, closedAgain]
    refine answeredAtOnce_of_perform (marked.eraseCursor c) ?_ rfl ?_ ?_
    · intro step
      simp only [perform, discard, hc, idle, hf, Bool.false_eq_true, if_false]
      rw [abandoned step]
    · intro g
      rw [gen?_eraseCursor, gen?_modifyCursor]
    · intro d hd
      have hne : c ≠ d := fun h => hd (h ▸ rfl)
      rw [cursor?_eraseCursor, if_neg hne, cursor?_modifyCursor, if_neg hne]

end Requests

end World

/-- An iterator over a closed generator is not in use. -/
theorem Coherent.not_busy_of_closed {ps : List (Pending σ)} {w : World σ} {gen : Gen σ}
    {c : CursorId} (coherent : Coherent ps w) (found : w.gen? c.gen = some gen)
    (closed : gen.phase = .closed) : ¬ w.Busy c := by
  intro busy
  obtain ⟨pd, hpd, hc⟩ := (coherent.busy c).mp busy
  have attends := coherent.attends pd hpd
  obtain ⟨gen', found', running, -⟩ := attends.running
  rw [← attends.target, ← Request.gen_of_cursor? hc, found] at found'
  cases found'
  rw [closed] at running
  cases running

section Runs

variable {α : Type} {engine : Engine σ} {limit : Nat} {p : Program σ α} {s : σ.Shared}
  {m m' : Moment σ α} {g : GenId} {gen gen' : Gen σ}

/-- **A closed generator stays as it is and answers at once, for the rest of the run.**  Readers may
come and go; a step, a resume, a close or an iterator finds nothing to do. -/
theorem closed_for_good (h : Leads engine limit (.atTop p (.initial s)) m)
    (found : m.world.gen? g = some gen) (closed : gen.phase = .closed)
    (later : Leads engine limit m m') (found' : m'.world.gen? g = some gen') :
    gen'.phase = .closed ∧ (∃ n, gen' = { gen with loan := .shared n }) ∧
    (∀ v, m'.world.AnsweredAtOnce (.next g v) (.returned
      (match gen.flavor with
      | .modern => .ok (.result ⟨none, true⟩)
      | .legacy => .error .finished))) ∧
    (∀ e, m'.world.AnsweredAtOnce (.throw g e) (.returned (.error (.raised e)))) ∧
    m'.world.AnsweredAtOnce (.close g) (.returned
      (match gen.flavor with
      | .modern => .error (.mismatch ⟨.legacy, "close"⟩)
      | .legacy => .ok ())) ∧
    ∀ n, (m'.world.cursor? ⟨g, n⟩).isSome →
      m'.world.AnsweredAtOnce (.advance ⟨g, n⟩) (.returned none) ∧
      m'.world.AnsweredAtOnce (.discard ⟨g, n⟩) (.returned ()) := by
  have coherent := coherent_of_leads h
  have retired := later.keeps World.Retired.move coherent
    (World.retired_of_closed coherent found closed)
  obtain ⟨n, rfl⟩ := retired.gen? gen' found'
  refine ⟨closed, ⟨n, rfl⟩, ?_, ?_, ?_, ?_⟩
  · intro v
    refine World.answeredAtOnce_of_perform m'.world ?_ rfl (fun _ => rfl) fun _ _ => rfl
    intro step
    simp only [World.perform, World.next_of_closed found' closed step v]
    cases gen.flavor <;> rfl
  · intro e
    refine World.answeredAtOnce_of_perform m'.world ?_ rfl (fun _ => rfl) fun _ _ => rfl
    intro step
    exact World.throw_of_closed found' closed step e
  · refine World.answeredAtOnce_of_perform m'.world ?_ rfl (fun _ => rfl) fun _ _ => rfl
    intro step
    simp only [World.perform, World.close_of_closed found' closed step]
    cases gen.flavor <;> rfl
  · intro k present
    obtain ⟨cur, hc⟩ := Option.isSome_iff_exists.mp present
    have coherent' := coherent_of_leads (h.trans later)
    have unused : ¬ m'.world.Busy ⟨g, k⟩ := coherent'.not_busy_of_closed found' closed
    have idle : cur.busy = false := Bool.eq_false_iff.mpr fun hb => unused ⟨cur, hc, hb⟩
    exact ⟨World.advance_of_closed found' closed hc idle,
      World.discard_of_closed found' closed hc idle⟩

end Runs

/-- A generator with an iterator has just been closed by a panic, and is about to be read. -/
def readAfterPanic : Moment errand Unit :=
  (Moment.atTop (.spawnAll [(.legacy, .panics)] (.issue (.iterate 0) fun _ =>
    .issue (.request (.next 0 none)) fun _ => .issue (.hold 0) fun _ => .done ()))
    (.initial ())).after errands 9 4

theorem closed_for_good_readAfterPanic :
    (readAfterPanic.after errands 9 1).world.gen? 0 =
      some ⟨.closed, false, .legacy, (), .panics, .shared 1⟩ ∧
    (readAfterPanic.after errands 9 1).world.AnsweredAtOnce (.next 0 none)
      (.returned (.error .finished)) ∧
    (readAfterPanic.after errands 9 1).world.AnsweredAtOnce (.discard ⟨0, 0⟩) (.returned ()) := by
  have found : readAfterPanic.world.gen? 0 =
    some ⟨.closed, false, .legacy, (), .panics, .shared 0⟩ := rfl
  have found' : (readAfterPanic.after errands 9 1).world.gen? 0 =
    some ⟨.closed, false, .legacy, (), .panics, .shared 1⟩ := rfl
  obtain ⟨-, -, next, -, -, iterators⟩ := closed_for_good (.after 4) found rfl (.after 1) found'
  exact ⟨found', next none, (iterators 0 rfl).2⟩

end Resumable
