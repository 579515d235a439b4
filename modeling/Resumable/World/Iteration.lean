import Resumable.World.Control

/-!
# Iterators over generators

An iterator draws the remaining values of a generator one by one and keeps nothing but a flag of its
own: it is finished once it has reported the end or a fault, and then it reports nothing more.  The
value that a modern generator returns at its end is not an item; the one of a legacy generator is.
Giving up an iterator that is not finished closes a legacy generator, and a failure of that close is
only logged.
-/

namespace Resumable

variable {σ : Signature}

/-- What an iterator reports for the answer of its generator, and whether it is finished then. -/
def Cursor.report :
    Outcome (σ.Answer (Completion σ.Value)) → Bool × Outcome (Option σ.Item)
  | .returned (.ok (.result ⟨_, true⟩)) => (true, .returned none)
  | .returned (.ok (.result ⟨v, false⟩)) => (false, .returned (v.map .ok))
  | .returned (.ok (.value v)) => (false, .returned (some (.ok v)))
  | .returned (.error .finished) => (true, .returned none)
  | .returned (.error f) => (true, .returned (some (.error f)))
  | .panicked p => (false, .panicked p)
  | .refused r => (false, .refused r)

namespace World

def iterate (g : GenId) (w : World σ) : Option CursorId × World σ :=
  match w.slots.get? g with
  | none => (none, w)
  | some s =>
    let c : CursorId := ⟨g, s.cursors.vacancy⟩
    let w := { w with slots := w.slots.modify g fun s =>
      { s with cursors := s.cursors.insert ⟨false, false⟩ } }
    (some c, w.record (.opened c))

@[simp]
theorem gen?_iterate (w : World σ) (g h : GenId) : (w.iterate g).2.gen? h = w.gen? h := by
  unfold iterate
  cases hg : w.slots.get? g with
  | none => rfl
  | some s =>
    simp only [gen?_record]
    simp only [gen?, Registry.get?_modify]
    split
    · cases w.slots.get? h <;> rfl
    · rfl

/-- The new iterator is unfinished, and the others are as they were. -/
theorem cursor?_iterate (w : World σ) (g : GenId) (c : CursorId) :
    (w.iterate g).2.cursor? c =
      if (w.iterate g).1 = some c then some ⟨false, false⟩ else w.cursor? c := by
  unfold iterate
  cases hg : w.slots.get? g with
  | none => simp
  | some s =>
    simp only [cursor?_record, Option.some.injEq]
    simp only [cursor?, Registry.get?_modify]
    by_cases hc : g = c.gen
    · subst hc
      simp only [hg, if_true, Option.map_some, Option.bind_some, Pool.get?_insert]
      by_cases hn : c.number = s.cursors.vacancy
      · have he : (⟨c.gen, s.cursors.vacancy⟩ : CursorId) = c := by rw [← hn]
        simp [hn, he]
      · have he : (⟨c.gen, s.cursors.vacancy⟩ : CursorId) ≠ c := fun h => hn (h ▸ rfl)
        simp [hn, he]
    · have he : (⟨g, s.cursors.vacancy⟩ : CursorId) ≠ c := fun h => hc (h ▸ rfl)
      simp [hc, he]

/-- The name of a new iterator was free. -/
theorem cursor?_eq_none_of_iterate {w : World σ} {g : GenId} {c : CursorId}
    (h : (w.iterate g).1 = some c) : w.cursor? c = none := by
  unfold iterate at h
  cases hg : w.slots.get? g with
  | none => simp [hg] at h
  | some s =>
    simp only [hg, Option.some.injEq] at h
    subst h
    simp [cursor?, hg, s.cursors.get?_vacancy]

/-- An iterator that is made where another was given up stands in for that. -/
theorem iterate_eraseCursor {w : World σ} {c : CursorId} {cur : Cursor}
    (there : w.cursor? c = some cur) :
    (w.eraseCursor c).iterate c.gen =
      (some c, (w.modifyCursor c fun _ => ⟨false, false⟩).record (.opened c)) := by
  obtain ⟨s, found, present⟩ := Option.bind_eq_some_iff.mp there
  have erased : (w.eraseCursor c).slots.get? c.gen =
      some { s with cursors := s.cursors.erase c.number } := by
    simp only [eraseCursor, Registry.get?_modify, if_true, found, Option.map_some]
  have slots : ((w.eraseCursor c).slots.modify c.gen fun s =>
        { s with cursors := s.cursors.insert ⟨false, false⟩ }) =
      (w.modifyCursor c fun _ => ⟨false, false⟩).slots := by
    refine Registry.eq_of_get? (by simp [eraseCursor, modifyCursor]) fun g => ?_
    simp only [eraseCursor, modifyCursor, Registry.get?_modify]
    split
    · next hg =>
      subst hg
      simp only [found, Option.map_some]
      rw [Pool.insert_erase present]
    · rfl
  simp only [iterate, erased, Pool.vacancy_erase present]
  exact congrArg (fun r => (some c, (⟨r, w.shared, .opened c :: w.history⟩ : World σ))) slots

@[simp]
theorem nextKey_iterate (w : World σ) (g : GenId) :
    (w.iterate g).2.slots.nextKey = w.slots.nextKey := by
  unfold iterate
  cases w.slots.get? g <;> simp

/-- Asks an iterator for its next item; none is the end. -/
def advance (step : Stepper σ) (c : CursorId) (w : World σ) : Outcome (Option σ.Item) × World σ :=
  match w.cursor? c with
  | none => (.refused .gone, w)
  | some cur =>
    if cur.busy then (.refused .inUse, w)
    else if cur.finished then (.returned none, w)
    else
      let (o, w) := next step c.gen none (w.modifyCursor c fun _ => ⟨false, true⟩)
      let (finished, report) := Cursor.report o
      (report, w.modifyCursor c fun _ => ⟨finished, false⟩)

/-- What giving up an unfinished iterator does to its generator. -/
def abandon (step : Stepper σ) (g : GenId) (w : World σ) : Outcome Unit × World σ :=
  match w.gen? g with
  | none => (.refused .gone, w)
  | some gen =>
    match gen.flavor with
    | .modern => (.returned (), w)
    | .legacy =>
      match close step g w with
      | (.returned (.ok ()), w) => (.returned (), w)
      | (.returned (.error _), w) => (.returned (), w.log g .closeFailed)
      | (.panicked p, w) => (.panicked p, w)
      | (.refused r, w) => (.refused r, w)

/-- Gives an iterator up.  It is gone afterwards, even when closing its generator panics. -/
def discard (step : Stepper σ) (c : CursorId) (w : World σ) : Outcome Unit × World σ :=
  match w.cursor? c with
  | none => (.refused .gone, w)
  | some cur =>
    if cur.busy then (.refused .inUse, w)
    else if cur.finished then (.returned (), w.eraseCursor c)
    else
      let (o, w) := abandon step c.gen (w.modifyCursor c fun _ => ⟨false, true⟩)
      (o, w.eraseCursor c)

end World

end Resumable
