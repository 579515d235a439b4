import Resumable.World.Iteration

/-!
# Making, reading and consuming generators

What a user can do with a generator besides entering it: make one from a body, look at it, read its
body for a while, and consume it to get the body back.  Reading is refused while the body is out for
a step, and consuming while anything still refers to the generator: a step, a reader or an iterator.
-/

namespace Resumable

variable {σ : Signature}

/-- What can be seen of a generator from outside. -/
structure View (σ : Signature) where
  phase : Phase
  flavor : Flavor
  newborn : Bool
  kind : σ.Kind
  /-- The body, unless it is out for a step. -/
  body : Option σ.Body
  /-- How many readers hold the body. -/
  readers : Nat

def Gen.view (gen : Gen σ) : View σ where
  phase := gen.phase
  flavor := gen.flavor
  newborn := gen.newborn
  kind := gen.kind
  body := gen.body?
  readers := match gen.loan with
    | .shared n => n
    | .exclusive => 0

/-- The generator with one more reader, unless its body is out for a step. -/
def Gen.hold? (gen : Gen σ) : Option (Gen σ) :=
  match gen.loan with
  | .shared n => some { gen with loan := .shared (n + 1) }
  | .exclusive => none

/-- The generator with one reader less, if it has any. -/
def Gen.release? (gen : Gen σ) : Option (Gen σ) :=
  match gen.loan with
  | .shared (n + 1) => some { gen with loan := .shared n }
  | _ => none

namespace World

def spawn (flavor : Flavor) (kind : σ.Kind) (body : σ.Body) (w : World σ) : GenId × World σ :=
  (w.slots.nextKey, { w with slots := w.slots.insert ⟨.fresh flavor kind body, .empty⟩ })

theorem gen?_spawn (w : World σ) (flavor : Flavor) (kind : σ.Kind) (body : σ.Body) (g : GenId) :
    (w.spawn flavor kind body).2.gen? g =
      if g = w.slots.nextKey then some (.fresh flavor kind body) else w.gen? g := by
  simp only [spawn, gen?, Registry.get?_insert]
  split <;> rfl

@[simp]
theorem cursor?_spawn (w : World σ) (flavor : Flavor) (kind : σ.Kind) (body : σ.Body)
    (c : CursorId) : (w.spawn flavor kind body).2.cursor? c = w.cursor? c := by
  simp only [spawn, cursor?, Registry.get?_insert]
  split
  · next h => simp [h, w.slots.get?_eq_none_of_le (Nat.le_refl _)]
  · rfl

def look (g : GenId) (w : World σ) : Option (View σ) :=
  (w.gen? g).map (·.view)

/-- Starts to read the body of a generator; answers whether that was possible. -/
def hold (g : GenId) (w : World σ) : Bool × World σ :=
  match (w.gen? g).bind (·.hold?) with
  | some gen => (true, w.modifyGen g fun _ => gen)
  | none => (false, w)

/-- Stops reading the body of a generator; answers whether anyone was reading. -/
def release (g : GenId) (w : World σ) : Bool × World σ :=
  match (w.gen? g).bind (·.release?) with
  | some gen => (true, w.modifyGen g fun _ => gen)
  | none => (false, w)

/-- Consumes a generator and hands back its body and the engine for it. -/
def consume (g : GenId) (w : World σ) : Except Refusal (σ.Kind × σ.Body) × World σ :=
  match w.slots.get? g with
  | none => (.error .gone, w)
  | some s =>
    if s.gen.phase ≠ .running ∧ s.gen.loan = .shared 0 ∧ s.cursors.isEmpty then
      (.ok (s.gen.kind, s.gen.body), { w with slots := w.slots.erase g })
    else (.error .inUse, w)

/-- What is consumed is at rest, and its name is not used again. -/
theorem gen?_consume (w : World σ) (g h : GenId) :
    (w.consume g).2.gen? h = w.gen? h ∨
      g = h ∧ (w.consume g).2.gen? h = none ∧
        ∃ gen, w.gen? g = some gen ∧ gen.phase ≠ .running ∧ gen.loan = .shared 0 := by
  unfold consume
  cases hg : w.slots.get? g with
  | none => exact .inl rfl
  | some s =>
    dsimp only
    split
    · next hs =>
      by_cases he : g = h
      · exact .inr ⟨he, by simp [gen?, Registry.get?_erase, he], s.gen, by simp [gen?, hg],
          hs.1, hs.2.1⟩
      · exact .inl (by simp [gen?, Registry.get?_erase, he])
    · exact .inl rfl

/-- A generator is consumed only when there are no iterators over it. -/
@[simp]
theorem cursor?_consume (w : World σ) (g : GenId) (c : CursorId) :
    (w.consume g).2.cursor? c = w.cursor? c := by
  unfold consume
  cases hg : w.slots.get? g with
  | none => rfl
  | some s =>
    dsimp only
    split
    · next hs =>
      simp only [cursor?, Registry.get?_erase]
      split
      · next he =>
        rw [← he, hg]
        exact ((s.cursors.isEmpty_iff.1 hs.2.2) c.number).symm
      · rfl
    · rfl

@[simp]
theorem history_consume (w : World σ) (g : GenId) : (w.consume g).2.history = w.history := by
  unfold consume
  cases w.slots.get? g with
  | none => rfl
  | some s => dsimp only; split <;> rfl

@[simp]
theorem nextKey_consume (w : World σ) (g : GenId) :
    (w.consume g).2.slots.nextKey = w.slots.nextKey := by
  unfold consume
  cases w.slots.get? g with
  | none => rfl
  | some s => dsimp only; split <;> simp

end World

end Resumable
