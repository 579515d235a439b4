/-!
# Pools

A pool keeps entries under keys that it hands out again once they are free.  The key that became
free last is the first to be handed out, and only a pool without free keys extends to a new one.  So
an entry that is added right after another was erased takes the place of that one
(`Pool.insert_erase`).  Everything else about a pool is said through `get?`.
-/

namespace Resumable

/-- Entries under keys that are used again when they are free. -/
structure Pool (α : Type) where
  /-- The entries by key, with a gap for each free key. -/
  entries : List (Option α) := []
  /-- The free keys, the one that became free last in front. -/
  free : List Nat := []
  mem_free : ∀ k, k ∈ free ↔ entries[k]? = some none := by simp
  nodup_free : free.Nodup := by simp

namespace Pool

variable {α : Type}

def empty : Pool α :=
  {}

def get? (p : Pool α) (k : Nat) : Option α :=
  p.entries[k]?.join

theorem getElem?_of_get? {p : Pool α} {k : Nat} {a : α} (there : p.get? k = some a) :
    p.entries[k]? = some (some a) :=
  Option.join_eq_some_iff.mp there

/-- There is a gap for the first free key. -/
theorem gap_of_free {p : Pool α} {j : Nat} {free : List Nat} (h : p.free = j :: free) :
    p.entries[j]? = some none := by
  rw [← p.mem_free, h]
  exact List.mem_cons_self

/-- The key that the next entry gets. -/
def vacancy (p : Pool α) : Nat :=
  p.free.headD p.entries.length

/-- Adds an entry under a free key, or under a new one if none is free. -/
def insert (p : Pool α) (a : α) : Pool α :=
  match h : p.free with
  | [] => {
      entries := p.entries ++ [some a]
      mem_free := by
        intro k
        have full := p.mem_free k
        rw [h] at full
        rw [List.getElem?_append]
        split
        · exact full
        · cases k - p.entries.length <;> simp }
  | j :: free => {
      entries := p.entries.set j (some a)
      free := free
      mem_free := by
        intro k
        have gap := p.mem_free k
        have once := p.nodup_free
        rw [h, List.mem_cons] at gap
        rw [h, List.nodup_cons] at once
        rw [List.getElem?_set]
        split
        · next same =>
          -- a free key is listed once, so that it is not free any more
          subst same
          split <;> simp [once.1]
        · next other => simp [← gap, Ne.symm other]
      nodup_free := (List.nodup_cons.mp (h ▸ p.nodup_free)).2 }

def modify (p : Pool α) (k : Nat) (f : α → α) : Pool α where
  entries := p.entries.modify k (·.map f)
  free := p.free
  mem_free := by
    intro j
    rw [p.mem_free, List.getElem?_modify]
    split
    · rcases p.entries[j]? with _ | _ | a <;> simp
    · simp
  nodup_free := p.nodup_free

/-- Erases an entry, whose key is then the next one to be used. -/
def erase (p : Pool α) (k : Nat) : Pool α :=
  if there : (p.get? k).isSome then {
    entries := p.entries.set k none
    free := k :: p.free
    mem_free := by
      intro j
      obtain ⟨a, found⟩ := Option.isSome_iff_exists.mp there
      obtain ⟨within, -⟩ := List.getElem?_eq_some_iff.mp (getElem?_of_get? found)
      rw [List.mem_cons, p.mem_free, List.getElem?_set]
      split
      · next same =>
        subst same
        simp [within]
      · next other => simp [Ne.symm other]
    nodup_free := by
      obtain ⟨a, found⟩ := Option.isSome_iff_exists.mp there
      refine List.nodup_cons.mpr ⟨fun listed => ?_, p.nodup_free⟩
      rw [p.mem_free, getElem?_of_get? found] at listed
      cases listed }
  else p

def isEmpty (p : Pool α) : Bool :=
  p.entries.all (·.isNone)

/-! ## Looking after changing -/

@[simp]
theorem get?_empty (k : Nat) : (empty : Pool α).get? k = none := by
  simp [empty, get?]

/-- No entry is kept under the key that is handed out next. -/
theorem get?_vacancy (p : Pool α) : p.get? p.vacancy = none := by
  unfold get? vacancy
  cases h : p.free with
  | nil => simp
  | cons j free => simp [gap_of_free h]

theorem get?_insert (p : Pool α) (a : α) (k : Nat) :
    (p.insert a).get? k = if k = p.vacancy then some a else p.get? k := by
  unfold insert vacancy
  split
  · next h =>
    simp only [get?, h, List.headD_nil, List.getElem?_append]
    by_cases within : k < p.entries.length
    · simp [within, Nat.ne_of_lt within]
    · obtain ⟨j, rfl⟩ := Nat.exists_eq_add_of_le (Nat.le_of_not_lt within)
      cases j <;> simp
  · next j free h =>
    obtain ⟨within, -⟩ := List.getElem?_eq_some_iff.mp (gap_of_free h)
    simp only [get?, h, List.headD_cons, List.getElem?_set, within, if_true, eq_comm (a := k)]
    split <;> rfl

theorem get?_modify (p : Pool α) (j k : Nat) (f : α → α) :
    (p.modify j f).get? k = if j = k then (p.get? k).map f else p.get? k := by
  simp only [get?, modify, List.getElem?_modify]
  split
  · cases p.entries[k]? <;> simp
  · simp

theorem get?_erase (p : Pool α) (j k : Nat) :
    (p.erase j).get? k = if j = k then none else p.get? k := by
  unfold erase
  split
  · simp only [get?, List.getElem?_set]
    split
    · split <;> rfl
    · rfl
  · next gone =>
    split
    · next same => simpa [same] using gone
    · rfl

theorem isEmpty_iff (p : Pool α) : p.isEmpty ↔ ∀ k, p.get? k = none := by
  simp only [isEmpty, List.all_eq_true, get?]
  constructor
  · intro h k
    cases hk : p.entries[k]? with
    | none => rfl
    | some e => simpa using h e (List.mem_of_getElem? hk)
  · intro h e he
    obtain ⟨k, hk⟩ := List.getElem?_of_mem he
    have := h k
    rw [hk] at this
    cases e with
    | none => rfl
    | some a => cases this

/-! ## The keys after changing -/

theorem free_insert (p : Pool α) (a : α) : (p.insert a).free = p.free.tail := by
  unfold insert
  split <;> simp [*]

theorem free_erase (p : Pool α) (k : Nat) :
    (p.erase k).free = if (p.get? k).isSome then k :: p.free else p.free := by
  unfold erase
  split <;> rfl

theorem length_insert {p : Pool α} (a : α) (spare : p.free ≠ []) :
    (p.insert a).entries.length = p.entries.length := by
  unfold insert
  split
  · next full => exact absurd full spare
  · simp

@[simp]
theorem length_modify (p : Pool α) (k : Nat) (f : α → α) :
    (p.modify k f).entries.length = p.entries.length := by
  simp [modify]

@[simp]
theorem length_erase (p : Pool α) (k : Nat) :
    (p.erase k).entries.length = p.entries.length := by
  unfold erase
  split <;> simp

/-- The key of an erased entry is handed out next. -/
theorem vacancy_erase {p : Pool α} {k : Nat} {a : α} (there : p.get? k = some a) :
    (p.erase k).vacancy = k := by
  simp [vacancy, free_erase, there]

/-! ## Changes that come to the same -/

/-- Pools of one extent with the same entries and the same free keys are the same. -/
theorem eq_of_get? {p q : Pool α} (extent : p.entries.length = q.entries.length)
    (free : p.free = q.free) (same : ∀ k, p.get? k = q.get? k) : p = q := by
  rcases p with ⟨xs⟩
  rcases q with ⟨ys⟩
  cases free
  have entries : xs = ys := by
    refine List.ext_getElem extent fun k hx hy => ?_
    simpa [get?, List.getElem?_eq_getElem hx, List.getElem?_eq_getElem hy] using same k
  subst entries
  rfl

theorem modify_eq_self {p : Pool α} {k : Nat} {a : α} {f : α → α} (there : p.get? k = some a)
    (same : f a = a) : p.modify k f = p := by
  refine eq_of_get? (by simp) rfl fun j => ?_
  rw [get?_modify]
  split
  · next hj => rw [← hj, there, Option.map_some, same]
  · rfl

theorem modify_modify (p : Pool α) (k : Nat) (f g : α → α) :
    (p.modify k f).modify k g = p.modify k (g ∘ f) := by
  refine eq_of_get? (by simp) rfl fun j => ?_
  simp only [get?_modify]
  split
  · rw [Option.map_map]
  · rfl

theorem erase_modify (p : Pool α) (k : Nat) (f : α → α) : (p.modify k f).erase k = p.erase k := by
  refine eq_of_get? (by simp) ?_ fun j => ?_
  · simp only [free_erase, get?_modify, if_true, Option.isSome_map]
    rfl
  · simp only [get?_erase, get?_modify]
    split <;> rfl

/-- **What is added after an entry was erased takes its place.** -/
theorem insert_erase {p : Pool α} {k : Nat} {a : α} (there : p.get? k = some a) (b : α) :
    (p.erase k).insert b = p.modify k fun _ => b := by
  have free : (p.erase k).free = k :: p.free := by
    simp [free_erase, there]
  refine eq_of_get? ?_ ?_ fun j => ?_
  · rw [length_insert b (by simp [free]), length_erase, length_modify]
  · rw [free_insert, free]
    rfl
  · rw [get?_insert, vacancy_erase there, get?_erase, get?_modify]
    by_cases hj : j = k
    · subst hj
      simp [there]
    · simp [hj, Ne.symm hj]

end Pool

end Resumable
