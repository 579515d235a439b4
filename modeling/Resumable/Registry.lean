/-!
# Registries

A registry keeps entries under keys that it hands out itself.  Each new entry gets the next key,
an erased entry leaves its key behind, and no key is ever handed out twice; so a key names the same
entry for as long as that entry is there.  Everything about a registry is said through `get?`.
-/

namespace Resumable

/-- Entries under keys that are never used twice. -/
structure Registry (α : Type) where
  /-- The entries by key, with a gap for each erased one. -/
  entries : List (Option α) := []

namespace Registry

variable {α : Type}

def empty : Registry α :=
  {}

def get? (r : Registry α) (k : Nat) : Option α :=
  r.entries[k]?.join

/-- The key that the next entry gets. -/
def nextKey (r : Registry α) : Nat :=
  r.entries.length

def insert (r : Registry α) (a : α) : Registry α :=
  ⟨r.entries ++ [some a]⟩

def modify (r : Registry α) (k : Nat) (f : α → α) : Registry α :=
  ⟨r.entries.modify k (·.map f)⟩

def erase (r : Registry α) (k : Nat) : Registry α :=
  ⟨r.entries.set k none⟩

/-- The entries that are there, in the order of their keys. -/
def toList (r : Registry α) : List α :=
  r.entries.filterMap id

@[simp]
theorem get?_empty (k : Nat) : (empty : Registry α).get? k = none := by
  simp [empty, get?]

/-- Only keys below the next one hold entries. -/
theorem get?_eq_none_of_le (r : Registry α) {k : Nat} (h : r.nextKey ≤ k) :
    r.get? k = none := by
  simp [get?, nextKey] at *
  simp [h]

theorem get?_insert (r : Registry α) (a : α) (k : Nat) :
    (r.insert a).get? k = if k = r.nextKey then some a else r.get? k := by
  simp only [get?, insert, nextKey, List.getElem?_append]
  split
  · next h => simp [Nat.ne_of_lt h]
  · next h =>
    by_cases hk : k = r.entries.length
    · simp [hk]
    · have hlt : r.entries.length < k := by omega
      have hpos : [some a].length ≤ k - r.entries.length := by simp; omega
      simp [hk, List.getElem?_eq_none (Nat.le_of_lt hlt), List.getElem?_eq_none hpos]

theorem get?_modify (r : Registry α) (j k : Nat) (f : α → α) :
    (r.modify j f).get? k = if j = k then (r.get? k).map f else r.get? k := by
  simp only [get?, modify, List.getElem?_modify]
  split
  · cases r.entries[k]? <;> simp
  · simp

theorem get?_erase (r : Registry α) (j k : Nat) :
    (r.erase j).get? k = if j = k then none else r.get? k := by
  simp only [get?, erase, List.getElem?_set]
  split
  · split <;> rfl
  · rfl

@[simp]
theorem nextKey_empty : (empty : Registry α).nextKey = 0 := rfl

@[simp]
theorem nextKey_insert (r : Registry α) (a : α) : (r.insert a).nextKey = r.nextKey + 1 := by
  simp [nextKey, insert]

@[simp]
theorem nextKey_modify (r : Registry α) (k : Nat) (f : α → α) :
    (r.modify k f).nextKey = r.nextKey := by
  simp [nextKey, modify]

@[simp]
theorem nextKey_erase (r : Registry α) (k : Nat) : (r.erase k).nextKey = r.nextKey := by
  simp [nextKey, erase]

/-- Registries with the same entries and the same next key are the same. -/
theorem eq_of_get? {r s : Registry α} (key : r.nextKey = s.nextKey)
    (same : ∀ k, r.get? k = s.get? k) : r = s := by
  rcases r with ⟨xs⟩
  rcases s with ⟨ys⟩
  have length : xs.length = ys.length := key
  congr 1
  refine List.ext_getElem length fun k hx hy => ?_
  simpa [get?, List.getElem?_eq_getElem hx, List.getElem?_eq_getElem hy] using same k

end Registry

end Resumable
