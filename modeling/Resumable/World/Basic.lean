import Resumable.Outcome
import Resumable.Pool
import Resumable.Record
import Resumable.Registry

/-!
# The world of generators

A world holds generators, the iterators over them, a state that bodies share, and the history of
everything that happened, newest event first.  A generator owns its body and lends it out: to any
number of readers, or to one step exclusively.  The loan is kept apart from the phase, so that their
agreement is something to be proved and not something that is written down twice.

A generator is named by a key that is never used twice.  An iterator is named by its generator and a
number there, which is free again once the iterator is given up, and the number that became free
last is the next one to be used.  So an iterator that is made where another has just been given up
goes by its name, and programs cannot tell the two apart.
-/

namespace Resumable

/-! ## What a world is about -/

/-- The types that users of the library choose. -/
structure Signature where
  /-- Values passed into bodies and handed out by them. -/
  Value : Type
  /-- Errors raised by bodies and injected into them. -/
  Thrown : Type
  /-- The state of a body between two steps. -/
  Body : Type
  /-- The engine that runs a body; calls on a receiver of unknown type tell engines apart. -/
  Kind : Type
  Shared : Type
  /-- What bodies and users note in the history. -/
  Note : Type
  [decidableEqKind : DecidableEq Kind]

attribute [instance] Signature.decidableEqKind

variable {σ : Signature}

/-- Who has the body of a generator at the moment. -/
inductive Loan where
  /-- The body is at home, looked at by a number of readers. -/
  | shared (readers : Nat)
  | exclusive
deriving DecidableEq, Repr

/-- A generator and the body that it steps. -/
structure Gen (σ : Signature) where
  phase : Phase
  /-- A legacy generator is newborn until it is first resumed or closed. -/
  newborn : Bool
  flavor : Flavor
  kind : σ.Kind
  /-- Its body, as the last step left it. -/
  body : σ.Body
  loan : Loan

/-- A generator before its first step. -/
def Gen.fresh (flavor : Flavor) (kind : σ.Kind) (body : σ.Body) : Gen σ where
  phase := .suspended
  newborn := flavor = .legacy
  flavor := flavor
  kind := kind
  body := body
  loan := .shared 0

/-- The body, unless it is being stepped. -/
def Gen.body? (g : Gen σ) : Option σ.Body :=
  match g.loan with
  | .shared _ => some g.body
  | .exclusive => none

/-- An iterator over the values of a generator. -/
structure Cursor where
  /-- It has reported an end or an error and reports nothing more. -/
  finished : Bool
  /-- An operation on it is in progress. -/
  busy : Bool
deriving DecidableEq, Repr

abbrev GenId := Nat

/-- Names an iterator: the generator it runs over, and its number among the iterators there. -/
structure CursorId where
  gen : GenId
  number : Nat
deriving DecidableEq, Repr

/-- The operations that may enter a generator. -/
inductive Request (σ : Signature) where
  | next (g : GenId) (v : Option σ.Value)
  | throw (g : GenId) (e : σ.Thrown)
  | close (g : GenId)
  | advance (c : CursorId)
  | discard (c : CursorId)

/-- The fault of an operation on a generator of a world. -/
abbrev Signature.Fault (σ : Signature) : Type :=
  Resumable.Fault σ.Thrown

/-- What an operation answers when it returns: an answer or a fault. -/
abbrev Signature.Answer (σ : Signature) (α : Type) : Type :=
  Except σ.Fault α

/-- An item of an iterator: a value, or the fault that ended it. -/
abbrev Signature.Item (σ : Signature) : Type :=
  σ.Answer σ.Value

/-- What an operation answers. -/
abbrev Request.Reply : Request σ → Type
  | .next _ _ => Outcome (σ.Answer (Completion σ.Value))
  | .throw _ _ => Outcome (σ.Answer (Completion σ.Value))
  | .close _ => Outcome (σ.Answer Unit)
  | .advance _ => Outcome (Option σ.Item)
  | .discard _ => Outcome Unit

/-- Something that happened. -/
inductive Event (σ : Signature) where
  | logged (g : GenId) (r : Record)
  /-- A step of a body began. -/
  | began (g : GenId) (input : Input σ.Value σ.Thrown) (mode : Mode)
  /-- The step of a body ended. -/
  | ended (g : GenId) (ending : Ending σ.Value σ.Thrown)
  /-- A step was to be entered while the body was held by readers. -/
  | conflict (g : GenId)
  /-- Something taken for granted did not hold. -/
  | broke (g : GenId) (a : Assertion)
  | opened (c : CursorId)
  | answered (r : Request σ) (reply : r.Reply)
  | noted (n : σ.Note)

/-- A generator with the iterators over it. -/
structure Slot (σ : Signature) where
  gen : Gen σ
  cursors : Pool Cursor

/-- Generators, iterators, the shared state and the history. -/
structure World (σ : Signature) where
  slots : Registry (Slot σ)
  shared : σ.Shared
  history : List (Event σ)

namespace World

def initial (shared : σ.Shared) : World σ :=
  ⟨.empty, shared, []⟩

/-! ## Looking -/

def gen? (w : World σ) (g : GenId) : Option (Gen σ) :=
  (w.slots.get? g).map (·.gen)

def cursor? (w : World σ) (c : CursorId) : Option Cursor :=
  (w.slots.get? c.gen).bind (·.cursors.get? c.number)

/-- The phase of a generator; one that is not there counts as closed. -/
def phaseOf (w : World σ) (g : GenId) : Phase :=
  match w.gen? g with
  | some gen => gen.phase
  | none => .closed

/-! ## Changing -/

def record (e : Event σ) (w : World σ) : World σ :=
  { w with history := e :: w.history }

def log (g : GenId) (r : Record) (w : World σ) : World σ :=
  w.record (.logged g r)

def modifyGen (g : GenId) (f : Gen σ → Gen σ) (w : World σ) : World σ :=
  { w with slots := w.slots.modify g fun s => { s with gen := f s.gen } }

def modifyCursor (c : CursorId) (f : Cursor → Cursor) (w : World σ) : World σ :=
  { w with slots := w.slots.modify c.gen fun s =>
      { s with cursors := s.cursors.modify c.number f } }

def eraseCursor (c : CursorId) (w : World σ) : World σ :=
  { w with slots := w.slots.modify c.gen fun s => { s with cursors := s.cursors.erase c.number } }

/-! ## Looking after changing -/

@[simp]
theorem gen?_record (w : World σ) (e : Event σ) (g : GenId) :
    (w.record e).gen? g = w.gen? g := rfl

@[simp]
theorem gen?_log (w : World σ) (h : GenId) (r : Record) (g : GenId) :
    (w.log h r).gen? g = w.gen? g := rfl

@[simp]
theorem cursor?_record (w : World σ) (e : Event σ) (c : CursorId) :
    (w.record e).cursor? c = w.cursor? c := rfl

@[simp]
theorem cursor?_log (w : World σ) (h : GenId) (r : Record) (c : CursorId) :
    (w.log h r).cursor? c = w.cursor? c := rfl

theorem gen?_modifyGen (w : World σ) (h : GenId) (f : Gen σ → Gen σ) (g : GenId) :
    (w.modifyGen h f).gen? g = if h = g then (w.gen? g).map f else w.gen? g := by
  simp only [gen?, modifyGen, Registry.get?_modify]
  split
  · cases w.slots.get? g <;> rfl
  · rfl

@[simp]
theorem cursor?_modifyGen (w : World σ) (h : GenId) (f : Gen σ → Gen σ) (c : CursorId) :
    (w.modifyGen h f).cursor? c = w.cursor? c := by
  simp only [cursor?, modifyGen, Registry.get?_modify]
  split
  · cases w.slots.get? c.gen <;> rfl
  · rfl

@[simp]
theorem gen?_modifyCursor (w : World σ) (c : CursorId) (f : Cursor → Cursor) (g : GenId) :
    (w.modifyCursor c f).gen? g = w.gen? g := by
  simp only [gen?, modifyCursor, Registry.get?_modify]
  split
  · cases w.slots.get? g <;> rfl
  · rfl

@[simp]
theorem gen?_eraseCursor (w : World σ) (c : CursorId) (g : GenId) :
    (w.eraseCursor c).gen? g = w.gen? g := by
  simp only [gen?, eraseCursor, Registry.get?_modify]
  split
  · cases w.slots.get? g <;> rfl
  · rfl

theorem cursor?_modifyCursor (w : World σ) (d : CursorId) (f : Cursor → Cursor) (c : CursorId) :
    (w.modifyCursor d f).cursor? c = if d = c then (w.cursor? c).map f else w.cursor? c := by
  simp only [cursor?, modifyCursor, Registry.get?_modify]
  by_cases hg : d.gen = c.gen
  · by_cases hn : d.number = c.number
    · have hd : d = c := by cases d; cases c; simp_all
      subst hd
      cases w.slots.get? d.gen <;> simp [Pool.get?_modify]
    · have hd : d ≠ c := fun h => hn (h ▸ rfl)
      simp only [hg, hd, if_true, if_false]
      cases w.slots.get? c.gen <;> simp [Pool.get?_modify, hn]
  · have hd : d ≠ c := fun h => hg (h ▸ rfl)
    simp [hg, hd]

theorem cursor?_eraseCursor (w : World σ) (d c : CursorId) :
    (w.eraseCursor d).cursor? c = if d = c then none else w.cursor? c := by
  simp only [cursor?, eraseCursor, Registry.get?_modify]
  by_cases hg : d.gen = c.gen
  · by_cases hn : d.number = c.number
    · have hd : d = c := by cases d; cases c; simp_all
      subst hd
      cases w.slots.get? d.gen <;> simp [Pool.get?_erase]
    · have hd : d ≠ c := fun h => hn (h ▸ rfl)
      simp only [hg, hd, if_true, if_false]
      cases w.slots.get? c.gen <;> simp [Pool.get?_erase, hn]
  · have hd : d ≠ c := fun h => hg (h ▸ rfl)
    simp [hg, hd]

theorem modifyCursor_modifyCursor (w : World σ) (c : CursorId) (f f' : Cursor → Cursor) :
    (w.modifyCursor c f).modifyCursor c f' = w.modifyCursor c (f' ∘ f) := by
  simp only [modifyCursor, mk.injEq, and_true]
  refine Registry.eq_of_get? (by simp) fun g => ?_
  simp only [Registry.get?_modify]
  split
  · cases w.slots.get? g <;> simp [Pool.modify_modify]
  · rfl

/-- What an iterator was is forgotten when it is gone. -/
theorem eraseCursor_modifyCursor (w : World σ) (c : CursorId) (f : Cursor → Cursor) :
    (w.modifyCursor c f).eraseCursor c = w.eraseCursor c := by
  simp only [eraseCursor, modifyCursor, mk.injEq, and_true]
  refine Registry.eq_of_get? (by simp) fun g => ?_
  simp only [Registry.get?_modify]
  split
  · cases w.slots.get? g <;> simp [Pool.erase_modify]
  · rfl

theorem modifyCursor_eq_self {w : World σ} {c : CursorId} {cur : Cursor} {f : Cursor → Cursor}
    (there : w.cursor? c = some cur) (same : f cur = cur) : w.modifyCursor c f = w := by
  obtain ⟨s, found, present⟩ := Option.bind_eq_some_iff.mp there
  have slots : (w.modifyCursor c f).slots = w.slots := by
    refine Registry.eq_of_get? (by simp [modifyCursor]) fun g => ?_
    simp only [modifyCursor, Registry.get?_modify]
    split
    · next hg => rw [← hg, found, Option.map_some, Pool.modify_eq_self present same]
    · rfl
  exact congrArg (fun r => ({ w with slots := r } : World σ)) slots

/-- An iterator is over a generator that is there. -/
theorem isSome_gen?_of_cursor? {w : World σ} {c : CursorId} {cur : Cursor}
    (h : w.cursor? c = some cur) : (w.gen? c.gen).isSome := by
  unfold cursor? at h
  obtain ⟨s, hs, -⟩ := Option.bind_eq_some_iff.1 h
  simp [gen?, hs]

/-- Only names below the next one name generators. -/
theorem lt_nextKey_of_gen? {w : World σ} {g : GenId} {gen : Gen σ} (h : w.gen? g = some gen) :
    g < w.slots.nextKey := by
  refine Nat.lt_of_not_le fun hle => ?_
  simp [gen?, w.slots.get?_eq_none_of_le hle] at h

/-! ## The history after changing -/

@[simp]
theorem history_record (w : World σ) (e : Event σ) :
    (w.record e).history = e :: w.history := rfl

@[simp]
theorem history_log (w : World σ) (g : GenId) (r : Record) :
    (w.log g r).history = .logged g r :: w.history := rfl

@[simp]
theorem history_modifyGen (w : World σ) (g : GenId) (f : Gen σ → Gen σ) :
    (w.modifyGen g f).history = w.history := rfl

@[simp]
theorem history_modifyCursor (w : World σ) (c : CursorId) (f : Cursor → Cursor) :
    (w.modifyCursor c f).history = w.history := rfl

@[simp]
theorem history_eraseCursor (w : World σ) (c : CursorId) :
    (w.eraseCursor c).history = w.history := rfl

/-! ## The next name after changing -/

@[simp]
theorem nextKey_record (w : World σ) (e : Event σ) :
    (w.record e).slots.nextKey = w.slots.nextKey := rfl

@[simp]
theorem nextKey_log (w : World σ) (g : GenId) (r : Record) :
    (w.log g r).slots.nextKey = w.slots.nextKey := rfl

@[simp]
theorem nextKey_modifyGen (w : World σ) (g : GenId) (f : Gen σ → Gen σ) :
    (w.modifyGen g f).slots.nextKey = w.slots.nextKey := by
  simp [modifyGen]

@[simp]
theorem nextKey_modifyCursor (w : World σ) (c : CursorId) (f : Cursor → Cursor) :
    (w.modifyCursor c f).slots.nextKey = w.slots.nextKey := by
  simp [modifyCursor]

@[simp]
theorem nextKey_eraseCursor (w : World σ) (c : CursorId) :
    (w.eraseCursor c).slots.nextKey = w.slots.nextKey := by
  simp [eraseCursor]

end World

end Resumable
