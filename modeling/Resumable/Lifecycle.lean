import Resumable.Text.Quoted

/-!
# The lifecycle of a generator

Three small vocabularies that the whole library speaks: the phase a generator is in, the flavor
that fixes how it reports its end, and the mode in which its body is resumed.  Each has a name that
diagnostics print, and a name determines what it names.  The name of a mode can also come from
outside as text: `Mode.parse` accepts the three names exactly, and the refusal of any other text
keeps that text, so that its message can quote it.
-/

namespace Resumable

/-! ## Phases -/

/-- Where a generator stands between two operations. -/
inductive Phase where
  /-- Parked at a yield point, or not started yet: it can be resumed. -/
  | suspended
  /-- Inside a step of its body: every entry is refused as nesting. -/
  | running
  /-- Finished for good. -/
  | closed
deriving DecidableEq, Repr

def Phase.name : Phase → String
  | .suspended => "suspended"
  | .running => "running"
  | .closed => "closed"

def Phase.ofName? (s : String) : Option Phase :=
  [.suspended, .running, .closed].find? (·.name = s)

theorem Phase.ofName?_name (p : Phase) : Phase.ofName? p.name = some p := by
  cases p <;> decide

/-! ## Flavors -/

/-- How a generator signals that it has finished. -/
inductive Flavor where
  /-- Its last result says that it is done. -/
  | modern
  /-- A fault says that there are no more values; it can also be closed from outside. -/
  | legacy
deriving DecidableEq, Repr

def Flavor.name : Flavor → String
  | .modern => "modern"
  | .legacy => "legacy"

def Flavor.ofName? (s : String) : Option Flavor :=
  [.modern, .legacy].find? (·.name = s)

theorem Flavor.ofName?_name (f : Flavor) : Flavor.ofName? f.name = some f := by
  cases f <;> decide

/-! ## Modes -/

/-- How a body takes its input at the point where it was parked. -/
inductive Mode where
  /-- The input becomes the result of the pending yield. -/
  | next
  /-- The input is raised as an error at the pending yield. -/
  | throw
  /-- The body only runs its pending cleanup. -/
  | close
deriving DecidableEq, Repr

/-- The name of a mode, which is also the name of the method that resumes in it. -/
def Mode.name : Mode → String
  | .next => "next"
  | .throw => "throw"
  | .close => "close"

def Mode.ofName? (s : String) : Option Mode :=
  [.next, .throw, .close].find? (·.name = s)

theorem Mode.ofName?_name (m : Mode) : Mode.ofName? m.name = some m := by
  cases m <;> decide

theorem Mode.name_of_ofName? {s : String} {m : Mode} (h : Mode.ofName? s = some m) :
    m.name = s := by
  simpa using List.find?_some h

/-- A text that names no mode. -/
structure UnknownMode where
  text : String
  unnamed : Mode.ofName? text = none
deriving DecidableEq

/-- The message quotes the text that was given. -/
def UnknownMode.message (e : UnknownMode) : String :=
  "invalid resume kind: " ++ Text.Quoted.quote e.text

/-- Reads a mode from its name. -/
def Mode.parse (s : String) : Except UnknownMode Mode :=
  match h : Mode.ofName? s with
  | some m => .ok m
  | none => .error ⟨s, h⟩

/-- Names, and nothing else, are read as modes. -/
theorem Mode.parse_eq_ok_iff {s : String} {m : Mode} : Mode.parse s = .ok m ↔ s = m.name := by
  constructor
  · intro h
    unfold Mode.parse at h
    split at h
    · next h' => cases h; exact (Mode.name_of_ofName? h').symm
    · cases h
  · rintro rfl
    unfold Mode.parse
    split
    · next h => rw [Mode.ofName?_name] at h; cases h; rfl
    · next h => rw [Mode.ofName?_name] at h; cases h

end Resumable
