import Resumable.Program.Basic

/-!
# Drawing values from a generator

Programs that make an iterator, ask it for a number of items, and give it up.  `take` stops by
itself after the wanted number of items, or at the end; `walk` also lists the end when it sees it.
A panic while drawing is passed on once the iterator has been given up.
-/

namespace Resumable

variable {σ : Signature}

namespace Program

/-- Draws up to a number of items, stopping at the end. -/
def collect (c : CursorId) : Nat → Program σ (Outcome (List σ.Item))
  | 0 => return .returned []
  | n + 1 => do
    match ← advance c with
    | .returned none => return .returned []
    | .returned (some item) => return (← collect c n).map (item :: ·)
    | .panicked p => return .panicked p
    | .refused r => return .refused r

/-- Draws up to a number of items, stopping at the end, which is listed as none. -/
def drain (c : CursorId) : Nat → Program σ (Outcome (List (Option σ.Item)))
  | 0 => return .returned []
  | n + 1 => do
    match ← advance c with
    | .returned none => return .returned [none]
    | .returned (some item) => return (← drain c n).map (some item :: ·)
    | .panicked p => return .panicked p
    | .refused r => return .refused r

/-- Makes an iterator over a generator, lets a program use it, and gives it up.  A panic of the
program is passed on before one that comes from giving up the iterator. -/
def withIterator {α : Type} (g : GenId) (use : CursorId → Program σ (Outcome α)) :
    Program σ (Outcome α) := do
  match ← iterate g with
  | none => return .refused .gone
  | some c =>
    let drawn ← use c
    match drawn, ← discard c with
    | .returned a, .returned _ => return .returned a
    | .returned _, .panicked p => return .panicked p
    | .returned _, .refused r => return .refused r
    | other, _ => return other

/-- The next items of a generator, at most a given number of them. -/
def take (g : GenId) (n : Nat) : Program σ (Outcome (List σ.Item)) :=
  withIterator g (collect · n)

/-- The next items of a generator, with the end where it is met within a number of requests. -/
def walk (g : GenId) (n : Nat) : Program σ (Outcome (List (Option σ.Item))) :=
  withIterator g (drain · n)

end Program

end Resumable
