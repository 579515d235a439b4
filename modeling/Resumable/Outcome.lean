import Resumable.Fault

/-!
# Outcomes

An operation ends in one of three ways.  It returns, possibly with a fault as its answer; it
panics, and then whoever asked for it decides whether to catch the panic or to pass it on; or it is
refused, because what it names is not there or is in use, and then nothing has happened.
-/

namespace Resumable

/-- What the controller takes for granted about a generator before it goes on. -/
inductive Assertion where
  /-- A generator that is about to enter a step is suspended. -/
  | suspendedOnEntry
  /-- A generator that is closed through a step is legacy. -/
  | legacyOnClose
  /-- A generator that is closed through a step is not closed yet. -/
  | openOnClose
  /-- A generator that is closed through a step has been resumed before. -/
  | startedOnClose
deriving DecidableEq, Repr

/-- Why an operation was interrupted. -/
inductive Panic where
  | body (message : String)
  /-- A step was to be entered while the body was held by a reader. -/
  | bodyHeld
  /-- Something that the controller takes for granted did not hold. -/
  | broken (a : Assertion)
  /-- A body was to be stepped deeper inside other steps than the engine goes. -/
  | tooDeep
deriving DecidableEq, Repr

/-- Why an operation was not begun. -/
inductive Refusal where
  | gone
  /-- What it names is being used by an operation in progress. -/
  | inUse
deriving DecidableEq, Repr

/-- How an operation ends. -/
inductive Outcome (α : Type) where
  | returned (a : α)
  | panicked (p : Panic)
  | refused (r : Refusal)
deriving DecidableEq, Repr

def Outcome.map {α β : Type} (f : α → β) : Outcome α → Outcome β
  | .returned a => .returned (f a)
  | .panicked p => .panicked p
  | .refused r => .refused r

/-- How one step of a body ends. -/
inductive Ending (V E : Type) where
  | yielded (v : V)
  | returned (v : V)
  | raised (e : E)
  | panicked (p : Panic)
deriving DecidableEq, Repr

end Resumable
