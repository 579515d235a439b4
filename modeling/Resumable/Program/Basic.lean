import Resumable.World.Ownership

/-!
# Programs

A body between two yield points, and a user at the top level, do the same kind of thing: they issue
commands one after the other, where each may depend on the replies so far, and come to an end.  A
`Program` is such an activity as a tree: a leaf, or a command with a branch for every reply.  Panics
are replies like any other, so a program says itself which of them it catches and which it passes
on.
-/

namespace Resumable

/-- What a program can ask of a world. -/
inductive Command (σ : Signature) where
  | request (r : Request σ)
  | iterate (g : GenId)
  | watch (c : CursorId)
  | spawn (flavor : Flavor) (kind : σ.Kind) (body : σ.Body)
  | look (g : GenId)
  | hold (g : GenId)
  | release (g : GenId)
  | consume (g : GenId)
  /-- Log that a method call is passed on to an unwrapped generator. -/
  | announce (g : GenId) (mode : Mode) (flavor : Flavor)
  | read
  | write (s : σ.Shared)
  | note (n : σ.Note)

variable {σ : Signature}

/-- What a world replies to a command. -/
abbrev Command.Reply : Command σ → Type
  | .request r => r.Reply
  | .iterate _ => Option CursorId
  | .watch _ => Option Cursor
  | .spawn _ _ _ => GenId
  | .look _ => Option (View σ)
  | .hold _ => Bool
  | .release _ => Bool
  | .consume _ => Except Refusal (σ.Kind × σ.Body)
  | .announce _ _ _ => Unit
  | .read => σ.Shared
  | .write _ => Unit
  | .note _ => Unit

/-- A finite activity that issues commands. -/
inductive Program (σ : Signature) (α : Type) : Type where
  | done (a : α)
  /-- Issue a command, and go on as its reply says. -/
  | issue (c : Command σ) (k : c.Reply → Program σ α)

namespace Program

variable {α β : Type}

/-- Goes on with a second program where the first is over. -/
def bind : Program σ α → (α → Program σ β) → Program σ β
  | .done a, f => f a
  | .issue c k, f => .issue c fun r => (k r).bind f

instance : Monad (Program σ) where
  pure := .done
  bind := .bind

@[simp]
theorem bind_done (a : α) (f : α → Program σ β) : (Program.done a).bind f = f a := rfl

@[simp]
theorem bind_issue (c : Command σ) (k : c.Reply → Program σ α) (f : α → Program σ β) :
    (Program.issue c k).bind f = .issue c fun r => (k r).bind f := rfl

/-! ## Single commands -/

def command (c : Command σ) : Program σ c.Reply :=
  .issue c .done

def next (g : GenId) (v : Option σ.Value) :
    Program σ (Outcome (σ.Answer (Completion σ.Value))) :=
  command (.request (.next g v))

def throw (g : GenId) (e : σ.Thrown) : Program σ (Outcome (σ.Answer (Completion σ.Value))) :=
  command (.request (.throw g e))

def close (g : GenId) : Program σ (Outcome (σ.Answer Unit)) :=
  command (.request (.close g))

def advance (c : CursorId) : Program σ (Outcome (Option σ.Item)) :=
  command (.request (.advance c))

def discard (c : CursorId) : Program σ (Outcome Unit) :=
  command (.request (.discard c))

def iterate (g : GenId) : Program σ (Option CursorId) :=
  command (.iterate g)

def watch (c : CursorId) : Program σ (Option Cursor) :=
  command (.watch c)

def spawn (flavor : Flavor) (kind : σ.Kind) (body : σ.Body) : Program σ GenId :=
  command (.spawn flavor kind body)

def look (g : GenId) : Program σ (Option (View σ)) :=
  command (.look g)

def hold (g : GenId) : Program σ Bool :=
  command (.hold g)

def release (g : GenId) : Program σ Bool :=
  command (.release g)

def consume (g : GenId) : Program σ (Except Refusal (σ.Kind × σ.Body)) :=
  command (.consume g)

def read : Program σ σ.Shared :=
  command .read

def write (s : σ.Shared) : Program σ Unit :=
  command (.write s)

def note (n : σ.Note) : Program σ Unit :=
  command (.note n)

/-! ## Methods -/

/-- Calls a method of a generator.  A completion comes back from every method but close. -/
def invoke (g : GenId) :
    Method σ.Value σ.Thrown → Program σ (Outcome (σ.Answer (Option (Completion σ.Value))))
  | .next v => do return (← next g v).map (·.map some)
  | .throw e => do return (← throw g e).map (·.map some)
  | .close => do return (← close g).map (·.map fun _ => none)

end Program

end Resumable
