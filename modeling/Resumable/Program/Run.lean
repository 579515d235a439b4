import Resumable.Program.Basic

/-!
# Running programs

A program runs over a world command by command.  Commands that enter generators may step bodies, and
the step of a body is a program again, chosen by the engine from the body, its input and the mode.
Steps nest, so running is defined by recursion on how deep steps may still go inside each other; a
step below the last level panics before its body does anything.
-/

namespace Resumable

variable {σ : Signature}

/-- What the bodies of a world do: one step of a body is a program that ends with the ending of the
step and the body as the step leaves it.  The program is told the generator being stepped. -/
abbrev Engine (σ : Signature) : Type :=
  GenId → σ.Body → Input σ.Value σ.Thrown → Mode →
    Program σ (Ending σ.Value σ.Thrown × σ.Body)

/-- An engine whose steps issue no commands and do not ask which generator they belong to. -/
def Engine.ofStep
    (f : σ.Body → Input σ.Value σ.Thrown → Mode → Ending σ.Value σ.Thrown × σ.Body) : Engine σ :=
  fun _ body input mode => .done (f body input mode)

namespace World

/-- Performs an operation that may enter a generator, without a trace in the history. -/
def perform (step : Stepper σ) : (r : Request σ) → World σ → r.Reply × World σ
  | .next g v, w => w.next step g v
  | .throw g e, w => w.throw step g e
  | .close g, w => w.close step g
  | .advance c, w => w.advance step c
  | .discard c, w => w.discard step c

/-- Serves a command.  The answer of an operation that may enter a generator goes on record. -/
def serve (step : Stepper σ) : (c : Command σ) → World σ → c.Reply × World σ
  | .request r, w =>
    let (a, w) := w.perform step r
    (a, w.record (.answered r a))
  | .iterate g, w => w.iterate g
  | .watch c, w => (w.cursor? c, w)
  | .spawn flavor kind body, w => w.spawn flavor kind body
  | .look g, w => (w.look g, w)
  | .hold g, w => w.hold g
  | .release g, w => w.release g
  | .consume g, w => w.consume g
  | .announce g mode flavor, w => ((), w.log g (.forward mode flavor))
  | .read, w => (w.shared, w)
  | .write s, w => ((), { w with shared := s })
  | .note n, w => ((), w.record (.noted n))

end World

/-- Runs a program over a world, with bodies stepped as given. -/
def Program.run {α : Type} (step : Stepper σ) : Program σ α → World σ → α × World σ
  | .done a, w => (a, w)
  | .issue c k, w =>
    let (r, w) := w.serve step c
    (k r).run step w

/-- Steps bodies by running the programs of an engine, with a number of levels for steps inside
steps. -/
def Engine.stepper (engine : Engine σ) : Nat → Stepper σ
  | 0 => fun _ body _ _ w => ((.panicked .tooDeep, body), w)
  | depth + 1 => fun g body input mode w =>
    (engine g body input mode).run (engine.stepper depth) w

/-- Runs a program at the top level of a world with the given engine. -/
def Engine.run {α : Type} (engine : Engine σ) (depth : Nat) (p : Program σ α) (w : World σ) :
    α × World σ :=
  p.run (engine.stepper depth) w

@[simp]
theorem Program.run_done {α : Type} (step : Stepper σ) (a : α) (w : World σ) :
    (Program.done a).run step w = (a, w) := rfl

/-- A run of one program after another is the run of the second after the run of the first. -/
theorem Program.run_bind {α β : Type} (step : Stepper σ) (p : Program σ α) (f : α → Program σ β)
    (w : World σ) :
    (p.bind f).run step w = (f (p.run step w).1).run step (p.run step w).2 := by
  induction p generalizing w with
  | done a => rfl
  | issue c k ih => simp [Program.run, ih]

end Resumable
