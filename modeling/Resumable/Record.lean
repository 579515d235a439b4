import Resumable.Lifecycle

/-!
# Log records

What a generator reports of its own doing.  A record is written when a step is about to be entered,
when it has ended well or with an error, on the two ways of closing without a regular end, when an
iterator could not close its generator, and when a call is passed on to an unwrapped generator.  A
step that is interrupted by a panic reports nothing after its first record.
-/

namespace Resumable

/-- How much attention a record asks for. -/
inductive Level where
  | trace
  | debug
  | warn
deriving DecidableEq, Repr

/-- The word that stands in front of a record. -/
def Level.name : Level → String
  | .trace => "TRACE"
  | .debug => "DEBUG"
  | .warn => "WARN"

/-- A report of a generator. -/
inductive Record where
  | resume (flavor : Flavor) (mode : Mode)
  /-- A step ended without an error and left the generator in the given phase. -/
  | stepDone (phase : Phase)
  /-- A step ended with an error and left the generator in the given phase. -/
  | stepRaised (phase : Phase)
  /-- A generator that was never resumed is closed without a step. -/
  | closeNewborn
  /-- A generator whose body yielded while it was to clean up is closed all the same. -/
  | forceClose
  /-- The generator of a discarded iterator failed to close. -/
  | closeFailed
  /-- A method call is passed on to the generator found behind a receiver. -/
  | forward (mode : Mode) (flavor : Flavor)
deriving DecidableEq, Repr

def Record.level : Record → Level
  | .closeNewborn | .forceClose => .debug
  | .closeFailed => .warn
  | _ => .trace

def Record.message : Record → String
  | .resume flavor mode => "resume " ++ flavor.name ++ " generator with " ++ mode.name
  | .stepDone phase => "generator step done, now " ++ phase.name
  | .stepRaised phase => "generator raised, now " ++ phase.name
  | .closeNewborn => "close newborn generator"
  | .forceClose => "force close generator after close step"
  | .closeFailed => "legacy generator failed to close while dropping its iterator"
  | .forward mode flavor =>
    "forward " ++ mode.name ++ " to unwrapped " ++ flavor.name ++ " generator"

/-- A record as it stands in the log. -/
def Record.line (r : Record) : String :=
  r.level.name ++ " " ++ r.message

end Resumable
