import Resumable.World.Basic

/-!
# Resuming, throwing and closing

The protocol of a single generator.  Every entry looks at the phase first: a closed generator
answers at once, a running one refuses as nesting, and only a suspended one goes on to `drive`,
which steps the body exactly once.  During the step the generator is running and its body is lent
out exclusively; afterwards it is suspended if the body yielded and closed in every other case, a
panic included.

The step itself is the business of a `Stepper`, about which nothing is assumed here: while it runs
the body it may change the world in any way, also by entering this very generator again.
-/

namespace Resumable

variable {σ : Signature}

/-- Runs the body of a generator for one step, and hands back how the step ended, what became of
the body, and the world that the step leaves. -/
abbrev Stepper (σ : Signature) : Type :=
  GenId → σ.Body → Input σ.Value σ.Thrown → Mode → World σ →
    (Ending σ.Value σ.Thrown × σ.Body) × World σ

/-! ## Changes to a generator around a step -/

namespace Gen

/-- The generator is newborn no longer. -/
def start (gen : Gen σ) : Gen σ :=
  { gen with newborn := false }

def enter (gen : Gen σ) : Gen σ :=
  { gen with phase := .running }

/-- The generator leaves a step; one that is closed stays closed. -/
def leave (exit : Phase) (gen : Gen σ) : Gen σ :=
  { gen with phase := if gen.phase = .closed then .closed else exit }

/-- The body goes out for a step. -/
def lend (gen : Gen σ) : Gen σ :=
  { gen with loan := .exclusive }

/-- The body comes back from a step. -/
def takeBack (body : σ.Body) (gen : Gen σ) : Gen σ :=
  { gen with body := body, loan := .shared 0 }

def shut (gen : Gen σ) : Gen σ :=
  { gen with phase := .closed }

end Gen

namespace World

/-! ## One step -/

/-- Steps a body once while it is lent out. -/
def stepBody (step : Stepper σ) (g : GenId) (body : σ.Body) (input : Input σ.Value σ.Thrown)
    (mode : Mode) (w : World σ) : Ending σ.Value σ.Thrown × World σ :=
  let w := (w.modifyGen g .lend).record (.began g input mode)
  let ((ending, body), w) := step g body input mode w
  (ending, (w.modifyGen g (.takeBack body)).record (.ended g ending))

/-- Leaves a step as its ending asks for.  An orderly end is reported in the log with the phase
that it left the generator in; a panic is passed on in silence. -/
def settle (g : GenId) (ending : Ending σ.Value σ.Thrown) (w : World σ) :
    Outcome (σ.Answer (StepResult σ.Value)) × World σ :=
  match ending with
  | .yielded v =>
    let w := w.modifyGen g (.leave .suspended)
    (.returned (.ok (.yielded v)), w.log g (.stepDone (w.phaseOf g)))
  | .returned v =>
    let w := w.modifyGen g (.leave .closed)
    (.returned (.ok (.returned v)), w.log g (.stepDone (w.phaseOf g)))
  | .raised e =>
    let w := w.modifyGen g (.leave .closed)
    (.returned (.error (.raised e)), w.log g (.stepRaised (w.phaseOf g)))
  | .panicked p => (.panicked p, w.modifyGen g (.leave .closed))

/-- Steps the body of a generator once, if it is at home and nobody looks at it.  A body held by
readers makes the operation panic, and the generator is closed without a step. -/
def drive (step : Stepper σ) (g : GenId) (gen : Gen σ) (input : Input σ.Value σ.Thrown)
    (mode : Mode) (w : World σ) : Outcome (σ.Answer (StepResult σ.Value)) × World σ :=
  let w := (w.modifyGen g .start).log g (.resume gen.flavor mode)
  if gen.phase = .suspended then
    let w := w.modifyGen g .enter
    if gen.loan = .shared 0 then
      let (ending, w) := stepBody step g gen.body input mode w
      settle g ending w
    else
      (.panicked .bodyHeld, (w.record (.conflict g)).modifyGen g (.leave .closed))
  else
    (.panicked (.broken .suspendedOnEntry), w.record (.broke g .suspendedOnEntry))

/-- Steps the body and shapes what it hands back as the flavor asks for. -/
def driveFor (step : Stepper σ) (g : GenId) (gen : Gen σ) (input : Input σ.Value σ.Thrown)
    (mode : Mode) (w : World σ) : Outcome (σ.Answer (Completion σ.Value)) × World σ :=
  let (o, w) := drive step g gen input mode w
  (o.map (·.map (·.complete gen.flavor)), w)

/-! ## The three entries -/

/-- What a closed generator answers to a resume with a value. -/
def exhausted (σ : Signature) : Flavor → σ.Answer (Completion σ.Value)
  | .modern => .ok (.result .sentinel)
  | .legacy => .error .finished

def next (step : Stepper σ) (g : GenId) (v : Option σ.Value) (w : World σ) :
    Outcome (σ.Answer (Completion σ.Value)) × World σ :=
  match w.gen? g with
  | none => (.refused .gone, w)
  | some gen =>
    match gen.phase with
    | .closed => (.returned (exhausted σ gen.flavor), w)
    | .running => (.returned (.error .nesting), w)
    | .suspended => driveFor step g gen (.value v) .next w

/-- Resumes a generator by raising an error; a closed one gives the error back. -/
def throw (step : Stepper σ) (g : GenId) (e : σ.Thrown) (w : World σ) :
    Outcome (σ.Answer (Completion σ.Value)) × World σ :=
  match w.gen? g with
  | none => (.refused .gone, w)
  | some gen =>
    match gen.phase with
    | .closed => (.returned (.error (.raised e)), w)
    | .running => (.returned (.error .nesting), w)
    | .suspended => driveFor step g gen (.error e) .throw w

/-- Closes a generator that has been resumed before and is open: its body runs its pending cleanup,
and the generator is closed even if the body yields from there. -/
def closeStarted (step : Stepper σ) (g : GenId) (gen : Gen σ) (w : World σ) :
    Outcome (σ.Answer Unit) × World σ :=
  if gen.flavor ≠ .legacy then
    (.panicked (.broken .legacyOnClose), w.record (.broke g .legacyOnClose))
  else if gen.phase = .closed then
    (.panicked (.broken .openOnClose), w.record (.broke g .openOnClose))
  else if gen.newborn then
    (.panicked (.broken .startedOnClose), w.record (.broke g .startedOnClose))
  else if gen.phase = .running then
    (.returned (.error .nesting), w)
  else
    match drive step g gen .empty .close w with
    | (.returned r, w) =>
      if w.phaseOf g = .closed then (.returned (r.map fun _ => ()), w)
      else (.returned (r.map fun _ => ()), (w.log g .forceClose).modifyGen g .shut)
    | (.panicked p, w) => (.panicked p, w)
    | (.refused r, w) => (.refused r, w)

/-- Closes a legacy generator.  A closed one is left alone, and a newborn one is closed without a
step. -/
def close (step : Stepper σ) (g : GenId) (w : World σ) : Outcome (σ.Answer Unit) × World σ :=
  match w.gen? g with
  | none => (.refused .gone, w)
  | some gen =>
    match gen.flavor with
    | .modern => (.returned (.error (.mismatch ⟨.legacy, Mode.close.name⟩)), w)
    | .legacy =>
      if gen.phase = .closed then (.returned (.ok ()), w)
      else if gen.newborn then
        (.returned (.ok ()), (w.log g .closeNewborn).modifyGen g fun gen => gen.start.shut)
      else closeStarted step g gen w

end World

end Resumable
