import Resumable.Program.Run

/-!
# Requests, before and after their step

A request enters at most one step of one body, so it splits in two: `World.gate` goes as far as the
gates allow, to an answer or to a step that is about to run, and `World.conclude` is what remains
once the step has ended.  Neither half knows how bodies are stepped.  `perform_eq_through`: put
together around any stepper, the halves are the operations of the world; so whatever holds of every
request can be shown of the two halves, with nothing in between.
-/

namespace Resumable

variable {σ : Signature} {ρ ρ' : Type}

/-! ## Steps about to run -/

/-- How a step comes back: its ending, and the body that it leaves. -/
abbrev Signature.StepEnd (σ : Signature) : Type :=
  Ending σ.Value σ.Thrown × σ.Body

/-- A step of a body that is about to run or running. -/
structure Call (σ : Signature) where
  gen : GenId
  /-- The flavor of the generator when it was entered. -/
  flavor : Flavor
  body : σ.Body
  input : Input σ.Value σ.Thrown
  mode : Mode

/-- How far a request gets by itself, and the world then. -/
inductive Passage (σ : Signature) (ρ : Type) where
  | answered (a : ρ) (w : World σ)
  | stepping (call : Call σ) (w : World σ)

namespace Passage

/-- Takes the step, if there is one, and what comes after it. -/
def through (step : Stepper σ) (after : Call σ → σ.StepEnd → World σ → ρ × World σ) :
    Passage σ ρ → ρ × World σ
  | .answered a w => (a, w)
  | .stepping call w =>
    let (e, w) := step call.gen call.body call.input call.mode w
    after call e w

/-- Changes the answer and the world of a request that takes no step. -/
def map (f : ρ × World σ → ρ' × World σ) : Passage σ ρ → Passage σ ρ'
  | .answered a w => .answered (f (a, w)).1 (f (a, w)).2
  | .stepping call w => .stepping call w

/-- A change after the whole is a change of both halves. -/
theorem through_map (step : Stepper σ) (after : Call σ → σ.StepEnd → World σ → ρ × World σ)
    (f : ρ × World σ → ρ' × World σ) (x : Passage σ ρ) :
    (x.map f).through step (fun call e w => f (after call e w)) = f (x.through step after) := by
  cases x <;> rfl

theorem map_eq_answered {f : ρ × World σ → ρ' × World σ} {x : Passage σ ρ} {b : ρ'}
    {w' : World σ} (h : x.map f = .answered b w') :
    ∃ a w, x = .answered a w ∧ f (a, w) = (b, w') := by
  cases x with
  | answered a w => cases h; exact ⟨a, w, rfl, rfl⟩
  | stepping call w => cases h

theorem map_eq_stepping {f : ρ × World σ → ρ' × World σ} {x : Passage σ ρ} {call : Call σ}
    {w' : World σ} (h : x.map f = .stepping call w') : x = .stepping call w' := by
  cases x with
  | answered a w => cases h
  | stepping call w => cases h; rfl

end Passage

namespace World

/-! ## Around a single step -/

/-- The world in which a generator is stepped. -/
def embark (g : GenId) (flavor : Flavor) (input : Input σ.Value σ.Thrown) (mode : Mode)
    (w : World σ) : World σ :=
  let w := ((w.modifyGen g .start).log g (.resume flavor mode)).modifyGen g .enter
  (w.modifyGen g .lend).record (.began g input mode)

/-- The world in which a generator was to be stepped while readers held its body. -/
def stall (g : GenId) (flavor : Flavor) (mode : Mode) (w : World σ) : World σ :=
  let w := ((w.modifyGen g .start).log g (.resume flavor mode)).modifyGen g .enter
  (w.record (.conflict g)).modifyGen g (.leave .closed)

/-- Enters a step of a suspended generator.  A body that is held by readers lets no step in. -/
def depart {α : Type} (g : GenId) (gen : Gen σ) (input : Input σ.Value σ.Thrown) (mode : Mode)
    (w : World σ) : Passage σ (Outcome α) :=
  if gen.loan = .shared 0 then
    .stepping ⟨g, gen.flavor, gen.body, input, mode⟩ (w.embark g gen.flavor input mode)
  else .answered (.panicked .bodyHeld) (w.stall g gen.flavor mode)

/-- Takes the body back and leaves the step. -/
def land (call : Call σ) (e : σ.StepEnd) (w : World σ) :
    Outcome (σ.Answer (StepResult σ.Value)) × World σ :=
  settle call.gen e.1 ((w.modifyGen call.gen (.takeBack e.2)).record (.ended call.gen e.1))

/-- Leaves the step of a resume, with an answer as the flavor asks for. -/
def landResumed (call : Call σ) (e : σ.StepEnd) (w : World σ) :
    Outcome (σ.Answer (Completion σ.Value)) × World σ :=
  let (o, w) := land call e w
  (o.map (·.map (·.complete call.flavor)), w)

/-- Leaves the step of a close, after which the generator is closed. -/
def landClosed (call : Call σ) (e : σ.StepEnd) (w : World σ) : Outcome (σ.Answer Unit) × World σ :=
  match land call e w with
  | (.returned r, w) =>
    if w.phaseOf call.gen = .closed then (.returned (r.map fun _ => ()), w)
    else (.returned (r.map fun _ => ()), (w.log call.gen .forceClose).modifyGen call.gen .shut)
  | (.panicked p, w) => (.panicked p, w)
  | (.refused r, w) => (.refused r, w)

def tell (c : CursorId) (x : Outcome (σ.Answer (Completion σ.Value)) × World σ) :
    Outcome (Option σ.Item) × World σ :=
  let (finished, report) := Cursor.report x.1
  (report, x.2.modifyCursor c fun _ => ⟨finished, false⟩)

/-- Drops an iterator that has tried to close its generator. -/
def dispose (c : CursorId) :
    Outcome (σ.Answer Unit) × World σ → Outcome Unit × World σ
  | (.returned (.ok ()), w) => (.returned (), w.eraseCursor c)
  | (.returned (.error _), w) => (.returned (), (w.log c.gen .closeFailed).eraseCursor c)
  | (.panicked p, w) => (.panicked p, w.eraseCursor c)
  | (.refused r, w) => (.refused r, w.eraseCursor c)

/-! ## The two halves of a request -/

/-- Resumes a generator with a value, as far as the gates allow. -/
def gateNext (g : GenId) (v : Option σ.Value) (w : World σ) :
    Passage σ (Outcome (σ.Answer (Completion σ.Value))) :=
  match w.gen? g with
  | none => .answered (.refused .gone) w
  | some gen =>
    match gen.phase with
    | .closed => .answered (.returned (exhausted σ gen.flavor)) w
    | .running => .answered (.returned (.error .nesting)) w
    | .suspended => depart g gen (.value v) .next w

def gateThrow (g : GenId) (e : σ.Thrown) (w : World σ) :
    Passage σ (Outcome (σ.Answer (Completion σ.Value))) :=
  match w.gen? g with
  | none => .answered (.refused .gone) w
  | some gen =>
    match gen.phase with
    | .closed => .answered (.returned (.error (.raised e))) w
    | .running => .answered (.returned (.error .nesting)) w
    | .suspended => depart g gen (.error e) .throw w

/-- The world in which a newborn generator is closed. -/
def shutNewborn (g : GenId) (w : World σ) : World σ :=
  (w.log g .closeNewborn).modifyGen g fun gen => gen.start.shut

def gateClose (g : GenId) (w : World σ) : Passage σ (Outcome (σ.Answer Unit)) :=
  match w.gen? g with
  | none => .answered (.refused .gone) w
  | some gen =>
    match gen.flavor with
    | .modern => .answered (.returned (.error (.mismatch ⟨.legacy, Mode.close.name⟩))) w
    | .legacy =>
      match gen.phase, gen.newborn with
      | .closed, _ => .answered (.returned (.ok ())) w
      | _, true => .answered (.returned (.ok ())) (w.shutNewborn g)
      | .running, false => .answered (.returned (.error .nesting)) w
      | .suspended, false => depart g gen .empty .close w

def gateAdvance (c : CursorId) (w : World σ) : Passage σ (Outcome (Option σ.Item)) :=
  match w.cursor? c with
  | none => .answered (.refused .gone) w
  | some cur =>
    if cur.busy then .answered (.refused .inUse) w
    else if cur.finished then .answered (.returned none) w
    else (gateNext c.gen none (w.modifyCursor c fun _ => ⟨false, true⟩)).map (tell c)

def gateDiscard (c : CursorId) (w : World σ) : Passage σ (Outcome Unit) :=
  match w.cursor? c, w.gen? c.gen with
  | some cur, some gen =>
    if cur.busy then .answered (.refused .inUse) w
    else if cur.finished then .answered (.returned ()) (w.eraseCursor c)
    else
      let w := w.modifyCursor c fun _ => ⟨false, true⟩
      match gen.flavor with
      | .modern => .answered (.returned ()) (w.eraseCursor c)
      | .legacy => (gateClose c.gen w).map (dispose c)
  | _, _ => .answered (.refused .gone) w

/-- A request as far as the gates allow. -/
def gate : (r : Request σ) → World σ → Passage σ r.Reply
  | .next g v, w => w.gateNext g v
  | .throw g e, w => w.gateThrow g e
  | .close g, w => w.gateClose g
  | .advance c, w => w.gateAdvance c
  | .discard c, w => w.gateDiscard c

/-- What remains of a request once its step has ended. -/
def conclude : (r : Request σ) → Call σ → σ.StepEnd → World σ → r.Reply × World σ
  | .next _ _, call, e, w => landResumed call e w
  | .throw _ _, call, e, w => landResumed call e w
  | .close _, call, e, w => landClosed call e w
  | .advance c, call, e, w => tell c (landResumed call e w)
  | .discard c, call, e, w => dispose c (landClosed call e w)

/-! ## The halves make the whole -/

section Whole

variable (step : Stepper σ) (g : GenId) (gen : Gen σ) (w : World σ)

/-- A suspended generator is driven by departing, stepping and landing. -/
theorem drive_eq_through (input : Input σ.Value σ.Thrown) (mode : Mode)
    (hs : gen.phase = .suspended) :
    drive step g gen input mode w = (depart g gen input mode w).through step land := by
  unfold drive depart stepBody
  by_cases hl : gen.loan = .shared 0
  · simp only [hs, hl, if_true]
    rfl
  · simp only [hs, hl, if_true, if_false]
    rfl

theorem driveFor_eq_through (input : Input σ.Value σ.Thrown) (mode : Mode)
    (hs : gen.phase = .suspended) :
    driveFor step g gen input mode w = (depart g gen input mode w).through step landResumed := by
  unfold driveFor
  rw [drive_eq_through step g gen w input mode hs]
  unfold depart
  by_cases hl : gen.loan = .shared 0 <;> simp only [hl, if_true, if_false] <;> rfl

/-- The assertions on the way into a close hold by the checks made before them. -/
theorem closeStarted_eq_through (hf : gen.flavor = .legacy) (hs : gen.phase = .suspended)
    (hn : gen.newborn = false) :
    closeStarted step g gen w = (depart g gen .empty .close w).through step landClosed := by
  unfold closeStarted
  rw [drive_eq_through step g gen w .empty .close hs]
  unfold depart
  by_cases hl : gen.loan = .shared 0 <;> simp [hf, hs, hn, hl] <;> rfl

theorem next_eq_through (v : Option σ.Value) :
    next step g v w = (gateNext g v w).through step landResumed := by
  unfold next gateNext
  cases w.gen? g with
  | none => rfl
  | some gen =>
    dsimp only
    cases hs : gen.phase with
    | suspended => exact driveFor_eq_through step g gen w (.value v) .next hs
    | running => rfl
    | closed => rfl

theorem throw_eq_through (e : σ.Thrown) :
    throw step g e w = (gateThrow g e w).through step landResumed := by
  unfold throw gateThrow
  cases w.gen? g with
  | none => rfl
  | some gen =>
    dsimp only
    cases hs : gen.phase with
    | suspended => exact driveFor_eq_through step g gen w (.error e) .throw hs
    | running => rfl
    | closed => rfl

theorem close_eq_through : close step g w = (gateClose g w).through step landClosed := by
  unfold close gateClose
  cases w.gen? g with
  | none => rfl
  | some gen =>
    dsimp only
    cases hf : gen.flavor with
    | modern => rfl
    | legacy =>
      dsimp only
      cases hs : gen.phase with
      | suspended =>
        cases hn : gen.newborn with
        | false => exact closeStarted_eq_through step g gen w hf hs hn
        | true => rfl
      | running =>
        cases hn : gen.newborn with
        | false => simp [closeStarted, hf, hs, hn, Passage.through]
        | true => rfl
      | closed => rfl

theorem advance_eq_through (c : CursorId) :
    advance step c w =
      (gateAdvance c w).through step fun call e w => tell c (landResumed call e w) := by
  unfold advance gateAdvance
  cases w.cursor? c with
  | none => rfl
  | some cur =>
    dsimp only
    by_cases hb : cur.busy
    · simp only [hb, if_true]
      rfl
    by_cases hf : cur.finished
    · simp only [hb, hf, if_true]
      rfl
    simp only [hb, hf, Bool.false_eq_true, if_false]
    rw [Passage.through_map, ← next_eq_through]
    rfl

theorem discard_eq_through (c : CursorId) :
    discard step c w =
      (gateDiscard c w).through step fun call e w => dispose c (landClosed call e w) := by
  unfold discard gateDiscard
  cases hc : w.cursor? c with
  | none => rfl
  | some cur =>
    obtain ⟨gen, hg⟩ := Option.isSome_iff_exists.1 (isSome_gen?_of_cursor? hc)
    simp only [hg]
    by_cases hb : cur.busy
    · simp only [hb, if_true]
      rfl
    by_cases hf : cur.finished
    · simp only [hb, hf, Bool.false_eq_true, if_true, if_false]
      rfl
    simp only [hb, hf, Bool.false_eq_true, if_false, abandon, gen?_modifyCursor, hg]
    cases gen.flavor with
    | modern => rfl
    | legacy =>
      dsimp only
      rw [Passage.through_map, ← close_eq_through]
      rcases close step c.gen (w.modifyCursor c fun _ => ⟨false, true⟩) with
        ⟨(⟨_ | _⟩ | _ | _), _⟩ <;> rfl

end Whole

/-- **A request is its two halves around one step at most.** -/
theorem perform_eq_through (step : Stepper σ) (r : Request σ) (w : World σ) :
    w.perform step r = (w.gate r).through step (conclude r) := by
  cases r with
  | next g v => exact next_eq_through step g w v
  | throw g e => exact throw_eq_through step g w e
  | close g => exact close_eq_through step g w
  | advance c => exact advance_eq_through step w c
  | discard c => exact discard_eq_through step w c

end World

end Resumable
