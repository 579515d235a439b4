import Resumable.Proofs.Closed
import Resumable.Proofs.StepOutcome

/-!
# The two flavors in lockstep

A modern and a legacy generator are made of the same body, and the steps of the body depend on
nothing but the body, the input and the mode (`Engine.Determines`).  Both are resumed, each in its
own time and with anything else going on in between (`Visited`).  As long as they are asked for the
same, they go through the same steps to the same phases, and what they answer differs in its form
alone: `flavors_in_lockstep`.  The proof is a simulation.  Whatever both are asked for next, twins
answer it alike and are twins afterwards (`World.Twins.resume`).
-/

namespace Resumable

variable {σ : Signature}

/-! ## Visits -/

/-- The steps of some bodies depend on the body, the input and the mode alone, whatever generator
the body belongs to and whatever else there is in the world. -/
structure Engine.Determines (engine : Engine σ) (own : σ.Body → Prop)
    (f : σ.Body → Input σ.Value σ.Thrown → Mode → σ.StepEnd) : Prop where
  step : ∀ b, own b → ∀ d g input mode w,
    (engine.stepper (d + 1) g b input mode w).1 = f b input mode
  own : ∀ b, own b → ∀ input mode, own (f b input mode).2

theorem Engine.determines_ofStep
    (f : σ.Body → Input σ.Value σ.Thrown → Mode → σ.StepEnd) :
    (Engine.ofStep f).Determines (fun _ => True) f :=
  ⟨fun _ _ _ _ _ _ _ => rfl, fun _ _ _ _ => trivial⟩

/-- A resume of a generator: what it was resumed with, what it answered, and the phase then. -/
structure Visit (σ : Signature) where
  asked : Resumption σ
  answer : Outcome (σ.Answer (Completion σ.Value))
  phase : Phase

/-- A generator of a flavor is made of a body and resumed time and again, from the top level or from
other bodies.  In between, nothing happens to it.  The visits are listed newest first. -/
inductive Visited (engine : Engine σ) (f : Flavor) (b : σ.Body) :
    GenId → List (Visit σ) → World σ → Prop
  | made {ps : List (Pending σ)} {w : World σ} (coherent : Coherent ps w) (kind : σ.Kind) :
      Visited engine f b w.slots.nextKey [] (w.spawn f kind b).2
  | resume {ps : List (Pending σ)} {g : GenId} {xs : List (Visit σ)} {w w' : World σ}
      (visited : Visited engine f b g xs w) (coherent : Coherent ps w) {d : Nat}
      {o : Resumption σ} {a : Outcome (σ.Answer (Completion σ.Value))}
      (resumed : w.resume (engine.stepper (d + 1)) g o = (a, w')) :
      Visited engine f b g (⟨o, a, w'.phaseOf g⟩ :: xs) w'
  | meanwhile {g : GenId} {xs : List (Visit σ)} {w w' : World σ}
      (visited : Visited engine f b g xs w) (gen? : w'.gen? g = w.gen? g)
      (course : w'.course g = w.course g) : Visited engine f b g xs w'

/-! ## What corresponds -/

/-- How a modern and a legacy generator answer the same, where `closed` tells whether they are
closed then.  Only the modern one says so with the value. -/
inductive Tally (closed : Bool) : Outcome (σ.Answer (Completion σ.Value)) →
    Outcome (σ.Answer (Completion σ.Value)) → Prop
  | value (v : σ.Value) :
      Tally closed (.returned (.ok (.result ⟨some v, closed⟩))) (.returned (.ok (.value v)))
  | finished : Tally closed (.returned (.ok (.result ⟨none, true⟩))) (.returned (.error .finished))
  | raised (e : σ.Thrown) :
      Tally closed (.returned (.error (.raised e))) (.returned (.error (.raised e)))
  | panicked (p : Panic) : Tally closed (.panicked p) (.panicked p)

/-- A resume of a modern and one of a legacy generator came to the same. -/
structure Visit.Tallies (x x' : Visit σ) : Prop where
  asked : x'.asked = x.asked
  phase : x'.phase = x.phase
  answer : Tally (x'.phase = .closed) x.answer x'.answer

/-- The event as one of another generator, of a given flavor. -/
def Event.relabel (g : GenId) (f : Flavor) : Event σ → Event σ
  | .logged _ (.resume _ mode) => .logged g (.resume f mode)
  | .logged _ r => .logged g r
  | .began _ input mode => .began g input mode
  | .ended _ e => .ended g e
  | .conflict _ => .conflict g
  | .broke _ a => .broke g a
  | e => e

theorem ofEvents_relabel (g : GenId) (f : Flavor) (es : List (Event σ)) :
    Taken.ofEvents (es.map (·.relabel g f)) = Taken.ofEvents es := by
  induction es with
  | nil => rfl
  | cons e es ih =>
    cases e with
    | logged h r => cases r <;> exact ih
    | began h input mode => exact congrArg (_ :: ·) ih
    | ended h e => rw [List.map_cons, Event.relabel, Taken.ofEvents, ih, Taken.ofEvents]
    | _ => exact ih

theorem relabel_reports (g g' : GenId) (f : Flavor) (mode : Mode)
    (e : Ending σ.Value σ.Thrown) :
    ((e.reports mode).map (.logged g)).map (Event.relabel (σ := σ) g' f) =
      (e.reports mode).map (.logged g') := by
  cases e <;> cases mode <;> rfl

/-! ## One generator -/

section Resuming

variable {engine : Engine σ} {ps : List (Pending σ)} {w v : World σ} {g : GenId} {gen : Gen σ}
  {o : Resumption σ} {a : Outcome (σ.Answer (Completion σ.Value))}

theorem resume_of_closed (found : w.gen? g = some gen) (closed : gen.phase = .closed)
    {step : Stepper σ} (resumed : w.resume step g o = (a, v)) :
    a = .returned (o.refusal gen.flavor) ∧ v.gen? g = some gen ∧ v.course g = w.course g := by
  cases o with
  | value x =>
    simp only [World.resume, World.serve, World.perform, World.next_of_closed found closed]
      at resumed
    cases resumed
    exact ⟨rfl, found, rfl⟩
  | error e =>
    simp only [World.resume, World.serve, World.perform, World.throw_of_closed found closed]
      at resumed
    cases resumed
    exact ⟨rfl, found, rfl⟩

/-- A suspended generator whose body nobody holds is stepped, and what the step depends on decides
how it goes. -/
theorem resume_of_suspended {own : σ.Body → Prop}
    {f : σ.Body → Input σ.Value σ.Thrown → Mode → σ.StepEnd} (determines : engine.Determines own f)
    (owned : own gen.body) (coherent : Coherent ps w) (found : w.gen? g = some gen)
    (suspended : gen.phase = .suspended) (free : gen.loan = .shared 0) {d : Nat}
    (resumed : w.resume (engine.stepper (d + 1)) g o = (a, v)) :
    let e := f gen.body o.input o.mode
    a = e.1.outcome.map (·.map (·.complete gen.flavor)) ∧ World.Stepped g gen o e w v := by
  have came := coherent.resumed found suspended free engine (d + 1) o
  rw [determines.step _ owned, resumed] at came
  exact came

end Resuming

/-! ## Two generators -/

/-- A modern and a legacy generator with the same body have come equally far, in two worlds. -/
structure World.Twins (own : σ.Body → Prop) (w w' : World σ) (g g' : GenId) (gen gen' : Gen σ) :
    Prop where
  found : w.gen? g = some gen
  found' : w'.gen? g' = some gen'
  modern : gen.flavor = .modern
  legacy : gen'.flavor = .legacy
  phase : gen'.phase = gen.phase
  body : gen'.body = gen.body
  owned : own gen.body
  resting : gen.phase ≠ .running
  free : gen.loan = .shared 0
  free' : gen'.loan = .shared 0
  course : w'.course g' = (w.course g).map (·.relabel g' .legacy)

namespace World.Twins

variable {engine : Engine σ} {own : σ.Body → Prop}
  {f : σ.Body → Input σ.Value σ.Thrown → Mode → σ.StepEnd} {ps ps' : List (Pending σ)}
  {w w' v v' : World σ} {g g' : GenId} {gen gen' : Gen σ} {o : Resumption σ}
  {a a' : Outcome (σ.Answer (Completion σ.Value))} {d d' : Nat}

theorem phaseOf (twins : w.Twins own w' g g' gen gen') :
    w.phaseOf g = gen.phase ∧ w'.phaseOf g' = gen.phase := by
  unfold World.phaseOf
  rw [twins.found, twins.found']
  exact ⟨rfl, twins.phase⟩

theorem resume_of_closed (twins : w.Twins own w' g g' gen gen') (closed : gen.phase = .closed)
    (resumed : w.resume (engine.stepper (d + 1)) g o = (a, v))
    (resumed' : w'.resume (engine.stepper (d' + 1)) g' o = (a', v')) :
    Tally true a a' ∧ v.Twins own v' g g' gen gen' := by
  obtain ⟨rfl, found, course⟩ := Resumable.resume_of_closed twins.found closed resumed
  obtain ⟨rfl, found', course'⟩ :=
    Resumable.resume_of_closed twins.found' (twins.phase.trans closed) resumed'
  constructor
  · rw [twins.modern, twins.legacy]
    cases o with
    | value x => exact .finished
    | error e => exact .raised e
  · exact { twins with found, found', course := by rw [course, course', twins.course] }

theorem resume_of_suspended (determines : engine.Determines own f)
    (twins : w.Twins own w' g g' gen gen') (suspended : gen.phase = .suspended)
    (coherent : Coherent ps w) (coherent' : Coherent ps' w')
    (resumed : w.resume (engine.stepper (d + 1)) g o = (a, v))
    (resumed' : w'.resume (engine.stepper (d' + 1)) g' o = (a', v')) :
    ∃ gen₁ gen₁', v.Twins own v' g g' gen₁ gen₁' ∧ Tally (gen₁.phase = .closed) a a' := by
  obtain ⟨answer, found, course⟩ := Resumable.resume_of_suspended determines twins.owned coherent
    twins.found suspended twins.free resumed
  obtain ⟨answer', found', course'⟩ := Resumable.resume_of_suspended determines
    (twins.body ▸ twins.owned) coherent' twins.found' (twins.phase.trans suspended) twins.free'
    resumed'
  rw [twins.body] at answer' found' course'
  have owned := determines.own gen.body twins.owned o.input o.mode
  generalize f gen.body o.input o.mode = e at answer found course answer' found' course' owned
  obtain ⟨ending, body⟩ := e
  refine ⟨_, _, ⟨found, found', twins.modern, twins.legacy, rfl, rfl, owned, ?_, rfl, rfl, ?_⟩, ?_⟩
  · cases ending <;> nofun
  · rw [course, course', twins.course, twins.legacy]
    simp only [List.map_append, relabel_reports]
    rfl
  · rw [answer, answer', twins.modern, twins.legacy]
    cases ending with
    | yielded x => exact .value x
    | returned x => exact .value x
    | raised x => exact .raised x
    | panicked p => exact .panicked p

/-- **Whatever both are resumed with, twins answer alike, and they are twins afterwards.** -/
theorem resume (determines : engine.Determines own f) (twins : w.Twins own w' g g' gen gen')
    (coherent : Coherent ps w) (coherent' : Coherent ps' w')
    (resumed : w.resume (engine.stepper (d + 1)) g o = (a, v))
    (resumed' : w'.resume (engine.stepper (d' + 1)) g' o = (a', v')) :
    ∃ gen₁ gen₁', v.Twins own v' g g' gen₁ gen₁' ∧ Tally (gen₁.phase = .closed) a a' := by
  cases phase : gen.phase with
  | running => exact absurd phase twins.resting
  | closed =>
    obtain ⟨tally, twins'⟩ := twins.resume_of_closed phase resumed resumed'
    exact ⟨gen, gen', twins', by rwa [phase]⟩
  | suspended =>
    exact twins.resume_of_suspended determines phase coherent coherent' resumed resumed'

end World.Twins

/-! ## Two visited generators -/

section Visited

variable {engine : Engine σ} {f : Flavor} {b : σ.Body} {g : GenId} {x : Visit σ}
  {xs : List (Visit σ)} {w : World σ}

theorem Visited.fresh (visited : Visited engine f b g [] w) :
    ∃ kind, w.gen? g = some (.fresh f kind b) ∧ w.course g = [] := by
  generalize none : [] = xs at visited
  induction visited with
  | @made ps w coherent kind =>
    refine ⟨kind, ?_, coherent.unused _ (Nat.le_refl _)⟩
    rw [World.gen?_spawn, if_pos rfl]
  | resume => cases none
  | meanwhile visited gen? course ih =>
    obtain ⟨kind, found, nothing⟩ := ih none
    exact ⟨kind, gen?.trans found, course.trans nothing⟩

theorem Visited.last (visited : Visited engine f b g (x :: xs) w) :
    ∃ ps v v' d, Visited engine f b g xs v ∧ Coherent ps v ∧
      v.resume (engine.stepper (d + 1)) g x.asked = (x.answer, v') ∧ x.phase = v'.phaseOf g ∧
      w.gen? g = v'.gen? g ∧ w.course g = v'.course g := by
  generalize some : x :: xs = ys at visited
  induction visited with
  | made => cases some
  | resume visited coherent resumed =>
    cases some
    exact ⟨_, _, _, _, visited, coherent, resumed, rfl, rfl, rfl⟩
  | meanwhile visited gen? course ih =>
    obtain ⟨ps, v, v', d, before, coherent, resumed, phase, gen?', course'⟩ := ih some
    exact ⟨ps, v, v', d, before, coherent, resumed, phase, gen?.trans gen?', course.trans course'⟩

variable {own : σ.Body → Prop} {fn : σ.Body → Input σ.Value σ.Thrown → Mode → σ.StepEnd}
  {g' : GenId} {xs' : List (Visit σ)} {w' : World σ}

theorem twins_of_visited (determines : engine.Determines own fn) (owned : own b)
    (modern : Visited engine .modern b g xs w) (legacy : Visited engine .legacy b g' xs' w')
    (same : xs.map (·.asked) = xs'.map (·.asked)) :
    List.Forall₂ Visit.Tallies xs xs' ∧ ∃ gen gen', w.Twins own w' g g' gen gen' := by
  induction xs generalizing xs' w w' with
  | nil =>
    cases List.map_eq_nil_iff.mp same.symm
    obtain ⟨kind, found, nothing⟩ := modern.fresh
    obtain ⟨kind', found', nothing'⟩ := legacy.fresh
    refine ⟨.nil, _, _, found, found', rfl, rfl, rfl, rfl, owned, nofun, rfl, rfl, ?_⟩
    rw [nothing, nothing']
    rfl
  | cons x xs ih =>
    obtain ⟨x', xs', rfl, asked, rest⟩ := List.map_eq_cons_iff.mp same.symm
    obtain ⟨ps, v, v₁, d, before, coherent, resumed, phase, gen?, course⟩ := modern.last
    obtain ⟨ps', v', v₁', d', before', coherent', resumed', phase', gen?', course'⟩ := legacy.last
    obtain ⟨tallies, gen, gen', twins⟩ := ih before before' rest.symm
    rw [asked] at resumed'
    obtain ⟨gen₁, gen₁', twins₁, tally⟩ :=
      twins.resume determines coherent coherent' resumed resumed'
    obtain ⟨after, after'⟩ := twins₁.phaseOf
    rw [← after'] at tally
    refine ⟨.cons ⟨asked, ?_, phase' ▸ tally⟩ tallies, gen₁, gen₁', ?_⟩
    · rw [phase, phase', after, after']
    · exact { twins₁ with
        found := gen?.trans twins₁.found
        found' := gen?'.trans twins₁.found'
        course := by rw [course, course', twins₁.course] }

/-- **A modern and a legacy generator of the same body go in lockstep.**  The steps of the body
depend on the body, the input and the mode alone.  If both generators are resumed with the same
values and errors in the same order, then each resume leaves them in the same phase and answers the
same up to the form that goes with the flavor: a value with a flag that tells whether the legacy
generator is closed then, the end, a raised error, or a panic.  The bodies have taken the same
steps, with the same inputs and endings, and what is on record of the one generator is on record of
the other, in the same order and with the word for the flavor changed. -/
theorem flavors_in_lockstep (determines : engine.Determines own fn) (owned : own b)
    (modern : Visited engine .modern b g xs w) (legacy : Visited engine .legacy b g' xs' w')
    (same : xs.map (·.asked) = xs'.map (·.asked)) :
    List.Forall₂ Visit.Tallies xs xs' ∧ w'.phaseOf g' = w.phaseOf g ∧
      w'.stepsOf g' = w.stepsOf g ∧
      w'.course g' = (w.course g).map (·.relabel g' .legacy) := by
  obtain ⟨tallies, gen, gen', twins⟩ := twins_of_visited determines owned modern legacy same
  refine ⟨tallies, ?_, ?_, twins.course⟩
  · rw [twins.phaseOf.1, twins.phaseOf.2]
  · rw [World.stepsOf, twins.course, ofEvents_relabel, World.stepsOf]

end Visited

/-! ## A countdown -/

abbrev counting : Signature where
  Value := Nat
  Thrown := Nat
  Body := Nat
  Kind := Unit
  Shared := Unit
  Note := Unit

/-- One step of a countdown, which raises what is thrown into it. -/
def countdownStep (n : Nat) (input : Input Nat Nat) (_ : Mode) : Ending Nat Nat × Nat :=
  match input, n with
  | .error e, n => (.raised e, n)
  | _, 0 => (.returned 0, 0)
  | _, n + 1 => (.yielded n, n)

def countdown : Engine counting :=
  .ofStep countdownStep

def twoCountdowns : World counting :=
  let w := ((World.initial ()).spawn .modern () (1 : Nat)).2
  (w.spawn .legacy () (1 : Nat)).2

def countDown (g : GenId) (w : World counting) : World counting :=
  (w.resume (countdown.stepper 1) g (.value none)).2

theorem Coherent.countDown {w : World counting} (coherent : Coherent [] w) (g : GenId) :
    Coherent [] (countDown g w) :=
  (coherent.serve (countdown.discreet 1) (.request (.next g none))).coherent

theorem flavors_in_lockstep_countdown :
    let w := countDown 0 (countDown 1 (countDown 0 twoCountdowns))
    let w' := countDown 1 w
    ∃ xs xs', Visited countdown .modern (1 : Nat) 0 xs w ∧
      Visited countdown .legacy (1 : Nat) 1 xs' w' ∧
      xs.map (·.answer) = [.returned (.ok (.result ⟨some (0 : Nat), true⟩)),
        .returned (.ok (.result ⟨some (0 : Nat), false⟩))] ∧
      List.Forall₂ Visit.Tallies xs xs' ∧ w'.phaseOf 1 = w.phaseOf 0 ∧
      w'.stepsOf 1 = w.stepsOf 0 := by
  let made := ((World.initial (σ := counting) ()).spawn .modern () (1 : Nat)).2
  let once := countDown 1 (countDown 0 twoCountdowns)
  let yielded (a : Completion Nat) : Visit counting := ⟨.value none, .returned (.ok a), .suspended⟩
  let returned (a : Completion Nat) : Visit counting := ⟨.value none, .returned (.ok a), .closed⟩
  have start := Coherent.start (σ := counting) ()
  have coherent : Coherent [] made := start.quiet (World.quiet_spawn ..)
  have coherent₀ : Coherent [] twoCountdowns := coherent.quiet (World.quiet_spawn ..)
  have coherent₁ : Coherent [] once := (coherent₀.countDown 0).countDown 1
  let Modern := Visited countdown .modern (1 : Nat) 0
  let Legacy := Visited countdown .legacy (1 : Nat) 1
  have modern₀ : Modern [] twoCountdowns := (Visited.made start ()).meanwhile rfl rfl
  have modern₁ : Modern [yielded (.result ⟨some 0, false⟩)] (countDown 0 twoCountdowns) :=
    modern₀.resume (d := 0) coherent₀ rfl
  have modern₂ : Modern [yielded (.result ⟨some 0, false⟩)] once := modern₁.meanwhile rfl rfl
  have modern₃ : Modern [returned (.result ⟨some 0, true⟩), yielded (.result ⟨some 0, false⟩)]
      (countDown 0 once) := modern₂.resume (d := 0) coherent₁ rfl
  have legacy₀ : Legacy [] (countDown 0 twoCountdowns) :=
    (Visited.made coherent ()).meanwhile rfl rfl
  have legacy₁ : Legacy [yielded (.value 0)] once :=
    legacy₀.resume (d := 0) (coherent₀.countDown 0) rfl
  have legacy₂ : Legacy [yielded (.value 0)] (countDown 0 once) := legacy₁.meanwhile rfl rfl
  have legacy₃ : Legacy [returned (.value 0), yielded (.value 0)]
      (countDown 1 (countDown 0 once)) := legacy₂.resume (d := 0) (coherent₁.countDown 0) rfl
  have determines : countdown.Determines (fun _ => True) countdownStep :=
    Engine.determines_ofStep (σ := counting) _
  obtain ⟨tallies, phase, steps, -⟩ :=
    flavors_in_lockstep determines trivial modern₃ legacy₃ rfl
  exact ⟨_, _, modern₃, legacy₃, rfl, tallies, phase, steps⟩

end Resumable
