import Resumable.Program.Drawing
import Resumable.Proofs.Gates
import Resumable.Proofs.GivingUp
import Resumable.Proofs.Reports

/-!
# What collecting items comes to

The items that are collected from a suspended generator are what its steps yield, one after the
other, up to the wanted number; with an end of its own the generator stops the collection before
that, and then the error that it raised is an item too, as is the value that a legacy generator
returned.  The iterator is given up after that, which is one more step for a legacy generator that
has not ended yet, unless it is still newborn (`take_collects`).
-/

namespace Resumable

variable {σ : Signature}

/-- The last items of a collection that an ending stopped. -/
def Ending.lastItems (f : Flavor) : Ending σ.Value σ.Thrown → Outcome (List σ.Item)
  | .yielded v => .returned [.ok v]
  | .returned v =>
    match f with
    | .modern => .returned []
    | .legacy => .returned [.ok v]
  | .raised e => .returned [.error (.raised e)]
  | .panicked p => .panicked p

/-! ## Steps that an iterator takes -/

namespace World

/-- How the step that a request takes ends, if it takes one. -/
def ending? (step : Stepper σ) (r : Request σ) (w : World σ) : Option (Ending σ.Value σ.Thrown) :=
  match w.gate r with
  | .answered _ _ => none
  | .stepping call v => some (step call.gen call.body call.input call.mode v).1.1

/-- The world after an iterator was advanced a number of times. -/
def drawn (step : Stepper σ) (c : CursorId) : Nat → World σ → World σ
  | 0, w => w
  | i + 1, w => drawn step c i (w.serve step (.request (.advance c))).2

/-- How the steps end that an iterator takes when it is advanced over and over. -/
def outcome? (step : Stepper σ) (c : CursorId) (i : Nat) (w : World σ) :
    Option (Ending σ.Value σ.Thrown) :=
  (w.drawn step c i).ending? step (.advance c)

/-- How the steps of a generator end that a new iterator takes over and over. -/
def outcomes (step : Stepper σ) (g : GenId) (w : World σ) (i : Nat) :
    Option (Ending σ.Value σ.Thrown) :=
  (w.iterate g).1.bind fun c => (w.iterate g).2.outcome? step c i

/-- An iterator that takes a step when it is advanced. -/
structure Poised (ps : List (Pending σ)) (c : CursorId) (gen : Gen σ) (w : World σ) : Prop where
  coherent : Coherent ps w
  cursor : w.cursor? c = some ⟨false, false⟩
  found : w.gen? c.gen = some gen
  suspended : gen.phase = .suspended
  free : gen.loan = .shared 0

/-- An iterator that has nothing but the end to report. -/
structure Spent (c : CursorId) (f : Flavor) (w : World σ) : Prop where
  cursor : ∃ finished, w.cursor? c = some ⟨finished, false⟩
  closed : ∃ gen, w.gen? c.gen = some gen ∧ gen.flavor = f ∧ gen.phase = .closed

/-- An iterator has been advanced by a step of its generator. -/
structure Draws (ps : List (Pending σ)) (step : Stepper σ) (c : CursorId) (gen : Gen σ)
    (e : σ.StepEnd) (w : World σ) (x : Outcome (Option σ.Item) × World σ) : Prop where
  ending : w.ending? step (.advance c) = some e.1
  answer : x.1 = (Request.advance c).reply gen.flavor e.1
  gen? : x.2.gen? c.gen =
    some { gen with newborn := false, phase := e.1.phase, body := e.2, loan := .shared 0 }
  cursor : x.2.cursor? c =
    some ⟨(Cursor.report (e.1.outcome.map (·.map (·.complete gen.flavor)))).1, false⟩
  steps : x.2.stepsOf c.gen = w.stepsOf c.gen ++ [⟨.value none, .next, some e.1⟩]
  coherent : Coherent ps x.2

section Drawing

variable {ps : List (Pending σ)} {w : World σ} {c : CursorId} {gen : Gen σ}

theorem Poised.draws (poised : Poised ps c gen w) (engine : Engine σ) (d : Nat) :
    ∃ e, Draws ps (engine.stepper d) c gen e w
      (w.serve (engine.stepper d) (.request (.advance c))) := by
  obtain ⟨coherent, hc, found, suspended, free⟩ := poised
  let marked := w.modifyCursor c fun _ => ⟨false, true⟩
  let call : Call σ := ⟨c.gen, gen.flavor, gen.body, .value none, .next⟩
  have found' : marked.gen? c.gen = some gen := (gen?_modifyCursor ..).trans found
  have ready : Ready gen .next := ⟨suspended, nofun⟩
  have gate : w.gate (.advance c) =
      .stepping call (marked.embark c.gen gen.flavor (.value none) .next) := by
    rw [World.gate, gateAdvance_of_unused hc, gateNext_of_ready found' ready, depart, if_pos free]
    rfl
  obtain ⟨gen', departs, answer, gen?, course⟩ := coherent.stepped gate engine d
  cases departs.found.symm.trans found
  have entered : Coherent (⟨.advance c, call⟩ :: ps) _ := coherent.move (.enter gate)
  refine ⟨_, by rw [ending?, gate], answer, gen?, ?_, ?_,
    (coherent.serve (engine.discreet d) _).coherent⟩
  · rw [(enters_of_gate gate).serve]
    exact cursor?_advanced (entered.stepper engine d) _
  · rw [stepsOf, course, Taken.ofEvents_logged]
    exact List.reverse_cons

/-- After a value the iterator takes another step. -/
theorem Draws.poised {step : Stepper σ} {e : σ.StepEnd} {x : Outcome (Option σ.Item) × World σ}
    (draws : Draws ps step c gen e w x) {v : σ.Value} (yielded : e.1 = .yielded v) :
    Poised ps c { gen with newborn := false, phase := .suspended, body := e.2, loan := .shared 0 }
      x.2 := by
  have cursor := draws.cursor
  have gen? := draws.gen?
  rw [yielded] at cursor gen?
  have unfinished : (Cursor.report ((Ending.outcome (σ := σ) (.yielded v)).map
      (·.map (·.complete gen.flavor)))).1 = false := by
    cases gen.flavor <;> rfl
  rw [unfinished] at cursor
  exact ⟨draws.coherent, cursor, gen?, rfl, rfl⟩

/-- After any other ending only the end is left. -/
theorem Draws.spent {step : Stepper σ} {e : σ.StepEnd} {x : Outcome (Option σ.Item) × World σ}
    (draws : Draws ps step c gen e w x) (final : ∀ v, e.1 ≠ .yielded v) :
    Spent c gen.flavor x.2 := by
  refine ⟨⟨_, draws.cursor⟩, _, draws.gen?, rfl, ?_⟩
  obtain ⟨_ | _ | _ | _, _⟩ := e
  · exact absurd rfl (final _)
  all_goals rfl

/-- An iterator that has nothing but the end to report reports that, and is finished then. -/
theorem Spent.serve_advance {f : Flavor} (spent : Spent c f w) (step : Stepper σ) :
    w.serve step (.request (.advance c)) = (.returned none,
      (w.modifyCursor c fun _ => ⟨true, false⟩).record
        (.answered (.advance c) (.returned none))) := by
  obtain ⟨⟨finished, hc⟩, gen, found, -, closed⟩ := spent
  cases finished with
  | true =>
    rw [modifyCursor_eq_self hc rfl]
    simp [serve, perform, advance, hc]
  | false =>
    have found' := (gen?_modifyCursor w c (fun _ => ⟨false, true⟩) c.gen).trans found
    simp only [serve, perform, advance, hc, next_of_closed found' closed, report_exhausted,
      modifyCursor_modifyCursor, Bool.false_eq_true, if_false]
    rfl

theorem Spent.advanced {f : Flavor} (spent : Spent c f w) :
    Spent c f ((w.modifyCursor c fun _ => ⟨true, false⟩).record
      (.answered (.advance c) (.returned none))) := by
  obtain ⟨⟨finished, hc⟩, gen, found, flavor, closed⟩ := spent
  refine ⟨⟨true, ?_⟩, gen, ?_, flavor, closed⟩
  · rw [cursor?_record, cursor?_modifyCursor, if_pos rfl, hc, Option.map_some]
  · rw [gen?_record, gen?_modifyCursor, found]

end Drawing

end World

/-! ## Collections -/

section Runs

variable {step : Stepper σ} {c : CursorId} {w : World σ} {n : Nat}

theorem Program.run_collect_succ {a : Outcome (Option σ.Item)} {v : World σ}
    (served : w.serve step (.request (.advance c)) = (a, v)) :
    (collect c (n + 1)).run step w =
      match a with
      | .returned none => (.returned [], v)
      | .returned (some item) =>
        (((collect c n).run step v).1.map (item :: ·), ((collect c n).run step v).2)
      | .panicked p => (.panicked p, v)
      | .refused r => (.refused r, v) := by
  change Program.run step (.issue (.request (.advance c)) _) w = _
  simp only [Program.run, served]
  obtain (_ | item) | p | r := a
  · rfl
  · exact Program.run_bind step (collect c n) _ v
  · rfl
  · rfl

/-- Nothing is collected through an iterator that has nothing but the end to report. -/
theorem World.Spent.run_collect {f : Flavor} (spent : w.Spent c f) :
    (Program.collect c n).run step w = (.returned [],
      if n = 0 then w
      else (w.modifyCursor c fun _ => ⟨true, false⟩).record
        (.answered (.advance c) (.returned none))) := by
  cases n with
  | zero => rfl
  | succ n => rw [Program.run_collect_succ (spent.serve_advance step)]; rfl

theorem World.Spent.collected {f : Flavor} (spent : w.Spent c f) (step : Stepper σ) (n : Nat) :
    ((Program.collect c n).run step w).2.Spent c f ∧
      ((Program.collect c n).run step w).2.stepsOf c.gen = w.stepsOf c.gen := by
  rw [spent.run_collect]
  split
  · exact ⟨spent, rfl⟩
  · refine ⟨spent.advanced, ?_⟩
    rw [World.stepsOf, World.course_record, if_neg (by simp [Event.owner?])]
    rfl

end Runs

/-- A step that a collection takes. -/
def Taken.drawn (e : Ending σ.Value σ.Thrown) : Taken σ :=
  ⟨.value none, .next, some e⟩

/-- What a collection of a number of items comes to: either every step yields one, or one of them is
the last. -/
inductive World.Collects (ps : List (Pending σ)) (step : Stepper σ) (c : CursorId) (n : Nat)
    (gen : Gen σ) (w : World σ) (x : Outcome (List σ.Item) × World σ) : Prop
  | all (vs : List σ.Value) (length : vs.length = n)
      (yielded : ∀ i v, vs[i]? = some v → w.outcome? step c i = some (.yielded v))
      (items : x.1 = .returned (vs.map .ok))
      (steps : x.2.stepsOf c.gen = w.stepsOf c.gen ++ vs.map (.drawn ∘ .yielded))
      {gen' : Gen σ} (poised : x.2.Poised ps c gen') (flavor : gen'.flavor = gen.flavor)
      (newborn : gen'.newborn = true ↔ n = 0 ∧ gen.newborn = true)
  | stopped (vs : List σ.Value) (length : vs.length < n)
      (yielded : ∀ i v, vs[i]? = some v → w.outcome? step c i = some (.yielded v))
      {e : Ending σ.Value σ.Thrown} (last : w.outcome? step c vs.length = some e)
      (final : ∀ v, e ≠ .yielded v)
      (items : x.1 = (e.lastItems gen.flavor).map (vs.map .ok ++ ·))
      (steps : x.2.stepsOf c.gen =
        w.stepsOf c.gen ++ (vs.map (.drawn ∘ .yielded) ++ [.drawn e]))
      (spent : x.2.Spent c gen.flavor)

section Collections

variable {ps : List (Pending σ)} {step : Stepper σ} {c : CursorId} {w v : World σ} {gen : Gen σ}
  {n : Nat} {e : σ.StepEnd} {a : Outcome (Option σ.Item)}

/-- The first step is the last one. -/
theorem World.Draws.collects_last (served : w.serve step (.request (.advance c)) = (a, v))
    (draws : World.Draws ps step c gen e w (a, v)) (final : ∀ v, e.1 ≠ .yielded v) :
    w.Collects ps step c (n + 1) gen ((Program.collect c (n + 1)).run step w) := by
  have spent := draws.spent final
  obtain ⟨after, still⟩ := spent.collected step n
  obtain ⟨ending, answer, -, -, steps, -⟩ := draws
  obtain ⟨e, body⟩ := e
  dsimp only at answer steps final spent after still
  have stop {x : Outcome (List σ.Item) × World σ}
      (items : x.1 = (e.lastItems gen.flavor).map ([] ++ ·))
      (same : x.2.stepsOf c.gen = v.stepsOf c.gen) (spent : x.2.Spent c gen.flavor) :
      w.Collects ps step c (n + 1) gen x :=
    .stopped [] (Nat.succ_pos n) nofun ending final items (same.trans steps) spent
  rw [Program.run_collect_succ served]
  cases e with
  | yielded v => exact absurd rfl (final v)
  | returned v =>
    cases flavor : gen.flavor with
    | modern =>
      rw [flavor] at answer
      subst answer
      exact stop (by rw [flavor]; rfl) rfl spent
    | legacy =>
      rw [flavor] at answer
      subst answer
      refine stop ?_ still after
      rw [flavor, spent.run_collect]
      rfl
  | raised x =>
    subst answer
    refine stop ?_ still after
    rw [spent.run_collect]
    rfl
  | panicked p =>
    subst answer
    exact stop rfl rfl spent

/-- The first step yields an item, and others follow. -/
theorem World.Draws.collects_more {u : σ.Value} {gen₁ : Gen σ}
    (served : w.serve step (.request (.advance c)) = (a, v))
    (draws : World.Draws ps step c gen e w (a, v)) (yielded : e.1 = .yielded u)
    (flavor₁ : gen₁.flavor = gen.flavor) (started : gen₁.newborn = false)
    (rest : v.Collects ps step c n gen₁ ((Program.collect c n).run step v)) :
    w.Collects ps step c (n + 1) gen ((Program.collect c (n + 1)).run step w) := by
  obtain ⟨ending, answer, -, -, steps, -⟩ := draws
  rw [yielded] at ending answer steps
  have item : a = .returned (some (.ok u)) := by
    refine answer.trans ?_
    cases gen.flavor <;> rfl
  subst item
  have later (i : Nat) : w.outcome? step c (i + 1) = v.outcome? step c i := by
    simp only [outcome?, drawn, served]
  have outcomes {vs : List σ.Value}
      (yields : ∀ i v', vs[i]? = some v' → v.outcome? step c i = some (.yielded v')) (i : Nat)
      (v' : σ.Value) (hv : (u :: vs)[i]? = some v') : w.outcome? step c i = some (.yielded v') := by
    cases i with
    | zero =>
      cases hv
      exact ending
    | succ i => exact (later i).trans (yields i v' hv)
  rw [Program.run_collect_succ served]
  dsimp only at steps ⊢
  cases rest with
  | all vs length yields items steps' poised flavor newborn =>
    refine .all (u :: vs) (congrArg (· + 1) length) (outcomes yields) ?_ ?_ poised
      (flavor.trans flavor₁) ?_
    · rw [items]
      rfl
    · rw [steps', steps, List.append_assoc]
      rfl
    · simp [newborn, started]
  | @stopped vs length yields e' last final items steps' spent =>
    refine .stopped (u :: vs) (Nat.succ_lt_succ length) (outcomes yields)
      ((later vs.length).trans last) final ?_ ?_ (flavor₁ ▸ spent)
    · rw [items, flavor₁]
      cases e'.lastItems gen.flavor <;> rfl
    · rw [steps', steps, List.append_assoc]
      rfl

/-- **A collection goes on until it has enough, or until a step is the last one.** -/
theorem World.Poised.collects (engine : Engine σ) (d n : Nat) (poised : w.Poised ps c gen) :
    w.Collects ps (engine.stepper d) c n gen ((Program.collect c n).run (engine.stepper d) w) := by
  induction n generalizing w gen with
  | zero => exact .all [] rfl nofun rfl (List.append_nil _).symm poised rfl (by simp)
  | succ n ih =>
    obtain ⟨e, draws⟩ := poised.draws engine d
    rcases served : w.serve (engine.stepper d) (.request (.advance c)) with ⟨a, v⟩
    rw [served] at draws
    by_cases final : ∀ v, e.1 ≠ .yielded v
    · exact draws.collects_last served final
    · simp only [not_forall, not_not] at final
      obtain ⟨u, yielded⟩ := final
      have rest := ih (draws.poised yielded)
      refine draws.collects_more served yielded ?_ ?_ rest <;> rfl

end Collections

/-! ## With an iterator of its own -/

/-- What a program with an iterator of its own answers: what it came to, unless giving up the
iterator fails where the program did not. -/
def Outcome.unlessDropped {α : Type} : Outcome α → Outcome Unit → Outcome α
  | .returned a, .returned _ => .returned a
  | .returned _, .panicked p => .panicked p
  | .returned _, .refused r => .refused r
  | o, _ => o

section Taking

variable {ps : List (Pending σ)} {step : Stepper σ} {w : World σ} {g : GenId} {c : CursorId}
  {gen : Gen σ} {n : Nat}

theorem Program.run_take (made : (w.iterate g).1 = some c) :
    (take g n).run step w =
      let x := (collect c n).run step (w.iterate g).2
      let y := x.2.serve step (.request (.discard c))
      (x.1.unlessDropped y.1, y.2) := by
  have served : w.serve step (.iterate g) = (some c, (w.iterate g).2) := Prod.ext made rfl
  change Program.run step (.issue (.iterate g) _) w = _
  simp only [Program.run, served]
  refine (Program.run_bind step (collect c n) _ _).trans ?_
  generalize (collect c n).run step (w.iterate g).2 = x
  obtain ⟨o, v⟩ := x
  change Program.run step (.issue (.request (.discard c)) _) v = _
  simp only [Program.run]
  rcases v.serve step (.request (.discard c)) with ⟨a, u⟩
  cases o <;> cases a <;> rfl

/-- A new iterator over a generator is there and has not been used. -/
theorem Coherent.iterated (coherent : Coherent ps w) (found : w.gen? g = some gen) :
    ∃ c, c.gen = g ∧ (w.iterate g).1 = some c ∧ Coherent ps (w.iterate g).2 ∧
      (w.iterate g).2.cursor? c = some ⟨false, false⟩ ∧ (w.iterate g).2.gen? c.gen = some gen := by
  obtain ⟨slot, there, -⟩ := Option.map_eq_some_iff.mp found
  have made : (w.iterate g).1 = some ⟨g, slot.cursors.vacancy⟩ := by
    simp only [World.iterate, there]
  have coherent' : Coherent ps (w.iterate g).2 :=
    coherent.move (.serve (.iterate g) fun _ same => by cases same)
  refine ⟨_, rfl, made, coherent', ?_, ?_⟩
  · rw [World.cursor?_iterate, if_pos made]
  · rw [World.gen?_iterate, found]

theorem World.outcomes_eq (made : (w.iterate g).1 = some c) (i : Nat) :
    w.outcomes step g i = (w.iterate g).2.outcome? step c i := by
  rw [outcomes, made, Option.bind_some]

theorem World.stepsOf_iterate (w : World σ) (g h : GenId) :
    (w.iterate g).2.stepsOf h = w.stepsOf h :=
  congrArg (fun es => (Taken.ofEvents es).reverse) (course_serve (c := .iterate g) nofun h)

end Taking

/-- An iterator over a modern generator that is not in use. -/
structure World.Droppable (c : CursorId) (w : World σ) : Prop where
  cursor : ∃ finished, w.cursor? c = some ⟨finished, false⟩
  modern : ∃ gen, w.gen? c.gen = some gen ∧ gen.flavor = .modern

section Dropping

variable {ps : List (Pending σ)} {w : World σ} {c : CursorId} {gen : Gen σ}

theorem World.Poised.droppable (poised : w.Poised ps c gen) (modern : gen.flavor = .modern) :
    w.Droppable c :=
  ⟨⟨_, poised.cursor⟩, gen, poised.found, modern⟩

theorem World.Spent.droppable (spent : w.Spent c .modern) : w.Droppable c := by
  obtain ⟨cursor, gen, found, modern, -⟩ := spent
  exact ⟨cursor, gen, found, modern⟩

/-- Over a modern generator an iterator is given up without a trace. -/
theorem World.Droppable.serve (droppable : w.Droppable c) (step : Stepper σ) :
    w.serve step (.request (.discard c)) =
      (.returned (), (w.eraseCursor c).record (.answered (.discard c) (.returned ()))) := by
  obtain ⟨⟨finished, hc⟩, gen, found, modern⟩ := droppable
  exact serve_of_gate_answered (gate_discard_of_idle hc found (.inr modern)) step

theorem World.AnsweredAtOnce.stepsOf {r : Request σ} {a : r.Reply}
    (atOnce : w.AnsweredAtOnce r a) (step : Stepper σ) (g : GenId) :
    (w.serve step (.request r)).2.stepsOf g = w.stepsOf g := by
  rw [World.stepsOf, World.course, atOnce.history, List.filter_cons,
    if_neg (by simp [Event.owner?])]
  rfl

/-- The iterator is given up before it has finished, over a legacy generator. -/
theorem World.Poised.discard_legacy (poised : w.Poised ps c gen) (legacy : gen.flavor = .legacy)
    (engine : Engine σ) (d : Nat) :
    let y := w.serve (engine.stepper d) (.request (.discard c))
    (∃ gen', y.2.gen? c.gen = some gen' ∧ gen'.phase = .closed) ∧
    if gen.newborn = true then y.1 = .returned () ∧ y.2.stepsOf c.gen = w.stepsOf c.gen
    else ∃ e, y.1 = (Request.discard c).reply gen.flavor e ∧
      y.2.stepsOf c.gen = w.stepsOf c.gen ++ [⟨.empty, .close, some e⟩] := by
  obtain ⟨coherent, hc, found, suspended, free⟩ := poised
  refine ⟨closed_of_unfinished coherent hc found legacy (by simp [suspended]) d, ?_⟩
  cases newborn : gen.newborn with
  | true =>
    have givesUp := givesUp_newborn hc found legacy suspended newborn (engine.stepper d)
    exact ⟨givesUp.answer, givesUp.steps.trans (List.append_nil _)⟩
  | false =>
    have ready : Ready gen .close := ⟨suspended, fun _ => ⟨legacy, newborn⟩⟩
    have givesUp := coherent.givesUp_stepping hc found ready free engine d
    exact ⟨_, givesUp.answer, givesUp.steps⟩

end Dropping

section Runs

variable {α : Type} {engine : Engine σ} {limit : Nat} {p : Program σ α} {s : σ.Shared}
  {m : Moment σ α} {g : GenId} {gen : Gen σ}

/-- **What collecting items comes to.**  At every moment of every run items can be collected from a
generator that is suspended and whose body nobody holds.  Its steps are resumes without a value, and
they end as the outcomes say, one after the other.  Either the wanted number of them yield, and the
items are these values: then a modern generator is suspended, and a legacy one is closed, by one
more step unless no item was wanted and it is still newborn.  Or one of them is the last: then the
items are the values up to there and what the end adds to them, the generator is closed, and no step
follows. -/
theorem take_collects (h : Leads engine limit (.atTop p (.initial s)) m)
    (found : m.world.gen? g = some gen) (suspended : gen.phase = .suspended)
    (free : gen.loan = .shared 0) (d n : Nat) :
    let o := m.world.outcomes (engine.stepper d) g
    let x := (Program.take g n).run (engine.stepper d) m.world
    ∃ (vs : List σ.Value) (gen' : Gen σ), (∀ i v, vs[i]? = some v → o i = some (.yielded v)) ∧
      x.2.gen? g = some gen' ∧
      (vs.length = n ∧
        (match gen.flavor with
        | .modern => gen'.phase = .suspended ∧ x.1 = .returned (vs.map .ok) ∧
          x.2.stepsOf g = m.world.stepsOf g ++ vs.map (.drawn ∘ .yielded)
        | .legacy => gen'.phase = .closed ∧
          if n = 0 ∧ gen.newborn = true then
            x.1 = .returned [] ∧ x.2.stepsOf g = m.world.stepsOf g
          else ∃ e,
            x.1 = (match e with
              | .panicked q => .panicked q
              | _ => .returned (vs.map .ok)) ∧
            x.2.stepsOf g = m.world.stepsOf g ++ vs.map (.drawn ∘ .yielded) ++
              [⟨.empty, .close, some e⟩]) ∨
      vs.length < n ∧ gen'.phase = .closed ∧ ∃ e, o vs.length = some e ∧ (∀ v, e ≠ .yielded v) ∧
        x.1 = (e.lastItems gen.flavor).map (vs.map .ok ++ ·) ∧
        x.2.stepsOf g = m.world.stepsOf g ++ vs.map (.drawn ∘ .yielded) ++ [.drawn e]) := by
  intro o x
  obtain ⟨c, rfl, made, coherent', fresh, found'⟩ := (coherent_of_leads h).iterated found
  have poised : (m.world.iterate c.gen).2.Poised m.pending c gen :=
    ⟨coherent', fresh, found', suspended, free⟩
  have outcomes (i : Nat) : o i = (m.world.iterate c.gen).2.outcome? (engine.stepper d) c i :=
    World.outcomes_eq made i
  have before := m.world.stepsOf_iterate c.gen c.gen
  have collects := poised.collects engine d n
  have taken : x = _ := Program.run_take made
  rw [taken]
  dsimp only
  generalize (Program.collect c n).run (engine.stepper d) (m.world.iterate c.gen).2 = y
    at collects ⊢
  cases collects with
  | @all vs length yielded items steps gen' poised' flavor newborn =>
    have yields := fun i v hv => (outcomes i).trans (yielded i v hv)
    rw [before] at steps
    cases kind : gen.flavor with
    | modern =>
      rw [(poised'.droppable (flavor.trans kind)).serve (engine.stepper d), items]
      refine ⟨vs, gen', yields, ?_, .inl ⟨length, poised'.suspended, rfl, steps⟩⟩
      rw [World.gen?_record, World.gen?_eraseCursor, poised'.found]
    | legacy =>
      obtain ⟨⟨gen'', found'', closed⟩, last⟩ :=
        poised'.discard_legacy (flavor.trans kind) engine d
      refine ⟨vs, gen'', yields, found'', .inl ⟨length, closed, ?_⟩⟩
      by_cases fresh : n = 0 ∧ gen.newborn = true
      · obtain rfl : vs = [] := List.eq_nil_of_length_eq_zero (length.trans fresh.1)
        rw [if_pos (newborn.mpr fresh)] at last
        rw [if_pos fresh, last.1, last.2, items, steps]
        exact ⟨rfl, List.append_nil _⟩
      · rw [if_neg (fresh ∘ newborn.mp)] at last
        obtain ⟨e, answer, after⟩ := last
        rw [if_neg fresh, answer, after, items, steps]
        refine ⟨e, ?_, rfl⟩
        cases e <;> rfl
  | @stopped vs length yielded e last final items steps spent =>
    obtain ⟨⟨finished, hc⟩, gen', found', -, closed⟩ := spent
    have gone := World.discard_of_closed found' closed hc rfl
    refine ⟨vs, gen', fun i v hv => (outcomes i).trans (yielded i v hv),
      (gone.gen? (engine.stepper d) c.gen).trans found', .inr ⟨length, closed, e,
      (outcomes vs.length).trans last, final, ?_, ?_⟩⟩
    · rw [gone.reply, items]
      cases e.lastItems gen.flavor <;> rfl
    · rw [gone.stepsOf, steps, before, List.append_assoc]

end Runs

/-- Bodies that yield once and raise an error then. -/
def dwindles : Engine errand := fun _ body _ _ =>
  match body with
  | .yields => .done (.yielded 5, .raises)
  | _ => .done (.raised 7, body)

/-- A legacy generator of such a body has just been made. -/
def dwindling : Moment errand Unit :=
  (Moment.atTop (.spawnAll [(.legacy, .yields)] (.done ())) (.initial ())).after dwindles 9 1

theorem take_collects_dwindling :
    let x := (Program.take 0 3).run (dwindles.stepper 9) dwindling.world
    x.1 = .returned [.ok 5, .error (.raised 7)] ∧
    x.2.stepsOf 0 = [.drawn (.yielded 5), .drawn (.raised 7)] ∧
    ∃ gen', x.2.gen? 0 = some gen' ∧ gen'.phase = .closed := by
  have found : dwindling.world.gen? 0 =
    some ⟨.suspended, true, .legacy, (), .yields, .shared 0⟩ := rfl
  have first : dwindling.world.outcomes (dwindles.stepper 9) 0 0 = some (.yielded 5) := rfl
  have second : dwindling.world.outcomes (dwindles.stepper 9) 0 1 = some (.raised 7) := rfl
  obtain ⟨vs, gen', yields, found', ends⟩ := take_collects (.after 1) found rfl rfl 9 3
  have short : vs.length ≤ 1 := by
    refine Nat.le_of_not_lt fun long => ?_
    have another := yields 1 vs[1] (List.getElem?_eq_getElem long)
    cases second.symm.trans another
  rcases ends with ⟨length, -⟩ | ⟨-, closed, e, last, final, items, steps⟩
  · omega
  match vs with
  | [] =>
    cases first.symm.trans last
    exact absurd rfl (final 5)
  | [v] =>
    cases first.symm.trans (yields 0 v rfl)
    cases second.symm.trans last
    exact ⟨items, steps, gen', found', closed⟩

end Resumable
