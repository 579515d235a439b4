import Resumable.Proofs.Gates
import Resumable.Proofs.Lifetime

/-!
# The log as a word

What generators write and what their bodies do make up the trace of a world (`World.trace`), in the
order of time.  The trace of a run is a word of a grammar (`Word`): a step is a bracket that opens
with the record that announces it and closes with the record of how it ended, with the complete
brackets of all steps that its body asked for in between.  In the middle of a run the brackets of
the steps in progress are open (`Spans`).  The proof goes from move to move: each appends to the
trace what it writes, and that is a word by itself, or it opens or closes one bracket.
-/

namespace Resumable

variable {σ : Signature} {α : Type}

/-! ## Traces -/

/-- Whether an event is written by a generator or done by its body. -/
def Event.traced : Event σ → Bool
  | .opened _ => false
  | .answered _ _ => false
  | .noted _ => false
  | _ => true

/-- What generators wrote and what their bodies did, oldest first. -/
def World.trace (w : World σ) : List (Event σ) :=
  (w.history.filter (·.traced)).reverse

theorem World.trace_append {w w' : World σ} (es : List (Event σ))
    (history : w'.history = es ++ w.history) :
    w'.trace = w.trace ++ (es.filter (·.traced)).reverse := by
  rw [trace, history, List.filter_append, List.reverse_append, trace]

theorem World.mem_trace {w : World σ} {e : Event σ} (traced : e.traced = true) :
    e ∈ w.trace ↔ e ∈ w.history := by
  simp [trace, traced]

theorem World.trace_answered (w : World σ) (r : Request σ) (a : r.Reply) :
    (w.record (.answered r a)).trace = w.trace := rfl

theorem Event.filter_traced_logged (rs : List Record) (g : GenId) :
    (rs.map (logged (σ := σ) g)).filter (·.traced) = rs.map (.logged g) := by
  simp [List.filter_map, Function.comp_def, traced]

/-! ## Words -/

/-- The records that close a step, oldest first. -/
def Ending.closing {V E : Type} (mode : Mode) : Ending V E → List Record
  | .yielded _ =>
    if mode = .close then [.stepDone .suspended, .forceClose] else [.stepDone .suspended]
  | .returned _ => [.stepDone .closed]
  | .raised _ => [.stepRaised .closed]
  | .panicked _ => []

theorem Ending.reverse_reports {V E : Type} (mode : Mode) (e : Ending V E) :
    (e.reports mode).reverse = e.closing mode := by
  cases e <;> cases mode <;> rfl

/-- The well-nested words of events. -/
inductive Word : List (Event σ) → Prop
  | nil : Word []
  /-- A step is announced, begins, does what it does, ends, and is reported. -/
  | step {g : GenId} {f : Flavor} {input : Input σ.Value σ.Thrown} {mode : Mode}
      {inner rest : List (Event σ)} (suits : input.Suits mode) (within : Word inner)
      (e : Ending σ.Value σ.Thrown) (after : Word rest) :
      Word (.logged g (.resume f mode) :: .began g input mode ::
        (inner ++ .ended g e :: ((e.closing mode).map (.logged g) ++ rest)))
  /-- A step is announced, but readers hold the body. -/
  | stalled {g : GenId} {f : Flavor} {mode : Mode} {rest : List (Event σ)} (after : Word rest) :
      Word (.logged g (.resume f mode) :: .conflict g :: rest)
  | shut {g : GenId} {rest : List (Event σ)} (after : Word rest) :
      Word (.logged g .closeNewborn :: rest)
  | forwarded {g : GenId} {mode : Mode} {f : Flavor} {rest : List (Event σ)} (after : Word rest) :
      Word (.logged g (.forward mode f) :: rest)
  /-- The generator of an iterator that was given up failed to close. -/
  | closeFailed {g : GenId} {rest : List (Event σ)} (after : Word rest) :
      Word (.logged g .closeFailed :: rest)

namespace Word

variable {es es' : List (Event σ)}

theorem append (first : Word es) (second : Word es') : Word (es ++ es') := by
  induction first with
  | nil => exact second
  | step suits within e after _ ih => simpa using Word.step suits within e ih
  | stalled after ih => exact .stalled ih
  | shut after ih => exact .shut ih
  | forwarded after ih => exact .forwarded ih
  | closeFailed after ih => exact .closeFailed ih

theorem of_failures {rs : List Record} (failures : ∀ r ∈ rs, r = .closeFailed) (g : GenId) :
    Word (rs.map (Event.logged (σ := σ) g)) := by
  induction rs with
  | nil => exact .nil
  | cons r rs ih =>
    obtain ⟨rfl, rest⟩ := List.forall_mem_cons.mp failures
    exact .closeFailed (ih rest)

theorem not_mem_running (word : Word es) (g : GenId) :
    .logged g (.stepDone .running) ∉ es ∧ .logged g (.stepRaised .running) ∉ es := by
  induction word with
  | nil => exact ⟨nofun, nofun⟩
  | step suits within e after ih ih' =>
    cases e with
    | yielded v =>
      simp only [Ending.closing]
      split <;> simp [ih, ih']
    | _ => simp [Ending.closing, ih, ih']
  | stalled after ih => simp [ih]
  | shut after ih => simp [ih]
  | forwarded after ih => simp [ih]
  | closeFailed after ih => simp [ih]

end Word

/-- The traces of moments with the given steps in progress, innermost first: each has an open
bracket, inside that of the next one. -/
inductive Spans : List (Pending σ) → List (Event σ) → Prop
  | outside {es : List (Event σ)} (word : Word es) : Spans [] es
  | inside {pd : Pending σ} {ps : List (Pending σ)} {es inner : List (Event σ)}
      (below : Spans ps es) (suits : pd.call.input.Suits pd.call.mode) (within : Word inner) :
      Spans (pd :: ps) (es ++ .logged pd.call.gen (.resume pd.call.flavor pd.call.mode) ::
        .began pd.call.gen pd.call.input pd.call.mode :: inner)

namespace Spans

variable {pd : Pending σ} {ps : List (Pending σ)} {es es' : List (Event σ)}

theorem append (spans : Spans ps es) (word : Word es') : Spans ps (es ++ es') := by
  cases spans with
  | outside before => exact .outside (before.append word)
  | inside below suits within => simpa using Spans.inside below suits (within.append word)

theorem close (spans : Spans (pd :: ps) es) (e : Ending σ.Value σ.Thrown) :
    Spans ps (es ++ .ended pd.call.gen e ::
      (e.closing pd.call.mode).map (.logged pd.call.gen)) := by
  cases spans with
  | inside below suits within =>
    have bracket := Word.step (g := pd.call.gen) (f := pd.call.flavor) suits within e .nil
    simpa using below.append bracket

theorem not_mem_running (spans : Spans ps es) (g : GenId) :
    .logged g (.stepDone .running) ∉ es ∧ .logged g (.stepRaised .running) ∉ es := by
  induction spans with
  | outside word => exact word.not_mem_running g
  | inside below suits within ih => simp [ih, within.not_mem_running g]

end Spans

/-! ## From move to move -/

section Moves

variable {ps ps' : List (Pending σ)} {w w' : World σ}

theorem World.word_of_written (w : World σ) (c : Command σ) :
    Word ((w.written c).filter (·.traced)).reverse := by
  cases c with
  | iterate g =>
    simp only [written]
    cases (w.iterate g).1 <;> exact .nil
  | announce g mode f => exact .forwarded .nil
  | _ => exact .nil

theorem World.Halts.word {r : Request σ} (halts : Halts r w w') :
    ∃ es, w'.trace = w.trace ++ es ∧ Word es := by
  cases halts with
  | refused refused alike rs failures direct history =>
    refine ⟨_, trace_append _ history, ?_⟩
    rw [Event.filter_traced_logged, ← List.map_reverse]
    exact .of_failures (fun x hx => failures x (List.mem_reverse.mp hx)) _
  | shut found legacy newborn unused history =>
    exact ⟨_, trace_append [_] history, .shut .nil⟩
  | stalled found ready unused history =>
    exact ⟨_, trace_append [_, _] history, .stalled .nil⟩

theorem Request.reports_eq_closeFailed (r : Request σ) (e : Ending σ.Value σ.Thrown) :
    ∀ x ∈ r.reports e, x = .closeFailed := by
  cases r <;> cases e <;> simp [reports]

/-- Where a step ends, its bracket is closed before its request reports anything. -/
theorem World.Lands.trace {pd : Pending σ} {e : σ.StepEnd} {gen : Gen σ}
    (lands : Lands pd e gen w w') :
    w'.trace = w.trace ++ (.ended pd.call.gen e.1 ::
      (e.1.closing pd.call.mode).map (.logged pd.call.gen)) ++
      (pd.request.reports e.1).reverse.map (.logged pd.call.gen) := by
  obtain ⟨a, history⟩ := lands.history
  rw [World.trace, history, List.filter_cons_of_neg (by simp [Event.traced]), List.filter_append,
    Event.filter_traced_logged, List.filter_cons_of_pos rfl, ← Ending.reverse_reports]
  simp [World.trace]

/-- **Each move appends a word, or opens or closes a bracket.** -/
theorem Coherent.spans (coherent : Coherent ps w) (move : Move ps w ps' w')
    (spans : Spans ps w.trace) : Spans ps' w'.trace := by
  cases move with
  | serve c plain =>
    rw [World.trace_append _ (World.history_serve plain)]
    exact spans.append (w.word_of_written c)
  | answer gate =>
    obtain ⟨es, trace, word⟩ := (World.halts_of_gate gate).word
    rw [World.trace_answered, trace]
    exact spans.append word
  | enter gate =>
    obtain ⟨gen, departs⟩ := World.departs_of_gate gate
    rw [World.trace_append [_, _] departs.history, ← departs.flavor]
    exact .inside spans departs.suits .nil
  | leave pd e =>
    -- an iterator that is dropped may report a failure after the step, outside the bracket
    obtain ⟨gen, -, -, lands⟩ := coherent.lands e
    rw [lands.trace]
    refine (spans.close e.1).append (.of_failures ?_ _)
    intro x hx
    exact pd.request.reports_eq_closeFailed e.1 x (List.mem_reverse.mp hx)

end Moves

/-! ## One generator's records -/

theorem Ending.not_mem_reports {V E : Type} (mode : Mode) (e : Ending V E) :
    .closeNewborn ∉ e.reports mode ∧ ∀ f m, .resume f m ∉ e.reports mode := by
  cases e <;> cases mode <;> simp [reports, record?, phase]

namespace Course

variable {g : GenId} {f f' : Flavor} {ph : Phase} {n : Bool} {mode : Mode} {es : List (Event σ)}

theorem flavor_of_mem (course : Course g f ph n es) (mem : .logged g (.resume f' mode) ∈ es) :
    f' = f := by
  induction course with
  | fresh => cases mem
  | enter h hi hc ih | stall h mode ih =>
    simp only [List.mem_cons, reduceCtorEq, false_or] at mem
    rcases mem with same | mem
    · cases same
      rfl
    · exact ih mem
  | @leave es input mode' h e ih =>
    rcases List.mem_append.mp mem with mem | mem
    · obtain ⟨r, reported, ⟨⟩⟩ := List.mem_map.mp mem
      exact absurd reported ((e.not_mem_reports mode').2 _ _)
    · exact ih ((List.mem_cons.mp mem).resolve_left nofun)
  | shut h ih => exact ih ((List.mem_cons.mp mem).resolve_left nofun)

/-- To be closed newborn is all that happens to a generator. -/
theorem eq_of_mem_closeNewborn (course : Course g f ph n es)
    (mem : .logged g .closeNewborn ∈ es) : ph = .closed ∧ es = [.logged g .closeNewborn] := by
  induction course with
  | fresh => cases mem
  | enter h hi hc ih | stall h mode ih =>
    simp only [List.mem_cons, reduceCtorEq, Event.logged.injEq, and_false, false_or] at mem
    cases (ih mem).1
  | @leave es input mode h e ih =>
    rcases List.mem_append.mp mem with mem | mem
    · obtain ⟨r, reported, ⟨⟩⟩ := List.mem_map.mp mem
      exact absurd reported (e.not_mem_reports mode).1
    · cases (ih ((List.mem_cons.mp mem).resolve_left nofun)).1
  | shut h ih =>
    obtain ⟨-, -, rfl⟩ := h.of_newborn
    exact ⟨rfl, rfl⟩

end Course

/-! ## Calls that are declined -/

/-- An answer that a generator gives without doing anything: that it is running, finished or of
another flavor. -/
def Outcome.Declines {V E : Type} : Outcome (Except (Fault E) (Option (Completion V))) → Prop
  | .returned (.error f) => f.raised? = none
  | .returned (.ok x) => x = some (.result .sentinel)
  | _ => False

namespace World

variable {w w' : World σ} {g : GenId} {mode : Mode}

theorem Halted.eq_of_declines {o : Outcome (σ.Answer α)} {f : α → Option (Completion σ.Value)}
    (halted : Halted g mode w o w') (plain : mode = .close → ∀ x, f x = none)
    (declines : (o.map (·.map f)).Declines) : w' = w := by
  cases halted with
  | refused => rfl
  | shut closing found legacy newborn x => cases (plain closing x).symm.trans declines
  | stalled => cases declines

theorem eq_of_declines {call : Method σ.Value σ.Thrown} {a : (Request.of (σ := σ) g call).Reply}
    (gate : w.gate (.of g call) = .answered a w')
    (declines : (Request.handOn (σ := σ) g call a).Declines) : w' = w := by
  cases call with
  | next x => exact (halted_gateNext gate).eq_of_declines nofun declines
  | throw x => exact (halted_gateThrow gate).eq_of_declines nofun declines
  | close => exact (halted_gateClose gate).eq_of_declines (fun _ _ => rfl) declines

theorem not_declines_reply (call : Method σ.Value σ.Thrown) (f : Flavor)
    (e : Ending σ.Value σ.Thrown) :
    ¬ (Request.handOn (σ := σ) g call ((Request.of (σ := σ) g call).reply f e)).Declines := by
  cases call <;> cases e <;> cases f <;> nofun

/-- **A method call that is declined does nothing.** -/
theorem serve_of_declines (step : Stepper σ) (call : Method σ.Value σ.Thrown) :
    let x := w.serve step (.request (.of g call))
    (Request.handOn (σ := σ) g call x.1).Declines →
      x.2 = w.record (.answered (.of g call) x.1) := by
  intro x declines
  cases gate : w.gate (.of g call) with
  | answered a w' =>
    have served : x = _ := serve_of_gate_answered gate step
    rw [served] at declines ⊢
    rw [eq_of_declines gate declines]
  | stepping c w' =>
    -- the answer is then that of a step
    have served : x = _ := (enters_of_gate gate).serve step
    rw [served, reply_conclude] at declines
    exact absurd declines (not_declines_reply call _ _)

end World

/-! ## Runs -/

section Runs

variable {engine : Engine σ} {limit : Nat} {p : Program σ α} {s : σ.Shared}
  {m : Moment σ α}

theorem spans_of_leads (h : Leads engine limit (.atTop p (.initial s)) m) :
    Spans m.pending m.world.trace :=
  (h.invariant (P := fun ps w => Coherent ps w ∧ Spans ps w.trace)
    (fun move kept => ⟨kept.1.move move, kept.1.spans move kept.2⟩)
    ⟨Coherent.start s, .outside .nil⟩).2

theorem word_of_run (engine : Engine σ) (limit : Nat) (p : Program σ α) (s : σ.Shared) :
    Word (engine.run limit p (.initial s)).2.trace := by
  have spans := spans_of_leads (leads_run engine limit p (.initial s))
  cases spans with
  | outside word => exact word

/-- **The log of a run is well nested.**  At every moment of every run the trace is a word but for
the brackets of the steps in progress, and that of the whole run is a word.  A step is announced
with the flavor of its generator, no record names the state running, and a generator that was closed
newborn has no other record or step, before or after.  A method call that a generator declines does
nothing. -/
theorem log_well_nested (h : Leads engine limit (.atTop p (.initial s)) m) :
    Spans m.pending m.world.trace ∧
    Word (engine.run limit p (.initial s)).2.trace ∧
    (∀ g gen, m.world.gen? g = some gen → ∀ m', Leads engine limit m m' →
      ∀ f mode, .logged g (.resume f mode) ∈ m'.world.trace → f = gen.flavor) ∧
    (∀ g, .logged g (.stepDone .running) ∉ m.world.trace ∧
      .logged g (.stepRaised .running) ∉ m.world.trace) ∧
    (∀ g, .logged g .closeNewborn ∈ m.world.trace →
      m.world.course g = [.logged g .closeNewborn]) ∧
    ∀ g call (step : Stepper σ),
      let x := m.world.serve step (.request (.of g call))
      (Program.invoke g call).run step m.world = (Request.handOn g call x.1, x.2) ∧
      ((Request.handOn (σ := σ) g call x.1).Declines →
        x.2 = m.world.record (.answered (.of g call) x.1)) := by
  have coherent := coherent_of_leads h
  have spans := spans_of_leads h
  refine ⟨spans, word_of_run engine limit p s, ?_, spans.not_mem_running, ?_, ?_⟩
  · intro g gen found m' later f mode mem
    have known := World.known_of_leads coherent found later
    obtain ⟨ph, n, course⟩ := known.course (coherent_of_leads (h.trans later))
    exact course.flavor_of_mem ((World.mem_course rfl).mpr ((World.mem_trace rfl).mp mem))
  · intro g mem
    obtain ⟨f, ph, n, course⟩ := lawful_of_leads h g
    have own := (World.mem_course rfl).mpr ((World.mem_trace rfl).mp mem)
    exact (course.eq_of_mem_closeNewborn own).2
  · intro g call step
    exact ⟨by rw [Program.invoke_eq]; rfl, World.serve_of_declines step call⟩

end Runs

/-- A generator closes, in its step, another one that yields instead of cleaning up. -/
def forcing : Program errand Unit :=
  .spawnAll [(.legacy, .yields), (.modern, .closes 0)]
    (.issue (.request (.next 0 none)) fun _ => .resume 1)

theorem log_well_nested_forcing :
    let m := (Moment.atTop forcing (.initial ())).after errands 9 6
    m.active = [0, 1] ∧ Spans m.pending m.world.trace ∧
    (errands.run 9 forcing (.initial ())).2.trace =
      [.logged 0 (.resume .legacy .next), .began 0 (.value none) .next, .ended 0 (.yielded 0),
        .logged 0 (.stepDone .suspended),
        .logged 1 (.resume .modern .next), .began 1 (.value none) .next,
          .logged 0 (.resume .legacy .close), .began 0 .empty .close, .ended 0 (.yielded 0),
          .logged 0 (.stepDone .suspended), .logged 0 .forceClose,
        .ended 1 (.yielded 1), .logged 1 (.stepDone .suspended)] ∧
    Word (errands.run 9 forcing (.initial ())).2.trace := by
  intro m
  obtain ⟨spans, word, -⟩ := log_well_nested (m := m) (.after 6)
  exact ⟨rfl, spans, rfl, word⟩

end Resumable
