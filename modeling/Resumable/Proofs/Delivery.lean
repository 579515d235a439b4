import Resumable.Proofs.Answers
import Resumable.Proofs.StepSequence
import Resumable.Proofs.Trail

/-!
# Where the values of a generator go

A caller receives a value with the answer to a request: a completion of a resume carries one, and so
does an item of an iterator.  `World.deliveries` lists the values received for a generator together
with the requests that they came by.  On the other side stand the steps that ended on the way
(`Moment.endings`), each of which has at most one value to hand out (`Pending.product?`).
`deliveries_eq_products`: the two lists are the same at every moment, so no value is lost, repeated,
moved or given to anyone but the caller who asked for the step.
-/

namespace Resumable

variable {σ : Signature} {α : Type}

/-! ## Values received -/

/-- The value that an answer to a resume carries. -/
def Outcome.carried? {V F : Type} : Outcome (Except F (Completion V)) → Option V
  | .returned (.ok c) => c.value?
  | _ => none

/-- The value that the answer to a method call carries. -/
def Outcome.handed? {V F : Type} : Outcome (Except F (Option (Completion V))) → Option V
  | .returned (.ok (some c)) => c.value?
  | _ => none

/-- The value that a caller receives with an answer. -/
def Request.received? : (r : Request σ) → r.Reply → Option σ.Value
  | .next _ _, a => a.carried?
  | .throw _ _, a => a.carried?
  | .advance _, .returned (some (.ok v)) => some v
  | _, _ => none

/-- The value received by an event, with its request. -/
def Event.delivery? (g : GenId) : Event σ → Option (Request σ × σ.Value)
  | .answered r a => if r.target = g then (r.received? a).map (r, ·) else none
  | _ => none

/-- The values that callers received for a generator, oldest first, with their requests. -/
def World.deliveries (w : World σ) (g : GenId) : List (Request σ × σ.Value) :=
  (w.dialogue.filterMap (·.delivery? g)).reverse

/-! ## Values handed out by steps -/

/-- The value that a step hands out as it ends.  Nobody is told the value of a step that is to close
its generator, and an iterator withholds the value that a modern generator returns. -/
def Pending.product? (pd : Pending σ) : Ending σ.Value σ.Thrown → Option σ.Value
  | .yielded v => if pd.call.mode = .close then none else some v
  | .returned v =>
    if pd.call.mode = .close then none
    else if pd.request.cursor?.isSome ∧ pd.call.flavor = .modern then none
    else some v
  | _ => none

/-- The step of a generator that ends at a moment. -/
def Moment.ending? (g : GenId) (m : Moment σ α) : Option (Pending σ × Ending σ.Value σ.Thrown) :=
  match m.act? with
  | some (.finish pd e) => if pd.call.gen = g then some (pd, e.1) else none
  | _ => none

/-- The steps of a generator that ended at the moments of a list, oldest first. -/
def Moment.endings (g : GenId) (ms : List (Moment σ α)) :
    List (Pending σ × Ending σ.Value σ.Thrown) :=
  (ms.filterMap (·.ending? g)).reverse

theorem Moment.endings_cons (g : GenId) (m : Moment σ α) (ms : List (Moment σ α)) :
    endings g (m :: ms) = endings g ms ++ (m.ending? g).toList := by
  rw [endings, List.filterMap_cons]
  cases m.ending? g <;> simp [endings]

/-- A step that has ended, as its generator went through it. -/
def Taken.done? (t : Taken σ) :
    Option (Input σ.Value σ.Thrown × Mode × Ending σ.Value σ.Thrown) :=
  t.ending.map fun e => (t.input, t.mode, e)

/-! ## Answers and their values -/

/-- The answer after a step carries what the step hands out. -/
theorem Pending.received?_reply (pd : Pending σ) (mode : pd.request.mode = pd.call.mode)
    (e : Ending σ.Value σ.Thrown) :
    pd.request.received? (pd.request.reply pd.call.flavor e) = pd.product? e := by
  obtain ⟨r, g, f, body, input, m⟩ := pd
  obtain rfl : r.mode = m := mode
  cases r <;> cases e <;> cases f <;> rfl

/-- A method call receives what its request does. -/
theorem received?_handOn (g : GenId) (call : Method σ.Value σ.Thrown)
    (a : (Request.of (σ := σ) g call).Reply) :
    (Request.handOn (σ := σ) g call a).handed? = (Request.of g call).received? a := by
  cases call <;> obtain (_ | _) | _ | _ := a <;> rfl

section Gates

variable {w w' : World σ} {g : GenId}

theorem carried?_of_depart {gen : Gen σ} {input : Input σ.Value σ.Thrown} {mode : Mode}
    {o : Outcome (σ.Answer (Completion σ.Value))}
    (departs : World.depart g gen input mode w = .answered o w') : o.carried? = none := by
  unfold World.depart at departs
  split at departs
  · cases departs
  · cases departs
    rfl

theorem carried?_of_gateNext {v : Option σ.Value} {o : Outcome (σ.Answer (Completion σ.Value))}
    (gate : w.gateNext g v = .answered o w') : o.carried? = none := by
  cases found : w.gen? g with
  | none =>
    simp only [World.gateNext, found] at gate
    cases gate
    rfl
  | some gen =>
    by_cases ready : World.Ready gen .next
    · rw [World.gateNext_of_ready found ready] at gate
      exact carried?_of_depart gate
    · rw [World.gateNext_of_not_ready found ready] at gate
      cases gate
      unfold Gen.answerNext
      split
      · cases gen.flavor <;> rfl
      · rfl

theorem carried?_of_gateThrow {e : σ.Thrown} {o : Outcome (σ.Answer (Completion σ.Value))}
    (gate : w.gateThrow g e = .answered o w') : o.carried? = none := by
  cases found : w.gen? g with
  | none =>
    simp only [World.gateThrow, found] at gate
    cases gate
    rfl
  | some gen =>
    by_cases ready : World.Ready gen .throw
    · rw [World.gateThrow_of_ready found ready] at gate
      exact carried?_of_depart gate
    · rw [World.gateThrow_of_not_ready found ready] at gate
      cases gate
      rfl

/-- An item has a value only if the completion has one. -/
theorem received?_report {c : CursorId} {o : Outcome (σ.Answer (Completion σ.Value))}
    (nothing : o.carried? = none) :
    (Request.advance c : Request σ).received? (Cursor.report o).2 = none := by
  rcases o with (f | ⟨v, d⟩ | v) | p | r
  · cases f <;> rfl
  · obtain rfl : v = none := nothing
    cases d <;> rfl
  · cases nothing
  · rfl
  · rfl

/-- **Nobody receives a value without a step.** -/
theorem received?_of_gate {r : Request σ} {a : r.Reply} (gate : w.gate r = .answered a w') :
    r.received? a = none := by
  cases r with
  | next g v => exact carried?_of_gateNext gate
  | throw g e => exact carried?_of_gateThrow gate
  | close g => rfl
  | advance c =>
    by_cases unused : w.cursor? c = some ⟨false, false⟩
    · obtain ⟨o, v, answered, told⟩ :=
        Passage.map_eq_answered ((World.gateAdvance_of_unused unused).symm.trans gate)
      obtain rfl : (Cursor.report o).2 = a := congrArg Prod.fst told
      exact received?_report (carried?_of_gateNext answered)
    · cases (World.gateAdvance_of_used unused).symm.trans gate
      unfold World.advanceUsed
      split
      · rfl
      · split <;> rfl
  | discard c => rfl

end Gates

/-! ## From step to step -/

theorem World.deliveries_congr {w w' : World σ} (h : w'.dialogue = w.dialogue) (g : GenId) :
    w'.deliveries g = w.deliveries g := by
  rw [World.deliveries, h, World.deliveries]

/-- An answer delivers the value that it carries. -/
theorem World.deliveries_answered {w w' : World σ} {r : Request σ} {a : r.Reply}
    (h : w'.dialogue = .answered r a :: w.dialogue) (g : GenId) :
    w'.deliveries g =
      w.deliveries g ++ ((Event.answered r a).delivery? g).toList := by
  rw [World.deliveries, h, List.filterMap_cons]
  cases (Event.answered r a).delivery? g <;> simp [World.deliveries]

/-- What happens without a step adds none. -/
theorem World.Idle.ofEvents {w : World σ} {g : GenId} {o : Option (Gen σ)} {es : List (Event σ)}
    (idle : w.Idle g o es) : Taken.ofEvents es = Taken.ofEvents (w.course g) := by
  cases idle <;> rfl

namespace Moment

/-- What callers received and what steps handed out grow together. -/
theorem Turn.deliveries {m m' : Moment σ α} (turn : m.Turn m')
    (coherent : Coherent m.pending m.world) (g : GenId) :
    m'.world.deliveries g = m.world.deliveries g ++
      ((m.ending? g).bind fun x => (x.1.product? x.2).map (x.1.request, ·)).toList := by
  have silent (same : m'.world.deliveries g = m.world.deliveries g) (none : m.ending? g = none) :
      m'.world.deliveries g = m.world.deliveries g ++
        ((m.ending? g).bind fun x => (x.1.product? x.2).map (x.1.request, ·)).toList := by
    rw [same, none]
    simp
  cases turn with
  | @serve c act plain pending world =>
    refine silent ?_ (by simp [ending?, act])
    rw [world, World.deliveries, World.dialogue_serve plain, List.filterMap_append]
    cases m.world.makes c <;> rfl
  | @answer r a w act gate pending world =>
    refine silent ?_ (by simp [ending?, act])
    rw [world, World.deliveries_answered (w.dialogue_record (.answered r a)),
      World.deliveries_congr (World.dialogue_of_gate gate)]
    simp [Event.delivery?, received?_of_gate gate]
  | @enter r call act gate pending =>
    refine silent ?_ (by simp [ending?, act])
    obtain ⟨gen, departs⟩ := World.departs_of_gate gate
    exact World.deliveries_congr departs.dialogue g
  | @leave pd e act pending world =>
    rw [pending] at coherent
    obtain ⟨target, mode, -⟩ := coherent.attends pd List.mem_cons_self
    obtain ⟨gen, found, running, lands⟩ := coherent.lands e
    have received := pd.received?_reply mode e.1
    rw [world, World.deliveries_answered lands.dialogue, World.reply_conclude]
    simp only [Event.delivery?, ending?, act, target, received]
    split <;> rfl

/-- The steps that end are those of the course. -/
theorem Turn.stepsOf {m m' : Moment σ α} (turn : m.Turn m')
    (coherent : Coherent m.pending m.world) (g : GenId) :
    (m'.world.stepsOf g).filterMap Taken.done? = (m.world.stepsOf g).filterMap Taken.done? ++
      ((m.ending? g).map fun x => (x.1.call.input, x.1.call.mode, x.2)).toList := by
  have silent (same : Taken.ofEvents (m'.world.course g) = Taken.ofEvents (m.world.course g))
      (none : m.ending? g = none) :
      (m'.world.stepsOf g).filterMap Taken.done? = (m.world.stepsOf g).filterMap Taken.done? ++
        ((m.ending? g).map fun x => (x.1.call.input, x.1.call.mode, x.2)).toList := by
    rw [World.stepsOf, same, none]
    simp [World.stepsOf]
  cases turn with
  | @serve c act plain pending world =>
    have quiet := World.quiet_of_serve m.world plain
    exact silent (world ▸ (quiet.idle g).ofEvents) (by simp [ending?, act])
  | @answer r a w act gate pending world =>
    have quiet := (World.quiet_of_gate gate).record_answered r a
    exact silent (world ▸ (quiet.idle g).ofEvents) (by simp [ending?, act])
  | @enter r call act gate pending =>
    obtain ⟨gen, departs⟩ := World.departs_of_gate gate
    rw [World.stepsOf, departs.course]
    split <;> simp [World.stepsOf, Taken.ofEvents, Taken.done?, ending?, act]
  | @leave pd e act pending world =>
    rw [pending] at coherent
    obtain ⟨gen, found, running, lands⟩ := coherent.lands e
    obtain ⟨es, begun⟩ := (coherent.attends pd List.mem_cons_self).begun
    rw [world, World.stepsOf, lands.course]
    by_cases hg : pd.call.gen = g
    · subst hg
      rw [if_pos rfl, Taken.ofEvents_logged, World.stepsOf, begun]
      simp [Taken.ofEvents, Taken.done?, ending?, act]
    · simp [World.stepsOf, ending?, act, hg]

end Moment

section Runs

variable {engine : Engine σ} {limit : Nat} {p : Program σ α} {s : σ.Shared} {m : Moment σ α}
  {ms : List (Moment σ α)}

theorem Trail.deliveries (trail : Trail engine limit (.atTop p (.initial s)) ms m) (g : GenId) :
    m.world.deliveries g = (Moment.endings g ms).filterMap fun x =>
      (x.1.product? x.2).map (x.1.request, ·) := by
  induction trail with
  | start => rfl
  | @move ms m m' trail next ih =>
    rw [(Moment.turn_of_next? next).deliveries (coherent_of_leads trail.leads) g, ih,
      Moment.endings_cons, List.filterMap_append]
    cases m.ending? g with
    | none => rfl
    | some x => cases hx : x.1.product? x.2 <;> simp [hx]

theorem Trail.stepsOf (trail : Trail engine limit (.atTop p (.initial s)) ms m) (g : GenId) :
    (Moment.endings g ms).map (fun x => (x.1.call.input, x.1.call.mode, x.2)) =
      (m.world.stepsOf g).filterMap Taken.done? := by
  induction trail with
  | start => rfl
  | @move ms m m' trail next ih =>
    rw [(Moment.turn_of_next? next).stepsOf (coherent_of_leads trail.leads) g, ← ih,
      Moment.endings_cons, List.map_append]
    cases m.ending? g <;> rfl

/-- The steps that ended were asked for by requests to their generator. -/
theorem Trail.attended (trail : Trail engine limit (.atTop p (.initial s)) ms m) {g : GenId}
    {x : Pending σ × Ending σ.Value σ.Thrown} (hx : x ∈ Moment.endings g ms) :
    x.1.request.target = g ∧ x.1.request.mode = x.1.call.mode ∧
      m.world.Known g x.1.call.flavor := by
  induction trail with
  | start => cases hx
  | @move ms m m' trail next ih =>
    have coherent := coherent_of_leads trail.leads
    have move := move_of_next? next
    suffices h : x.1.request.target = g ∧ x.1.request.mode = x.1.call.mode ∧
        m.world.Known g x.1.call.flavor from
      ⟨h.1, h.2.1, h.2.2.move coherent move⟩
    rw [Moment.endings_cons, List.mem_append] at hx
    rcases hx with earlier | now
    · exact ih earlier
    rw [Option.mem_toList, Moment.ending?] at now
    split at now
    · next pd e act =>
      obtain ⟨ps, pending⟩ := Moment.pending_of_finish act
      obtain ⟨target, mode, ⟨gen, found, -, flavor⟩, -⟩ :=
        coherent.attends pd (pending ▸ List.mem_cons_self)
      split at now
      · next own =>
        cases now
        subst own
        exact ⟨target, mode, flavor ▸ World.known_of_gen? found⟩
      · cases now
    · cases now

/-- **Every value that a step hands out is received once, and nothing else is.**  At every moment of
every run, the values that callers have received for a generator, in the order of time and each with
the request that it came by, are those of the steps of the generator that have ended, each with the
request that the step was asked for by.  A step that was to close hands out nothing, and the value
that a modern generator returns is withheld by an iterator.  A method call receives what its request
does. -/
theorem deliveries_eq_products (trail : Trail engine limit (.atTop p (.initial s)) ms m)
    (g : GenId) :
    (m.world.deliveries g = (Moment.endings g ms).filterMap fun x =>
      (x.1.product? x.2).map (x.1.request, ·)) ∧
    (Moment.endings g ms).map (fun x => (x.1.call.input, x.1.call.mode, x.2)) =
      (m.world.stepsOf g).filterMap Taken.done? ∧
    (∀ x ∈ Moment.endings g ms, x.1.request.target = g ∧ x.1.request.mode = x.1.call.mode ∧
      ∀ gen, m.world.gen? g = some gen → gen.flavor = x.1.call.flavor) ∧
    ∀ (call : Method σ.Value σ.Thrown) (step : Stepper σ) (w : World σ),
      ((Program.invoke g call).run step w).1.handed? =
        (Request.of g call).received? (w.serve step (.request (.of g call))).1 := by
  refine ⟨trail.deliveries g, trail.stepsOf g, ?_, ?_⟩
  · intro x hx
    obtain ⟨target, mode, -, known⟩ := trail.attended hx
    refine ⟨target, mode, ?_⟩
    intro gen found
    simpa only [found] using known
  · intro call step w
    rw [Program.invoke_eq]
    simp only [Program.run]
    exact received?_handOn g call _

end Runs

/-- A generator is drawn from and resumed, and another one returns to its iterator. -/
def mixed : Moment errand Unit :=
  .atTop (.spawnAll [(.legacy, .yields), (.modern, .draws 5)] (.issue (.iterate 0) fun _ =>
    .issue (.request (.advance ⟨0, 0⟩)) fun _ => .issue (.request (.next 0 none)) fun _ =>
      .issue (.iterate 1) fun _ => .issue (.request (.advance ⟨1, 0⟩)) fun _ =>
        .issue (.request (.close 0)) fun _ => .done ())) (.initial ())

theorem deliveries_eq_products_mixed :
    ∃ ms, Trail errands 9 mixed ms (mixed.after errands 9 13) ∧
      (mixed.after errands 9 13).world.deliveries 0 = [(.advance ⟨0, 0⟩, 0), (.next 0 none, 0)] ∧
      ((Moment.endings 0 ms).filterMap fun x => (x.1.product? x.2).map (x.1.request, ·)) =
        [(.advance ⟨0, 0⟩, 0), (.next 0 none, 0)] ∧
      ((Moment.endings 1 ms).filterMap fun x => (x.1.product? x.2).map (x.1.request, ·)) = [] := by
  have later : Leads errands 9 mixed (mixed.after errands 9 13) := .after 13
  obtain ⟨ms, trail⟩ := later.trail
  have received := (deliveries_eq_products trail 0).1
  have withheld := (deliveries_eq_products trail 1).1
  exact ⟨ms, trail, rfl, received.symm, withheld.symm⟩

end Resumable
