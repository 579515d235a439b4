import Resumable.Proofs.Answers
import Resumable.Proofs.Closed
import Resumable.Proofs.Past

/-!
# Calls on a generator that is being stepped

A method call on a generator whose step is in progress is turned away with a fault that depends on
its method and the flavor alone, and that is all that happens (`World.Rebuffs`).  So such calls
cannot be told apart from no calls: a program that makes more of them and does not listen to the
answers (`Program.Padded`) goes through the same moments, but for the answers on record
(`Moment.Echo`).  The proof follows the padded run.  Each of its moves is either a move of the plain
run too, or a call that is turned away, during which the plain run stands still.
-/

namespace Resumable

variable {σ : Signature} {α β ε : Type}

/-! ## Lists with insertions -/

/-- A list has become another by insertions. -/
inductive Interspersed (P : ε → Prop) : List ε → List ε → Prop
  | nil : Interspersed P [] []
  | keep (e : ε) {es es' : List ε} (rest : Interspersed P es es') :
      Interspersed P (e :: es) (e :: es')
  | insert {e : ε} {es es' : List ε} (he : P e) (rest : Interspersed P es es') :
      Interspersed P es (e :: es')

namespace Interspersed

variable {P : ε → Prop} {es es' : List ε}

theorem refl (es : List ε) : Interspersed P es es := by
  induction es with
  | nil => exact .nil
  | cons e es ih => exact .keep e ih

/-- What is never inserted is not affected. -/
theorem filter_eq (h : Interspersed P es es') {q : ε → Bool} (never : ∀ e, P e → q e = false) :
    es'.filter q = es.filter q := by
  induction h with
  | nil => rfl
  | keep e rest ih => simp only [List.filter_cons, ih]
  | insert he rest ih => rw [List.filter_cons_of_neg (by simp [never _ he]), ih]

end Interspersed

/-! ## Calls that are turned away -/

/-- The fault of a method call on a generator that is being stepped. -/
def Mode.rebuff {E : Type} (f : Flavor) : Mode → Fault E
  | .close =>
    match f with
    | .modern => .mismatch ⟨.legacy, "close"⟩
    | .legacy => .nesting
  | _ => .nesting

/-- The answer to a method call that is turned away. -/
def Request.rebuff (g : GenId) (f : Flavor) :
    (m : Method σ.Value σ.Thrown) → (Request.of (σ := σ) g m).Reply
  | .next _ => .returned (.error (Mode.next.rebuff f))
  | .throw _ => .returned (.error (Mode.throw.rebuff f))
  | .close => .returned (.error (Mode.close.rebuff f))

/-- A method call has been turned away. -/
inductive Event.Rebuff : Event σ → Prop
  | intro (g : GenId) (f : Flavor) (m : Method σ.Value σ.Thrown) :
      Rebuff (.answered (.of g m) (Request.rebuff g f m))

namespace World

/-- All method calls on a generator are turned away, and nothing else happens. -/
structure Rebuffs (w : World σ) (g : GenId) (f : Flavor) : Prop where
  next : ∀ v, w.AnsweredAtOnce (.next g v) (.returned (.error .nesting))
  throw : ∀ e, w.AnsweredAtOnce (.throw g e) (.returned (.error .nesting))
  close : w.AnsweredAtOnce (.close g) (.returned (.error
    (match f with
    | .modern => .mismatch ⟨.legacy, "close"⟩
    | .legacy => .nesting)))
  invoke : ∀ (m : Method σ.Value σ.Thrown) (step : Stepper σ),
    (Program.invoke g m).run step w =
      (.returned (.error (m.mode.rebuff f)), w.record (.answered (.of g m) (Request.rebuff g f m)))

section Rebuffed

variable {w : World σ} {g : GenId} {gen : Gen σ}

theorem gate_of_running (found : w.gen? g = some gen) (running : gen.phase = .running)
    (started : gen.newborn = false) (m : Method σ.Value σ.Thrown) :
    w.gate (.of g m) = .answered (Request.rebuff g gen.flavor m) w := by
  cases m with
  | next v => simp only [Request.of, gate, gateNext, found, running]; rfl
  | throw e => simp only [Request.of, gate, gateThrow, found, running]; rfl
  | close =>
    simp only [Request.of, gate, gateClose, found, running, started, Request.rebuff]
    cases gen.flavor <;> rfl

theorem answeredAtOnce_of_gate {r : Request σ} {a : r.Reply} (gate : w.gate r = .answered a w) :
    w.AnsweredAtOnce r a := by
  refine answeredAtOnce_of_perform w ?_ rfl (fun _ => rfl) fun _ _ => rfl
  intro step
  rw [perform_eq_through, gate]
  rfl

/-- **A running generator turns all method calls away.** -/
theorem rebuffs_of_running (found : w.gen? g = some gen) (running : gen.phase = .running)
    (started : gen.newborn = false) : w.Rebuffs g gen.flavor := by
  have gate := gate_of_running found running started
  refine ⟨?_, ?_, ?_, ?_⟩
  · intro v
    exact answeredAtOnce_of_gate (gate (.next v))
  · intro e
    exact answeredAtOnce_of_gate (gate (.throw e))
  · exact answeredAtOnce_of_gate (gate .close)
  · intro m step
    simp only [Program.invoke_eq, Program.run, serve_of_gate_answered (gate m) step]
    cases m <;> rfl

end Rebuffed

end World

/-- A generator whose step is in progress is running and newborn no longer. -/
theorem Coherent.running_of_mem {ps : List (Pending σ)} {w : World σ} {g : GenId}
    (coherent : Coherent ps w) (hg : g ∈ ps.map (·.call.gen)) :
    ∃ gen, w.gen? g = some gen ∧ gen.phase = .running ∧ gen.newborn = false := by
  obtain ⟨pd, hpd, rfl⟩ := List.mem_map.mp hg
  obtain ⟨gen, found, running, -⟩ := (coherent.attends pd hpd).running
  have course := (coherent.settled _ gen found).course
  rw [running] at course
  exact ⟨gen, found, running, course.started⟩

/-! ## Worlds that differ in rebuffs -/

/-- Two worlds are the same, but for answers on record that turned calls away. -/
structure World.Echoes (w w' : World σ) : Prop where
  slots : w'.slots = w.slots
  shared : w'.shared = w.shared
  history : Interspersed Event.Rebuff w.history w'.history

namespace World

variable {w w' : World σ}

theorem Echoes.refl (w : World σ) : w.Echoes w :=
  ⟨rfl, rfl, .refl w.history⟩

theorem Echoes.record (echoes : w.Echoes w') (e : Event σ) : (w.record e).Echoes (w'.record e) :=
  ⟨echoes.slots, echoes.shared, .keep e echoes.history⟩

theorem Echoes.insert (echoes : w.Echoes w') {e : Event σ} (rebuff : e.Rebuff) :
    w.Echoes (w'.record e) :=
  ⟨echoes.slots, echoes.shared, .insert rebuff echoes.history⟩

theorem Echoes.upTo (echoes : w.Echoes w') : w.UpTo (Interspersed Event.Rebuff) w' :=
  ⟨echoes.slots, echoes.shared, echoes.history⟩

theorem UpTo.echoes (upTo : w.UpTo (Interspersed Event.Rebuff) w') : w.Echoes w' :=
  ⟨upTo.slots, upTo.shared, upTo.past⟩

/-- What happens to a single generator is the same. -/
theorem Echoes.course (echoes : w.Echoes w') (g : GenId) : w'.course g = w.course g := by
  refine echoes.history.filter_eq ?_
  rintro _ ⟨⟩
  rfl

theorem Echoes.answered {r : Request σ} {a : r.Reply} {v : World σ} (echoes : w.Echoes w')
    (gate : w.gate r = .answered a v) : ∃ v', w'.gate r = .answered a v' ∧ v.Echoes v' := by
  have gated := echoes.upTo.gate .keep r
  rw [gate] at gated
  generalize w'.gate r = x at gated
  cases gated with
  | answered _ after => exact ⟨_, rfl, after.echoes⟩

theorem Echoes.stepping {r : Request σ} {call : Call σ} {v : World σ} (echoes : w.Echoes w')
    (gate : w.gate r = .stepping call v) : ∃ v', w'.gate r = .stepping call v' ∧ v.Echoes v' := by
  have gated := echoes.upTo.gate .keep r
  rw [gate] at gated
  generalize w'.gate r = x at gated
  cases gated with
  | stepping _ after => exact ⟨_, rfl, after.echoes⟩

theorem Echoes.serve (echoes : w.Echoes w') {c : Command σ} (plain : ∀ r, c ≠ .request r)
    (step : Stepper σ) :
    (w'.serve step c).1 = (w.serve step c).1 ∧ (w.serve step c).2.Echoes (w'.serve step c).2 := by
  obtain ⟨same, after⟩ := echoes.upTo.serve .keep plain step step
  exact ⟨same, after.echoes⟩

theorem Echoes.conclude (echoes : w.Echoes w') (pd : Pending σ) (e : σ.StepEnd) :
    (pd.conclude e w').1 = (pd.conclude e w).1 ∧
      (pd.conclude e w).2.Echoes (pd.conclude e w').2 := by
  obtain ⟨same, after⟩ := echoes.upTo.conclude .keep pd.request pd.call e
  refine ⟨same, ?_⟩
  simp only [Pending.conclude, same]
  exact after.echoes.record _

end World

/-! ## Programs with more calls -/

/-- A program makes additional method calls on generators of a list, and goes on in the same way
whatever they answer. -/
inductive Program.Padded (gs : List GenId) : Program σ α → Program σ α → Prop
  | done (a : α) : Padded gs (.done a) (.done a)
  | issue {c : Command σ} {k k' : c.Reply → Program σ α} (rest : ∀ a, Padded gs (k a) (k' a)) :
      Padded gs (.issue c k) (.issue c k')
  | insert {g : GenId} (hg : g ∈ gs) (m : Method σ.Value σ.Thrown) {p : Program σ α}
      {k' : (Request.of g m).Reply → Program σ α} (rest : ∀ a, Padded gs p (k' a)) :
      Padded gs p (.issue (.request (.of g m)) k')

namespace Program.Padded

variable {gs : List GenId} {p p' : Program σ α}

theorem refl (p : Program σ α) : Padded gs p p := by
  induction p with
  | done a => exact .done a
  | issue c k ih => exact .issue ih

/-- Calls through the dispatch of methods count as well. -/
theorem invoke {g : GenId} (padded : Padded gs p p') (hg : g ∈ gs)
    (m : Method σ.Value σ.Thrown) : Padded gs p ((Program.invoke g m).bind fun _ => p') := by
  rw [invoke_eq]
  exact .insert hg m fun _ => padded

end Program.Padded

/-- The generators of the steps in progress, innermost first. -/
def Stack.active (s : Stack σ α) : List GenId :=
  s.pending.map (·.call.gen)

/-- Programs below the innermost step differ in additional calls. -/
inductive Stack.Echo : Stack σ α → Stack σ α → Prop
  | base {pd : Pending σ} {k k' : pd.request.Reply → Program σ α}
      (rest : ∀ a, (k a).Padded [] (k' a)) : Echo (.base ⟨pd, k⟩) (.base ⟨pd, k'⟩)
  | push {pd : Pending σ} {k k' : pd.request.Reply → Program σ σ.StepEnd} {s s' : Stack σ α}
      (below : Echo s s') (rest : ∀ a, (k a).Padded s.active (k' a)) :
      Echo (.push ⟨pd, k⟩ s) (.push ⟨pd, k'⟩ s')

/-- Two moments differ in additional calls, those to come and those on record. -/
inductive Moment.Echo : Moment σ α → Moment σ α → Prop
  | atTop {p p' : Program σ α} {w w' : World σ} (program : p.Padded [] p')
      (world : w.Echoes w') : Echo (.atTop p w) (.atTop p' w')
  | inStep {s s' : Stack σ α} {p p' : Program σ σ.StepEnd} {w w' : World σ} (below : s.Echo s')
      (program : p.Padded s.active p') (world : w.Echoes w') :
      Echo (.inStep s p w) (.inStep s' p' w')

/-- Commands of programs that differ in additional calls come to the same thing. -/
inductive Reaction.Echo (gs : List GenId) : Reaction σ β → Reaction σ β → Prop
  | goOn {p p' : Program σ β} {w w' : World σ} (program : p.Padded gs p') (world : w.Echoes w') :
      Echo gs (.goOn p w) (.goOn p' w')
  | enter {pd : Pending σ} {k k' : pd.request.Reply → Program σ β} {w w' : World σ}
      (rest : ∀ a, (k a).Padded gs (k' a)) (world : w.Echoes w') :
      Echo gs (.enter ⟨pd, k⟩ w) (.enter ⟨pd, k'⟩ w')

theorem World.Echoes.react {gs : List GenId} {w w' : World σ} (echoes : w.Echoes w')
    {c : Command σ} {k k' : c.Reply → Program σ β} (rest : ∀ a, (k a).Padded gs (k' a)) :
    Reaction.Echo gs (w.react c k) (w'.react c k') := by
  have plain (hc : ∀ r, c ≠ .request r)
      (react : ∀ u : World σ, ∀ k : c.Reply → Program σ β, u.react c k =
        .goOn (k (u.serve Stepper.never c).1) (u.serve Stepper.never c).2) :
      Reaction.Echo gs (w.react c k) (w'.react c k') := by
    obtain ⟨same, after⟩ := echoes.serve hc Stepper.never
    rw [react, react, same]
    exact .goOn (rest _) after
  cases c with
  | request r =>
    simp only [World.react]
    cases gate : w.gate r with
    | answered a v =>
      obtain ⟨v', gate', after⟩ := echoes.answered gate
      rw [gate']
      exact .goOn (rest a) (after.record _)
    | stepping call v =>
      obtain ⟨v', gate', after⟩ := echoes.stepping gate
      rw [gate']
      exact .enter rest after
  | _ => exact plain (by simp) fun _ _ => rfl

namespace Stack.Echo

variable {s s' : Stack σ α}

theorem pending (echo : s.Echo s') : s'.pending = s.pending := by
  induction echo with
  | base => rfl
  | push below rest ih => exact congrArg (_ :: ·) ih

theorem active (echo : s.Echo s') : s'.active = s.active :=
  congrArg (List.map _) echo.pending

theorem height (echo : s.Echo s') : s'.height = s.height := by
  induction echo with
  | base => rfl
  | push below rest ih => exact congrArg (· + 1) ih

theorem leave (echo : s.Echo s') {w w' : World σ} (world : w.Echoes w') (e : σ.StepEnd) :
    (s.leave e w).Echo (s'.leave e w') := by
  cases echo with
  | @base pd k k' rest =>
    obtain ⟨same, after⟩ := world.conclude pd e
    simp only [Stack.leave]
    rw [same]
    exact .atTop (rest _) after
  | @push pd k k' s s' below rest =>
    obtain ⟨same, after⟩ := world.conclude pd e
    simp only [Stack.leave]
    rw [same]
    exact .inStep below (rest _) after

end Stack.Echo

/-! ## Padded runs -/

/-- In every step of a run, a body makes additional calls on generators that are being stepped
then. -/
def Engine.Pads (engine engine' : Engine σ) (limit : Nat) (m₀ : Moment σ α) : Prop :=
  ∀ m pd ps, Leads engine' limit m₀ m → m.pending = pd :: ps →
    (engine pd.call.gen pd.call.body pd.call.input pd.call.mode).Padded m.active
      (engine' pd.call.gen pd.call.body pd.call.input pd.call.mode)

section Runs

variable {engine engine' : Engine σ} {limit : Nat} {p : Program σ α} {s : σ.Shared}
  {m m' m₁' : Moment σ α}

theorem padded_bodyAt {gs : List GenId} {call : Call σ} (limit depth : Nat)
    (padded : (engine call.gen call.body call.input call.mode).Padded gs
      (engine' call.gen call.body call.input call.mode)) :
    (engine.bodyAt limit depth call).Padded gs (engine'.bodyAt limit depth call) := by
  unfold Engine.bodyAt
  split
  · exact padded
  · exact .done _

/-- A reaction leads to moments that echo. -/
private theorem echo_react {gs : List GenId} {x x' : Reaction σ β}
    {here here' : Program σ β → World σ → Moment σ α} {under under' : Frame σ β → Stack σ α}
    (echo : Reaction.Echo gs x x')
    (echo_here : ∀ {p p' v v'}, Program.Padded gs p p' → v.Echoes v' →
      (here p v).Echo (here' p' v'))
    (echo_under : ∀ {pd : Pending σ} {k k' : pd.request.Reply → Program σ β},
      (∀ a, (k a).Padded gs (k' a)) → (under ⟨pd, k⟩).Echo (under' ⟨pd, k'⟩))
    (under_pending : ∀ f, ∃ ps, (under' f).pending = f.toPending :: ps)
    (pads : ∀ pd ps, (Moment.react engine' limit here' under' x').pending = pd :: ps →
      (engine pd.call.gen pd.call.body pd.call.input pd.call.mode).Padded
        (Moment.react engine' limit here' under' x').active
        (engine' pd.call.gen pd.call.body pd.call.input pd.call.mode)) :
    (Moment.react engine limit here under x).Echo (Moment.react engine' limit here' under' x') := by
  cases echo with
  | goOn program world => exact echo_here program world
  | @enter pd k k' w w' rest world =>
    have below := echo_under rest
    obtain ⟨ps, pending⟩ := under_pending ⟨pd, k'⟩
    have padded := padded_bodyAt limit (under ⟨pd, k⟩).height (pads pd ps pending)
    refine .inStep below ?_ world
    rw [← below.active, below.height]
    exact padded

/-- **Each move of the padded run is a move of the plain run or a call that is turned away.** -/
theorem Moment.Echo.next (echo : m.Echo m') (coherent : Coherent m'.pending m'.world)
    (next : m'.next? engine' limit = some m₁')
    (pads : ∀ pd ps, m₁'.pending = pd :: ps →
      (engine pd.call.gen pd.call.body pd.call.input pd.call.mode).Padded m₁'.active
        (engine' pd.call.gen pd.call.body pd.call.input pd.call.mode)) :
    m.Echo m₁' ∨ ∃ m₁, m.next? engine limit = some m₁ ∧ m₁.Echo m₁' := by
  cases echo with
  | atTop program world =>
    cases program with
    | done a => cases next
    | issue rest =>
      cases next
      exact .inr ⟨_, rfl, echo_react (world.react rest) .atTop .base (fun _ => ⟨_, rfl⟩) pads⟩
    | insert hg => cases hg
  | @inStep _ s' _ _ _ _ below program world =>
    cases program with
    | done e =>
      cases next
      exact .inr ⟨_, rfl, below.leave world e⟩
    | issue rest =>
      cases next
      exact .inr ⟨_, rfl, echo_react (world.react rest) (.inStep below) (.push below)
        (fun _ => ⟨_, rfl⟩) pads⟩
    | @insert g hg m _ k' rest =>
      -- the plain run stands still while the call is turned away
      left
      have mem : g ∈ s'.active := below.active ▸ hg
      obtain ⟨gen, found, running, started⟩ := coherent.running_of_mem mem
      have gate := World.gate_of_running found running started m
      simp only [Moment.world] at gate
      simp only [Moment.next?, World.react, gate, Option.some.injEq] at next
      subst next
      exact .inStep below (rest _) (world.insert (.intro g gen.flavor m))

/-- Every moment of the padded run echoes one of the plain run. -/
theorem exists_echo (pads : engine.Pads engine' limit (.atTop p (.initial s)))
    (h : Leads engine' limit (.atTop p (.initial s)) m') :
    ∃ m, Leads engine limit (.atTop p (.initial s)) m ∧ m.Echo m' := by
  induction h with
  | refl => exact ⟨_, .refl, .atTop (.refl p) (.refl _)⟩
  | @tail m' m₁' h next ih =>
    obtain ⟨m, leads, echo⟩ := ih
    have later : Leads engine' limit (.atTop p (.initial s)) m₁' := h.tail next
    have coherent := coherent_of_leads h
    have moved := echo.next coherent next fun pd ps => pads m₁' pd ps later
    rcases moved with still | ⟨m₁, next', echo'⟩
    · exact ⟨m, leads, still⟩
    · exact ⟨m₁, leads.trans (.head next' .refl), echo'⟩

/-- A run has one end. -/
theorem Leads.eq_of_stuck {m₀ : Moment σ α} (h : Leads engine limit m₀ m)
    (h' : Leads engine limit m₀ m') (stuck : m.next? engine limit = none)
    (stuck' : m'.next? engine limit = none) : m = m' := by
  have unique : Relator.RightUnique fun m m' : Moment σ α => m.next? engine limit = some m' := by
    intro m m₁ m₂ h₁ h₂
    exact Option.some.inj (h₁.symm.trans h₂)
  rcases Relation.ReflTransGen.total_of_right_unique unique h h' with later | later
  · rcases later.cases_head with same | ⟨m₁, next, -⟩
    · exact same
    · cases stuck.symm.trans next
  · rcases later.cases_head with same | ⟨m₁, next, -⟩
    · exact same.symm
    · cases stuck'.symm.trans next

/-- **Calling a generator that is being stepped makes no difference.**  At every moment of every
run all method calls on the generators whose steps are in progress are turned away.  A run whose
bodies make any number of such calls besides what they do, and do not listen to the answers, goes
through the same moments to the same result: generators, iterators and the shared state are the
same, and the history has nothing more than the answers to these calls. -/
theorem reentry_transparent (engine : Engine σ) (limit : Nat) (p : Program σ α) (s : σ.Shared) :
    (∀ m, Leads engine limit (.atTop p (.initial s)) m → ∀ g ∈ m.active,
      ∃ gen, m.world.gen? g = some gen ∧ m.world.Rebuffs g gen.flavor) ∧
    ∀ engine', engine.Pads engine' limit (.atTop p (.initial s)) →
      (engine'.run limit p (.initial s)).1 = (engine.run limit p (.initial s)).1 ∧
      (engine.run limit p (.initial s)).2.Echoes (engine'.run limit p (.initial s)).2 ∧
      (∀ g, (engine'.run limit p (.initial s)).2.gen? g =
          (engine.run limit p (.initial s)).2.gen? g ∧
        (engine'.run limit p (.initial s)).2.course g =
          (engine.run limit p (.initial s)).2.course g) ∧
      ∀ m', Leads engine' limit (.atTop p (.initial s)) m' →
        ∃ m, Leads engine limit (.atTop p (.initial s)) m ∧ m.Echo m' := by
  constructor
  · intro m h g hg
    obtain ⟨gen, found, running, started⟩ := (coherent_of_leads h).running_of_mem hg
    exact ⟨gen, found, World.rebuffs_of_running found running started⟩
  intro engine' pads
  let x := engine.run limit p (.initial s)
  let y := engine'.run limit p (.initial s)
  have ends : y.1 = x.1 ∧ x.2.Echoes y.2 := by
    obtain ⟨m, h, echo⟩ := exists_echo pads (leads_run engine' limit p (.initial s))
    cases echo with
    | atTop program world =>
      cases program
      have same := h.eq_of_stuck (leads_run engine limit p (.initial s)) rfl rfl
      injection same with result after
      injection result with result
      rw [after] at world
      exact ⟨result, world⟩
  obtain ⟨result, echoes⟩ := ends
  refine ⟨result, echoes, ?_, fun m' => exists_echo pads⟩
  intro g
  refine ⟨?_, echoes.course g⟩
  rw [World.gen?, echoes.slots]
  rfl

end Runs

/-- Bodies that besides their errand try to close the generator that they belong to, and to throw
into it. -/
def pesters : Engine errand := fun g body input mode =>
  (Program.invoke g .close).bind fun _ =>
    .issue (.request (.throw g 7)) fun _ => errands g body input mode

/-- A ring of three generators, each of which resumes the next one. -/
def threeInARing : Program errand Unit :=
  .spawnAll [(.modern, .asks 1), (.legacy, .guards 2), (.modern, .asks 0)] (.resume 0)

theorem reentry_transparent_ring :
    ringMoment.world.Rebuffs 2 .modern ∧
    errands.Pads pesters 9 (.atTop threeInARing (.initial ())) ∧
    (errands.run 9 threeInARing (.initial ())).2.Echoes
      (pesters.run 9 threeInARing (.initial ())).2 := by
  obtain ⟨rebuffs, same⟩ := reentry_transparent errands 9 threeInARing ()
  have pads : errands.Pads pesters 9 (.atTop threeInARing (.initial ())) := by
    intro m pd ps _ pending
    have own : pd.call.gen ∈ m.active := by simp [Moment.active, pending]
    have plain : Program.Padded m.active
        (errands pd.call.gen pd.call.body pd.call.input pd.call.mode)
        (errands pd.call.gen pd.call.body pd.call.input pd.call.mode) := .refl _
    have thrown := Program.Padded.insert own (.throw (7 : Nat)) fun _ => plain
    exact thrown.invoke own .close
  obtain ⟨gen, found, rebuffs⟩ := rebuffs _ (.after 6) 2 (.head _)
  cases found
  exact ⟨rebuffs, pads, (same pesters pads).2.1⟩

end Resumable
