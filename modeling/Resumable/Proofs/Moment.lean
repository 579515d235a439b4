import Mathlib.Logic.Relation
import Resumable.Proofs.Passage

/-!
# The moments of a run

A run seen command by command.  A `Moment` is a point at which the top level or a body is about to
act: what is left of the program that acts, below it the steps in progress, innermost first, each
with the request that led to it and what its caller goes on with, and the world as it is.
`Moment.next?` goes to the next moment, and `Leads` to any later one.  `leads_run`: from its first
moment a program gets to the end that running it gives, so the moments of a run are those that its
first moment leads to.

Seen from the world, the move from one moment to the next is one of four (`Move`), whatever the
programs and the engine: a command is answered at once, a request that steps no body is answered, a
step is entered, or the innermost step ends.  What all moves keep holds at every moment of every run
(`Leads.invariant`).
-/

namespace Resumable

variable {σ : Signature} {α β : Type}

/-! ## Steps in progress -/

/-- A step in progress and the request that led to it. -/
structure Pending (σ : Signature) where
  request : Request σ
  call : Call σ

/-- Answers the request of a step that has ended, on record. -/
def Pending.conclude (pd : Pending σ) (e : σ.StepEnd) (w : World σ) :
    pd.request.Reply × World σ :=
  let (a, w) := w.conclude pd.request pd.call e
  (a, w.record (.answered pd.request a))

/-- A step in progress with what its caller goes on with. -/
structure Frame (σ : Signature) (β : Type) extends Pending σ where
  resume : request.Reply → Program σ β

/-- The steps in progress, innermost first.  The outermost one was entered from the top level, and
every other one by the body of the step around it. -/
inductive Stack (σ : Signature) (α : Type) where
  | base (f : Frame σ α)
  | push (f : Frame σ σ.StepEnd) (s : Stack σ α)

namespace Stack

def pending : Stack σ α → List (Pending σ)
  | base f => [f.toPending]
  | push f s => f.toPending :: s.pending

def height : Stack σ α → Nat
  | base _ => 1
  | push _ s => s.height + 1

end Stack

/-! ## Moments -/

/-- A point at which a program is about to act. -/
inductive Moment (σ : Signature) (α : Type) where
  | atTop (p : Program σ α) (w : World σ)
  | inStep (s : Stack σ α) (p : Program σ σ.StepEnd) (w : World σ)

/-- What comes of issuing a command. -/
inductive Reaction (σ : Signature) (β : Type) where
  | goOn (p : Program σ β) (w : World σ)
  | enter (f : Frame σ β) (w : World σ)

/-- A stepper for commands that step no body. -/
def Stepper.never : Stepper σ :=
  fun _ body _ _ w => ((.panicked .tooDeep, body), w)

def World.react (w : World σ) : (c : Command σ) → (c.Reply → Program σ β) → Reaction σ β
  | .request r, k =>
    match w.gate r with
    | .answered a w => .goOn (k a) (w.record (.answered r a))
    | .stepping call w => .enter ⟨⟨r, call⟩, k⟩ w
  | c, k =>
    let (a, w) := w.serve Stepper.never c
    .goOn (k a) w

/-- The program of a step at a depth, which panics below the last level. -/
def Engine.bodyAt (engine : Engine σ) (limit depth : Nat) (call : Call σ) :
    Program σ σ.StepEnd :=
  if depth ≤ limit then engine call.gen call.body call.input call.mode
  else .done (.panicked .tooDeep, call.body)

/-- The moment after the innermost step has ended. -/
def Stack.leave (e : σ.StepEnd) (w : World σ) : Stack σ α → Moment σ α
  | base f =>
    let (a, w) := f.conclude e w
    .atTop (f.resume a) w
  | push f s =>
    let (a, w) := f.conclude e w
    .inStep s (f.resume a) w

namespace Moment

def world : Moment σ α → World σ
  | atTop _ w => w
  | inStep _ _ w => w

def pending : Moment σ α → List (Pending σ)
  | atTop _ _ => []
  | inStep s _ _ => s.pending

/-- The generators whose steps are in progress, innermost first. -/
def active (m : Moment σ α) : List GenId :=
  m.pending.map (·.call.gen)

/-- The moment after a command, where `here` is the place of the program that issued it and `under`
the stack below a step that it enters. -/
def react (engine : Engine σ) (limit : Nat) (here : Program σ β → World σ → Moment σ α)
    (under : Frame σ β → Stack σ α) : Reaction σ β → Moment σ α
  | .goOn p w => here p w
  | .enter f w => inStep (under f) (engine.bodyAt limit (under f).height f.call) w

/-- The next moment, unless the run is over. -/
def next? (engine : Engine σ) (limit : Nat) : Moment σ α → Option (Moment σ α)
  | atTop (.done _) _ => none
  | atTop (.issue c k) w => some (react engine limit atTop .base (w.react c k))
  | inStep s (.done e) w => some (s.leave e w)
  | inStep s (.issue c k) w => some (react engine limit (inStep s) (.push · s) (w.react c k))

end Moment

/-- A moment leads to another if that one is the same or comes later in the run. -/
def Leads (engine : Engine σ) (limit : Nat) : Moment σ α → Moment σ α → Prop :=
  Relation.ReflTransGen fun m m' => m.next? engine limit = some m'

/-- The moment after a number of moves, or the last one if the run is over before. -/
def Moment.after (engine : Engine σ) (limit : Nat) (m : Moment σ α) : Nat → Moment σ α
  | 0 => m
  | n + 1 =>
    match m.next? engine limit with
    | some m => m.after engine limit n
    | none => m

section Leads

variable {engine : Engine σ} {limit : Nat} {m m' m'' : Moment σ α}

theorem Leads.refl : Leads engine limit m m :=
  Relation.ReflTransGen.refl

theorem Leads.trans (h : Leads engine limit m m') (h' : Leads engine limit m' m'') :
    Leads engine limit m m'' :=
  Relation.ReflTransGen.trans h h'

theorem Leads.head (h : m.next? engine limit = some m') (h' : Leads engine limit m' m'') :
    Leads engine limit m m'' :=
  Relation.ReflTransGen.head h h'

theorem Leads.after (n : Nat) : Leads engine limit m (m.after engine limit n) := by
  induction n generalizing m with
  | zero => exact Leads.refl
  | succ n ih =>
    unfold Moment.after
    cases h : m.next? engine limit with
    | none => exact Leads.refl
    | some m' => exact Leads.head h ih

end Leads

/-! ## Running is going from moment to moment -/

section Run

/-- Where a command is answered, its program goes on with a reply. -/
theorem World.exists_of_react_goOn {w w' : World σ} {c : Command σ} {k : c.Reply → Program σ β}
    {p : Program σ β} (h : w.react c k = .goOn p w') : ∃ a, p = k a := by
  cases c with
  | request r =>
    simp only [react] at h
    cases hr : w.gate r <;> rw [hr] at h <;> cases h
    exact ⟨_, rfl⟩
  | _ => cases h; exact ⟨_, rfl⟩

/-- Where a command enters a step, its program goes on with a reply after the step. -/
theorem World.exists_of_react_enter {w w' : World σ} {c : Command σ} {k : c.Reply → Program σ β}
    {f : Frame σ β} (h : w.react c k = .enter f w') (a : f.request.Reply) :
    ∃ a', f.resume a = k a' := by
  cases c with
  | request r =>
    simp only [react] at h
    cases hr : w.gate r <;> rw [hr] at h <;> cases h
    exact ⟨a, rfl⟩
  | _ => cases h

/-- Running a program that begins with a command is reacting to the command. -/
theorem Program.run_issue (step : Stepper σ) (c : Command σ) (k : c.Reply → Program σ β)
    (w : World σ) :
    (Program.issue c k).run step w =
      match w.react c k with
      | .goOn p w => p.run step w
      | .enter f w =>
        let (e, w) := step f.call.gen f.call.body f.call.input f.call.mode w
        let (a, w) := f.conclude e w
        (f.resume a).run step w := by
  cases c with
  | request r =>
    simp only [Program.run, World.serve, World.perform_eq_through, World.react]
    cases w.gate r <;> rfl
  | _ => rfl

variable {engine : Engine σ} {limit : Nat}

/-- A program runs to its end wherever the steps that it enters do. -/
private theorem leads_run_of_steps (here : Program σ β → World σ → Moment σ α)
    (under : Frame σ β → Stack σ α) (step : Stepper σ)
    (hnext : ∀ c k w, (here (.issue c k) w).next? engine limit =
      some (.react engine limit here under (w.react c k)))
    (hleave : ∀ f e w,
      (under f).leave e w = here (f.resume (f.conclude e w).1) (f.conclude e w).2)
    (hstep : ∀ f w,
      let x := step f.call.gen f.call.body f.call.input f.call.mode w
      Leads engine limit (.inStep (under f) (engine.bodyAt limit (under f).height f.call) w)
        (.inStep (under f) (.done x.1) x.2))
    (p : Program σ β) (w : World σ) :
    Leads engine limit (here p w) (here (.done (p.run step w).1) (p.run step w).2) := by
  induction p generalizing w with
  | done a => exact Leads.refl
  | issue c k ih =>
    rw [Program.run_issue]
    have hn := hnext c k w
    cases hr : w.react c k with
    | goOn p w' =>
      obtain ⟨a, rfl⟩ := World.exists_of_react_goOn hr
      rw [hr] at hn
      exact Leads.head hn (ih a w')
    | enter f w' =>
      rw [hr] at hn
      let x := step f.call.gen f.call.body f.call.input f.call.mode w'
      let y := f.conclude x.1 x.2
      obtain ⟨a, ha⟩ := World.exists_of_react_enter hr y.1
      have hrun : Leads engine limit ((under f).leave x.1 x.2)
          (here (.done ((f.resume y.1).run step y.2).1) ((f.resume y.1).run step y.2).2) := by
        rw [hleave, ha]
        exact ih a y.2
      exact Leads.head hn (Leads.trans (hstep f w') (Leads.head rfl hrun))

variable (engine limit)

/-- A step that has been entered runs to its end. -/
theorem leads_stepper (d : Nat) (s : Stack σ α) (call : Call σ) (w : World σ)
    (hs : d = limit + 1 - s.height) :
    let x := engine.stepper d call.gen call.body call.input call.mode w
    Leads engine limit (.inStep s (engine.bodyAt limit s.height call) w)
      (.inStep s (.done x.1) x.2) := by
  induction d generalizing s call w with
  | zero =>
    have hlt : ¬ s.height ≤ limit := by omega
    simp only [Engine.bodyAt, hlt, if_false]
    exact Leads.refl
  | succ d ih =>
    have hle : s.height ≤ limit := by omega
    simp only [Engine.bodyAt, hle, if_true]
    exact leads_run_of_steps (.inStep s) (.push · s) (engine.stepper d)
      (fun _ _ _ => rfl) (fun _ _ _ => rfl)
      (fun f w => ih (.push f s) f.call w (by simp only [Stack.height]; omega)) _ w

/-- Inside a step, a program gets to the end that running it gives. -/
theorem leads_run_inStep (s : Stack σ α) (p : Program σ σ.StepEnd) (w : World σ) :
    let x := p.run (engine.stepper (limit - s.height)) w
    Leads engine limit (.inStep s p w) (.inStep s (.done x.1) x.2) :=
  leads_run_of_steps (.inStep s) (.push · s) (engine.stepper (limit - s.height))
    (fun _ _ _ => rfl) (fun _ _ _ => rfl)
    (fun f w => leads_stepper engine limit (limit - s.height) (.push f s) f.call w
      (by simp only [Stack.height]; omega)) p w

/-- **A run goes from its first moment to the end that running the program gives.** -/
theorem leads_run (p : Program σ α) (w : World σ) :
    Leads engine limit (.atTop p w)
      (.atTop (.done (engine.run limit p w).1) (engine.run limit p w).2) :=
  leads_run_of_steps .atTop .base (engine.stepper limit)
    (fun _ _ _ => rfl) (fun _ _ _ => rfl)
    (fun f w => leads_stepper engine limit limit (.base f) f.call w
      (by simp only [Stack.height]; omega)) p w

end Run

/-! ## Moves -/

/-- How steps in progress and the world change from one moment to the next. -/
inductive Move : List (Pending σ) → World σ → List (Pending σ) → World σ → Prop
  /-- A command that enters no generator is answered. -/
  | serve {ps : List (Pending σ)} {w : World σ} (c : Command σ) (hc : ∀ r, c ≠ .request r) :
      Move ps w ps (w.serve Stepper.never c).2
  /-- A request is answered without a step. -/
  | answer {ps : List (Pending σ)} {w w' : World σ} {r : Request σ} {a : r.Reply}
      (h : w.gate r = .answered a w') : Move ps w ps (w'.record (.answered r a))
  /-- A request enters a step. -/
  | enter {ps : List (Pending σ)} {w w' : World σ} {r : Request σ} {call : Call σ}
      (h : w.gate r = .stepping call w') : Move ps w (⟨r, call⟩ :: ps) w'
  /-- The innermost step ends. -/
  | leave {ps : List (Pending σ)} {w : World σ} (pd : Pending σ) (e : σ.StepEnd) :
      Move (pd :: ps) w ps (pd.conclude e w).2

section Moves

variable {engine : Engine σ} {limit : Nat}

/-- A reaction is one of the first three moves. -/
theorem move_of_react (ps : List (Pending σ)) (w : World σ) (c : Command σ)
    (k : c.Reply → Program σ β) :
    match w.react c k with
    | .goOn _ w' => Move ps w ps w'
    | .enter f w' => Move ps w (f.toPending :: ps) w' := by
  cases c with
  | request r =>
    simp only [World.react]
    cases hr : w.gate r with
    | answered a w' => exact .answer hr
    | stepping call w' => exact .enter hr
  | _ =>
    simp only [World.react]
    exact .serve _ (by simp)

/-- From one moment to the next there is a move. -/
theorem move_of_next? {m m' : Moment σ α} (h : m.next? engine limit = some m') :
    Move m.pending m.world m'.pending m'.world := by
  cases m with
  | atTop p w =>
    cases p with
    | done a => cases h
    | issue c k =>
      have hm := move_of_react [] w c k
      simp only [Moment.next?] at h
      cases hr : w.react c k <;> rw [hr] at h hm <;> cases h <;> exact hm
  | inStep s p w =>
    cases p with
    | done e =>
      cases h
      cases s with
      | base f => exact .leave f.toPending e
      | push f s => exact .leave f.toPending e
    | issue c k =>
      have hm := move_of_react s.pending w c k
      simp only [Moment.next?] at h
      cases hr : w.react c k <;> rw [hr] at h hm <;> cases h <;> exact hm

/-- **What every move keeps holds at every later moment.** -/
theorem Leads.invariant {P : List (Pending σ) → World σ → Prop}
    (hP : ∀ {ps w ps' w'}, Move ps w ps' w' → P ps w → P ps' w') {m m' : Moment σ α}
    (h : Leads engine limit m m') (hm : P m.pending m.world) : P m'.pending m'.world := by
  induction h with
  | refl => exact hm
  | tail _ hn ih => exact hP (move_of_next? hn) ih

end Moves

end Resumable
