import Resumable.Proofs.Nesting

/-!
# The way through a run

`Leads` says that a run gets from one moment to another.  `Trail` also keeps the moments that it
passes on the way, for what depends on all that was done so far and not on the world alone: who
took a reader's hold and gave it back, which steps ended and for which requests.  What is done at a
moment is its `Act`, and each act goes on to the next moment in the one way that `Moment.Turn` says.
-/

namespace Resumable

variable {σ : Signature} {α β : Type}

/-! ## Acts -/

/-- What a program does at a moment: it issues a command, or it has come to the end of a step. -/
inductive Act (σ : Signature) where
  | issue (c : Command σ)
  | finish (pd : Pending σ) (e : σ.StepEnd)

/-- The innermost step in progress. -/
def Stack.top : Stack σ α → Pending σ
  | base f => f.toPending
  | push f _ => f.toPending

namespace Moment

/-- What is done at a moment, unless the run is over. -/
def act? : Moment σ α → Option (Act σ)
  | atTop (.done _) _ => none
  | atTop (.issue c _) _ => some (.issue c)
  | inStep s (.done e) _ => some (.finish s.top e)
  | inStep _ (.issue c _) _ => some (.issue c)

/-- Only the innermost step can have come to its end. -/
theorem pending_of_finish {m : Moment σ α} {pd : Pending σ} {e : σ.StepEnd}
    (act : m.act? = some (.finish pd e)) : ∃ ps, m.pending = pd :: ps := by
  cases m with
  | atTop p w => cases p <;> cases act
  | inStep s p w =>
    cases p with
    | done e =>
      cases act
      cases s <;> exact ⟨_, rfl⟩
    | issue c k => cases act

/-- How an act goes on to the next moment. -/
inductive Turn (m m' : Moment σ α) : Prop
  /-- A command that enters no generator is answered. -/
  | serve {c : Command σ} (act : m.act? = some (.issue c)) (plain : ∀ r, c ≠ .request r)
      (pending : m'.pending = m.pending) (world : m'.world = (m.world.serve Stepper.never c).2)
  /-- A request is answered without a step. -/
  | answer {r : Request σ} {a : r.Reply} {w : World σ}
      (act : m.act? = some (.issue (.request r))) (gate : m.world.gate r = .answered a w)
      (pending : m'.pending = m.pending) (world : m'.world = w.record (.answered r a))
  /-- A request enters a step. -/
  | enter {r : Request σ} {call : Call σ} (act : m.act? = some (.issue (.request r)))
      (gate : m.world.gate r = .stepping call m'.world)
      (pending : m'.pending = ⟨r, call⟩ :: m.pending)
  /-- The innermost step ends. -/
  | leave {pd : Pending σ} {e : σ.StepEnd} (act : m.act? = some (.finish pd e))
      (pending : m.pending = pd :: m'.pending) (world : m'.world = (pd.conclude e m.world).2)

variable {engine : Engine σ} {limit : Nat}

/-- A command goes on in one of the first three ways, wherever its program is. -/
private theorem turn_react {m : Moment σ α} {here : Program σ β → World σ → Moment σ α}
    {under : Frame σ β → Stack σ α} {c : Command σ} {k : c.Reply → Program σ β}
    (act : m.act? = some (.issue c)) (world : ∀ p w, (here p w).world = w)
    (pending : ∀ p w, (here p w).pending = m.pending)
    (under_pending : ∀ f, (under f).pending = f.toPending :: m.pending) :
    m.Turn (.react engine limit here under (m.world.react c k)) := by
  cases c with
  | request r =>
    simp only [World.react]
    cases gate : m.world.gate r with
    | answered a w => exact .answer act gate (pending _ _) (world _ _)
    | stepping call w => exact .enter act gate (under_pending _)
  | _ => exact .serve act (by simp) (pending _ _) (world _ _)

theorem turn_of_next? {m m' : Moment σ α} (next : m.next? engine limit = some m') :
    m.Turn m' := by
  cases m with
  | atTop p w =>
    cases p with
    | done a => cases next
    | issue c k =>
      cases next
      exact turn_react rfl (fun _ _ => rfl) (fun _ _ => rfl) fun _ => rfl
  | inStep s p w =>
    cases p with
    | done e =>
      cases next
      cases s <;> exact .leave rfl rfl rfl
    | issue c k =>
      cases next
      exact turn_react rfl (fun _ _ => rfl) (fun _ _ => rfl) fun _ => rfl

end Moment

/-! ## Trails -/

/-- A run gets from a first moment to another and passes the moments listed, newest first. -/
inductive Trail (engine : Engine σ) (limit : Nat) (m₀ : Moment σ α) :
    List (Moment σ α) → Moment σ α → Prop
  | start : Trail engine limit m₀ [] m₀
  | move {ms : List (Moment σ α)} {m m' : Moment σ α} (trail : Trail engine limit m₀ ms m)
      (next : m.next? engine limit = some m') : Trail engine limit m₀ (m :: ms) m'

section Trail

variable {engine : Engine σ} {limit : Nat} {m₀ m : Moment σ α} {ms : List (Moment σ α)}

theorem Trail.leads (trail : Trail engine limit m₀ ms m) : Leads engine limit m₀ m := by
  induction trail with
  | start => exact .refl
  | move _ next ih => exact ih.trans (.head next .refl)

/-- Every later moment is at the end of a trail. -/
theorem Leads.trail (h : Leads engine limit m₀ m) : ∃ ms, Trail engine limit m₀ ms m := by
  induction h with
  | refl => exact ⟨[], .start⟩
  | tail _ next ih =>
    obtain ⟨ms, trail⟩ := ih
    exact ⟨_, trail.move next⟩

end Trail

end Resumable
