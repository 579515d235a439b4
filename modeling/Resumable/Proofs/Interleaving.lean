import Resumable.Proofs.Enclave
import Resumable.Proofs.Nesting
import Resumable.Proofs.Receivers

/-!
# Operations on disjoint enclaves

Operations on one enclave and operations on another that has no generator in common with it do not
meet: in whatever order two sequences of them are performed, each operation answers what it answers
in its own sequence alone, and the world comes out the same, with the events of the two sequences
interleaved (`enclaves_independent`).
-/

namespace Resumable

variable {σ : Signature} {A B α β γ : Type} {engine : Engine σ}

/-! ## Two enclaves -/

/-- Enclaves without a common member, where the part of the shared state that belongs to one is the
part that the other has no hand in. -/
structure Enclave.Apart (E : Enclave engine A B) (E' : Enclave engine B A) : Prop where
  disjoint : ∀ {g}, E.inside g → ¬ E'.inside g
  outer : E'.inner = E.outer
  inner : E'.outer = E.inner

namespace Enclave

variable {E : Enclave engine A B} {E' : Enclave engine B A} {w v v' : World σ}
  {es : List (Event σ)}

theorem Apart.symm (apart : E.Apart E') : E'.Apart E :=
  ⟨fun inside' inside => apart.disjoint inside inside', apart.inner.symm, apart.outer.symm⟩

/-- What happens in one enclave is not seen in the other. -/
theorem Keeps.agree (keeps : E.Keeps es w v) (apart : E.Apart E') : E'.Agree v w where
  slots inside' := (keeps.slots fun inside => apart.disjoint inside inside').symm
  inner := by
    rw [apart.outer]
    exact keeps.outer.symm

theorem Keeps.holds (keeps : E.Keeps es w v) (apart : E.Apart E') (holds : E'.Holds w) :
    E'.Holds v where
  body := by
    intro g gen inside' found
    have same : v.gen? g = w.gen? g :=
      congrArg (Option.map _) (keeps.slots fun inside => apart.disjoint inside inside')
    exact holds.body inside' (same ▸ found)
  state := by
    rw [apart.outer, keeps.outer, ← apart.outer]
    exact holds.state
  known := by
    intro g t known
    rw [keeps.tags]
    exact holds.known known

theorem Agree.trans (first : E.Agree w v) (second : E.Agree v v') : E.Agree w v' :=
  ⟨fun inside => (second.slots inside).trans (first.slots inside), second.inner.trans first.inner⟩

end Enclave

/-! ## Schedules -/

/-- A list made of two, each in its own order. -/
inductive Interleaved : List α → List α → List α → Prop
  | nil : Interleaved [] [] []
  | left (a : α) {xs ys zs : List α} : Interleaved xs ys zs → Interleaved (a :: xs) ys (a :: zs)
  | right (a : α) {xs ys zs : List α} : Interleaved xs ys zs → Interleaved xs (a :: ys) (a :: zs)

namespace Interleaved

variable {xs ys zs : List α}

theorem append (interleaved : Interleaved xs ys zs) (as : List α) :
    Interleaved (as ++ xs) ys (as ++ zs) := by
  induction as with
  | nil => exact interleaved
  | cons a as ih => exact .left a ih

theorem symm (interleaved : Interleaved xs ys zs) : Interleaved ys xs zs := by
  induction interleaved with
  | nil => exact .nil
  | left a _ ih => exact .right a ih
  | right a _ ih => exact .left a ih

end Interleaved

/-- Performs operations one after the other, and lists their results. -/
def Engine.runAll (engine : Engine σ) (d : Nat) : List (Program σ β) → World σ → List β × World σ
  | [], w => ([], w)
  | p :: ps, w =>
    let (b, w) := engine.run d p w
    let (bs, w) := engine.runAll d ps w
    (b :: bs, w)

/-- The operations of two sequences, in the order in which they are performed. -/
abbrev Schedule (σ : Signature) (β γ : Type) : Type :=
  List (Program σ β ⊕ Program σ γ)

namespace Schedule

def left (s : Schedule σ β γ) : List (Program σ β) :=
  s.filterMap Sum.getLeft?

def right (s : Schedule σ β γ) : List (Program σ γ) :=
  s.filterMap Sum.getRight?

/-- One sequence before the other. -/
def inTurn (ps : List (Program σ β)) (qs : List (Program σ γ)) : Schedule σ β γ :=
  ps.map .inl ++ qs.map .inr

theorem left_inTurn (ps : List (Program σ β)) (qs : List (Program σ γ)) :
    (inTurn ps qs).left = ps := by
  simp [left, inTurn, List.filterMap_map, Function.comp_def]

theorem right_inTurn (ps : List (Program σ β)) (qs : List (Program σ γ)) :
    (inTurn ps qs).right = qs := by
  simp [right, inTurn, List.filterMap_map, Function.comp_def]

/-- Performs the operations of a schedule, and lists the results of either sequence. -/
def run (engine : Engine σ) (d : Nat) :
    Schedule σ β γ → World σ → (List β × List γ) × World σ
  | [], w => (([], []), w)
  | .inl p :: s, w =>
    let (b, w) := engine.run d p w
    let ((bs, cs), w) := run engine d s w
    ((b :: bs, cs), w)
  | .inr q :: s, w =>
    let (c, w) := engine.run d q w
    let ((bs, cs), w) := run engine d s w
    ((bs, c :: cs), w)

end Schedule

/-! ## Any order -/

section Merging

/-- A world in which operations on two enclaves were performed, together with the worlds in which
those on one of them were performed alone. -/
structure Merged (E : Enclave engine A B) (E' : Enclave engine B A) (w x y z : World σ) :
    Prop where
  holds : E.Holds z
  holds' : E'.Holds z
  alone : E.Holds x
  alone' : E'.Holds y
  agree : E.Agree z x
  agree' : E'.Agree z y
  elsewhere : ∀ {g}, ¬ E.inside g → ¬ E'.inside g → z.slots.get? g = w.slots.get? g
  nextKey : z.slots.nextKey = w.slots.nextKey
  history : ∃ es es' zs, x.history = es ++ w.history ∧ y.history = es' ++ w.history ∧
    z.history = zs ++ w.history ∧ Interleaved es es' zs

namespace Merged

variable {E : Enclave engine A B} {E' : Enclave engine B A} {w x y z : World σ}

theorem start (holds : E.Holds w) (holds' : E'.Holds w) : Merged E E' w w w w :=
  ⟨holds, holds', holds, holds', ⟨fun _ => rfl, rfl⟩, ⟨fun _ => rfl, rfl⟩, fun _ _ => rfl, rfl,
    [], [], [], rfl, rfl, rfl, .nil⟩

theorem symm (merged : Merged E E' w x y z) : Merged E' E w y x z := by
  obtain ⟨es, es', zs, hx, hy, hz, interleaved⟩ := merged.history
  exact ⟨merged.holds', merged.holds, merged.alone', merged.alone, merged.agree', merged.agree,
    fun outside' outside => merged.elsewhere outside outside', merged.nextKey,
    es', es, zs, hy, hx, hz, interleaved.symm⟩

/-- One more operation on the first enclave. -/
theorem operate (merged : Merged E E' w x y z) (apart : E.Apart E') {post : β → Prop}
    {p : Program σ β} (within : p.Within E.toRegion post) (d : Nat) :
    (engine.run d p z).1 = (engine.run d p x).1 ∧
      Merged E E' w (engine.run d p x).2 y (engine.run d p z).2 := by
  obtain ⟨same, tandem⟩ := E.run d within merged.holds merged.alone merged.agree
  obtain ⟨es, kept, kept'⟩ := tandem.kept
  obtain ⟨xs, ys, zs, hx, hy, hz, interleaved⟩ := merged.history
  refine ⟨same.symm, tandem.holds, kept.holds apart merged.holds', tandem.holds', merged.alone',
    tandem.agree, (kept.agree apart).trans merged.agree', ?_, kept.nextKey.trans merged.nextKey,
    es ++ xs, ys, es ++ zs, ?_, hy, ?_, interleaved.append es⟩
  · intro g outside outside'
    exact (kept.slots outside).trans (merged.elsewhere outside outside')
  · rw [kept'.history, hx, List.append_assoc]
  · rw [kept.history, hz, List.append_assoc]

/-- **Any number of operations on either enclave.** -/
theorem run (apart : E.Apart E') {post : β → Prop} {post' : γ → Prop} (d : Nat)
    (s : Schedule σ β γ) (merged : Merged E E' w x y z)
    (within : ∀ p ∈ s.left, p.Within E.toRegion post)
    (within' : ∀ q ∈ s.right, q.Within E'.toRegion post') :
    (s.run engine d z).1 = ((engine.runAll d s.left x).1, (engine.runAll d s.right y).1) ∧
      Merged E E' w (engine.runAll d s.left x).2 (engine.runAll d s.right y).2
        (s.run engine d z).2 := by
  induction s generalizing x y z with
  | nil => exact ⟨rfl, merged⟩
  | cons op s ih =>
    cases op with
    | inl p =>
      obtain ⟨here, within⟩ := List.forall_mem_cons.mp within
      obtain ⟨same, merged⟩ := merged.operate apart here d
      obtain ⟨results, merged⟩ := ih merged within within'
      refine ⟨?_, merged⟩
      simp only [Schedule.run, results, same]
      rfl
    | inr q =>
      obtain ⟨here, within'⟩ := List.forall_mem_cons.mp within'
      obtain ⟨same, merged⟩ := merged.symm.operate apart.symm here d
      obtain ⟨results, merged⟩ := ih merged.symm within within'
      refine ⟨?_, merged⟩
      simp only [Schedule.run, results, same]
      rfl

/-- What was performed alone determines the world but for its history. -/
theorem unique {z' : World σ} (apart : E.Apart E') (merged : Merged E E' w x y z)
    (merged' : Merged E E' w x y z') : z'.slots = z.slots ∧ z'.shared = z.shared := by
  constructor
  · refine Registry.eq_of_get? (merged'.nextKey.trans merged.nextKey.symm) fun g => ?_
    by_cases inside : E.inside g
    · exact (merged'.agree.slots inside).symm.trans (merged.agree.slots inside)
    by_cases inside' : E'.inside g
    · exact (merged'.agree'.slots inside').symm.trans (merged.agree'.slots inside')
    exact (merged'.elsewhere inside inside').trans (merged.elsewhere inside inside').symm
  · have other := merged'.agree'.inner.symm.trans merged.agree'.inner
    rw [apart.outer] at other
    exact E.whole (merged'.agree.inner.symm.trans merged.agree.inner) other

end Merged

end Merging

/-- **Enclaves are independent of what is outside and of each other.**  Every operation on a member
keeps to the enclave, a call on a receiver whose target is a member too.  Such an operation, or any
program of such operations, leaves every generator outside as it is; and its answer, the steps and
records that it adds and what becomes of the enclave are the same in every world that has the same
enclave.  So two sequences of operations, on enclaves without a common member, give the same
answers, generators, iterators and shared state in whatever order they are interleaved; the answers
are those of each sequence alone, and the events are those of each alone, interleaved. -/
theorem enclaves_independent (E : Enclave engine A B) (d : Nat) :
    (∀ c : Command σ, E.Issues c → (Program.command c).Within E.toRegion (E.Gets c)) ∧
    (∀ g m, E.inside g → E.Input m.input →
      (Program.invoke g m).Within E.toRegion fun _ => True) ∧
    (∀ kind receiver expected m unwrap, E.Input m.input →
      E.Reaches kind expected unwrap receiver →
        (Host.call kind receiver expected m (Host.unwrapping kind unwrap)).Within E.toRegion
          fun _ => True) ∧
    (∀ kind g expected m, E.inside g → E.Input m.input →
      (Host.call kind (.generator g) expected m Host.noWrappers).Within E.toRegion
        fun _ => True) ∧
    (∀ (p : Program σ α) post, p.Within E.toRegion post →
      ∀ w w', E.Holds w → E.Holds w' → E.Agree w w' →
        let x := engine.run d p w
        let x' := engine.run d p w'
        x'.1 = x.1 ∧ E.Holds x.2 ∧ E.Holds x'.2 ∧ E.Agree x.2 x'.2 ∧
          ∃ es, E.Keeps es w x.2 ∧ E.Keeps es w' x'.2) ∧
    ∀ E' : Enclave engine B A, E.Apart E' →
      ∀ (ps : List (Program σ β)) (qs : List (Program σ γ)) post post',
        (∀ p ∈ ps, p.Within E.toRegion post) → (∀ q ∈ qs, q.Within E'.toRegion post') →
          ∀ w, E.Holds w → E'.Holds w →
            let x := engine.runAll d ps w
            let y := engine.runAll d qs w
            ∃ slots shared es es',
              x.2.history = es ++ w.history ∧ y.2.history = es' ++ w.history ∧
              ∀ s : Schedule σ β γ, s.left = ps → s.right = qs →
                let z := s.run engine d w
                z.1 = (x.1, y.1) ∧ z.2.slots = slots ∧ z.2.shared = shared ∧
                  ∃ zs, z.2.history = zs ++ w.history ∧ Interleaved es es' zs := by
  refine ⟨fun _ => .command, fun _ _ inside => .invoke inside, fun _ _ _ _ _ fair => .call fair,
    ?_, ?_, ?_⟩
  · intro kind g expected m inside fair
    rw [Host.noWrappers_eq kind]
    refine .call fair (.behind ?_ (.done nofun))
    rintro _ ⟨⟩
    exact .inl inside
  · intro p post within w w' holds holds' agree
    obtain ⟨same, tandem⟩ := E.run d within holds holds' agree
    exact ⟨same, tandem.holds, tandem.holds', tandem.agree, tandem.kept⟩
  · intro E' apart ps qs post post' within within' w holds holds'
    have start : Merged E E' w w w w := .start holds holds'
    have merged (s : Schedule σ β γ) (hl : s.left = ps) (hr : s.right = qs) :
        (s.run engine d w).1 = ((engine.runAll d ps w).1, (engine.runAll d qs w).1) ∧
          Merged E E' w (engine.runAll d ps w).2 (engine.runAll d qs w).2
            (s.run engine d w).2 := by
      subst hl hr
      exact start.run apart d s within within'
    -- the order in which one sequence comes before the other serves for comparison
    let s₀ := Schedule.inTurn ps qs
    obtain ⟨-, merged₀⟩ := merged s₀ (Schedule.left_inTurn ps qs) (Schedule.right_inTurn ps qs)
    obtain ⟨es, es', -, hx, hy, -, -⟩ := merged₀.history
    refine ⟨(s₀.run engine d w).2.slots, (s₀.run engine d w).2.shared, es, es', hx, hy, ?_⟩
    intro s hl hr
    obtain ⟨results, merged⟩ := merged s hl hr
    obtain ⟨slots, shared⟩ := merged₀.unique apart merged
    obtain ⟨xs, ys, zs, hx', hy', hz, interleaved⟩ := merged.history
    obtain rfl : es = xs := List.append_cancel_right (hx.symm.trans hx')
    obtain rfl : es' = ys := List.append_cancel_right (hy.symm.trans hy')
    exact ⟨results, slots, shared, zs, hz, interleaved⟩

/-! ## Two pairs -/

/-- Whether the generators that an errand operates on are among some. -/
def Errand.RefersTo (inside : GenId → Prop) : Errand → Prop
  | .asks g => inside g
  | .guards g => inside g
  | .closes g => inside g
  | .draws g => inside g
  | _ => True

/-- Some generators, and the errands that operate on no others. -/
def Errand.region (inside : GenId → Prop) : Region errand Unit Unit where
  inside := inside
  known _ := none
  body _ b := b.RefersTo inside
  value _ := True
  error _ := True
  inner := id
  outer := id
  whole _ _ := rfl
  state _ := True

/-- An errand that refers to some generators keeps to them. -/
def Errand.enclave (inside : GenId → Prop) : Enclave errands Unit Unit where
  toRegion := region inside
  closed := by
    intro g b input mode _ fair _ _
    have ends (e : Ending Nat Nat) :
        (Program.done (e, b)).Within (region inside) fun e =>
          (region inside).Ending e.1 ∧ e.2.RefersTo inside :=
      .done ⟨by cases e <;> trivial, fair⟩
    cases b with
    | panics | yields | raises => exact ends _
    | asks h =>
      have issues : (region inside).Issues (.request (.next h none)) := ⟨fair, nofun⟩
      refine .issue issues fun a _ => ?_
      cases a <;> exact ends _
    | guards h =>
      have issues : (region inside).Issues (.request (.next h none)) := ⟨fair, nofun⟩
      exact .issue issues fun a _ => ends _
    | closes h =>
      have issues : (region inside).Issues (.request (.close h)) := ⟨fair, trivial⟩
      refine .issue issues fun a _ => ?_
      cases a <;> exact ends _
    | draws h =>
      have issues : (region inside).Issues (.iterate h) := fair
      refine .issue issues fun a gets => ?_
      cases a with
      | none => exact ends _
      | some c =>
        have here : inside c.gen := gets c rfl ▸ fair
        have advances : (region inside).Issues (.request (.advance c)) := ⟨here, trivial⟩
        have discards : (region inside).Issues (.request (.discard c)) := ⟨here, trivial⟩
        refine .issue advances fun a _ => ?_
        cases a with
        | panicked p => exact .issue discards fun _ _ => ends _
        | _ => exact ends _

/-- Two generators that ask each other, and two of which one draws from the other. -/
def pairsWorld (last : Errand) : World errand :=
  (errands.run 9 (.spawnAll [(.modern, .guards 1), (.legacy, .asks 0), (.legacy, .draws 3),
    (.modern, last)] (.done ())) (.initial ())).2

theorem body_of_pairs {last : Errand} {g : Nat} {gen : Gen errand}
    (found : (pairsWorld last).gen? g = some gen) :
    g = 0 ∧ gen.body = .guards 1 ∨ g = 1 ∧ gen.body = .asks 0 ∨ g = 2 ∧ gen.body = .draws 3 ∨
      g = 3 ∧ gen.body = last := by
  have bound : g < 4 := World.lt_nextKey_of_gen? found
  have body (b : Errand) (hb : ((pairsWorld last).gen? g).map (·.body) = some b) :
      gen.body = b := by
    rw [found] at hb
    exact Option.some.inj hb
  obtain rfl | rfl | rfl | rfl : g = 0 ∨ g = 1 ∨ g = 2 ∨ g = 3 := by omega
  · exact .inl ⟨rfl, body _ rfl⟩
  · exact .inr (.inl ⟨rfl, body _ rfl⟩)
  · exact .inr (.inr (.inl ⟨rfl, body _ rfl⟩))
  · exact .inr (.inr (.inr ⟨rfl, body _ rfl⟩))

theorem holds_pairs (last : Errand) : (Errand.enclave (· < 2)).Holds (pairsWorld last) where
  body := by
    intro (g : Nat) gen (below : g < 2) found
    obtain ⟨rfl, hb⟩ | ⟨rfl, hb⟩ | ⟨rfl, -⟩ | ⟨rfl, -⟩ := body_of_pairs found
    · exact hb ▸ (by decide : 1 < 2)
    · exact hb ▸ (by decide : 0 < 2)
    · omega
    · omega
  state := trivial
  known := nofun

theorem holds_pairs_panicking : (Errand.enclave (2 ≤ ·)).Holds (pairsWorld .panics) where
  body := by
    intro (g : Nat) gen (above : 2 ≤ g) found
    obtain ⟨rfl, -⟩ | ⟨rfl, -⟩ | ⟨rfl, hb⟩ | ⟨rfl, hb⟩ := body_of_pairs found
    · omega
    · omega
    · exact hb ▸ (by decide : 2 ≤ 3)
    · exact hb ▸ trivial
  state := trivial
  known := nofun

theorem agree_pairs (last last' : Errand) :
    (Errand.enclave (· < 2)).Agree (pairsWorld last) (pairsWorld last') where
  slots := by
    intro (g : Nat) (below : g < 2)
    obtain rfl | rfl : g = 0 ∨ g = 1 := by omega
    · rfl
    · rfl
  inner := rfl

theorem enclaves_independent_pairs :
    (Errand.enclave (· < 2)).Holds (pairsWorld .panics) ∧
    (Errand.enclave (2 ≤ ·)).Holds (pairsWorld .panics) ∧
    (Errand.enclave (· < 2)).Apart (Errand.enclave (2 ≤ ·)) ∧
    (errands.run 9 (.invoke 0 (.next none)) (pairsWorld .yields)).1 =
      (errands.run 9 (.invoke 0 (.next none)) (pairsWorld .panics)).1 ∧
    (Schedule.run errands 9
        [.inl (.invoke 0 (.next none)), .inr (.invoke 2 .close), .inl (.invoke 1 .close)]
        (pairsWorld .panics)).2.slots =
      (Schedule.run errands 9
        [.inr (.invoke 2 .close), .inl (.invoke 0 (.next none)), .inl (.invoke 1 .close)]
        (pairsWorld .panics)).2.slots := by
  have apart : (Errand.enclave (· < 2)).Apart (Errand.enclave (2 ≤ ·)) :=
    ⟨fun below above => absurd below (Nat.not_lt.mpr above), rfl, rfl⟩
  obtain ⟨-, calls, -, -, same, order⟩ := enclaves_independent
    (α := errand.CallAnswer) (β := errand.CallAnswer) (γ := errand.CallAnswer)
    (Errand.enclave (· < 2)) 9
  have next := calls 0 (.next none) (by decide : 0 < 2) nofun
  have close := calls 1 .close (by decide : 1 < 2) trivial
  have close' : (Program.invoke 2 .close).Within (Errand.enclave (2 ≤ ·)).toRegion fun _ => True :=
    .invoke (by decide : 2 ≤ 2) trivial
  have answers := (same _ _ next _ _ (holds_pairs .panics) (holds_pairs .yields)
    (agree_pairs .panics .yields)).1
  obtain ⟨slots, shared, es, es', -, -, any⟩ := order _ apart
    [.invoke 0 (.next none), .invoke 1 .close] [.invoke 2 .close] (fun _ => True) (fun _ => True)
    (List.forall_mem_cons.mpr ⟨next, List.forall_mem_singleton.mpr close⟩)
    (List.forall_mem_singleton.mpr close') _ (holds_pairs .panics) holds_pairs_panicking
  have first := (any [.inl (.invoke 0 (.next none)), .inr (.invoke 2 .close),
    .inl (.invoke 1 .close)] rfl rfl).2.1
  have second := (any [.inr (.invoke 2 .close), .inl (.invoke 0 (.next none)),
    .inl (.invoke 1 .close)] rfl rfl).2.1
  exact ⟨holds_pairs .panics, holds_pairs_panicking, apart, answers, first.trans second.symm⟩

end Resumable
