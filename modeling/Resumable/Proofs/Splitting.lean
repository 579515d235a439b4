import Resumable.Proofs.Collecting

/-!
# Splitting a collection

Items of a modern generator can be collected in two goes: the second one takes up where the first
one stopped, since what the first iterator knew is also known of the generator.  The second iterator
goes by the name of the first, which has just become free, so no body can tell them apart.  Over a
generator that is suspended it is as good as the first one (`World.Poised.annotated`), and over a
closed one it finds out that there is nothing left (`World.Spent.renewed`).  So the two goes come to
what a single one comes to, with more on record of the iterators alone (`take_add`).
-/

namespace Resumable

variable {σ : Signature}

/-- An event that tells of one iterator: that it was made, or what was asked of it. -/
inductive Event.About (c : CursorId) : Event σ → Prop
  | opened : About c (.opened c)
  | answered {r : Request σ} (hr : r.cursor? = some c) (a : r.Reply) : About c (.answered r a)

theorem Event.About.owner? {c : CursorId} {e : Event σ} (about : e.About c) : e.owner? = none := by
  cases about <;> rfl

theorem Outcome.map_id {α : Type} (o : Outcome α) : o.map (fun a => a) = o := by
  cases o <;> rfl

namespace World

/-! ## More on record of an iterator -/

/-- A second world has more on record of an iterator. -/
abbrev Annotated (c : CursorId) (w w' : World σ) : Prop :=
  w.UpTo (Interspersed (Event.About c)) w'

section Annotated

variable {w w' : World σ} {c : CursorId}

theorem Annotated.refl : w.Annotated c w :=
  ⟨rfl, rfl, .refl _⟩

theorem Annotated.keep (annotated : w.Annotated c w') (e : Event σ) :
    (w.record e).Annotated c (w'.record e) :=
  UpTo.record annotated .keep e

theorem Annotated.insert (annotated : w.Annotated c w') {e : Event σ} (about : e.About c) :
    w.Annotated c (w'.record e) :=
  ⟨annotated.slots, annotated.shared, annotated.past.insert about⟩

theorem Annotated.course (annotated : w.Annotated c w') (g : GenId) : w'.course g = w.course g :=
  annotated.past.filter_eq fun e about => by simp [about.owner?]

/-- It is no matter what an iterator was before it was given up. -/
theorem eraseCursor_touched (w : World σ) (c : CursorId) (f : Cursor → Cursor) (e : Event σ) :
    ((w.modifyCursor c f).record e).eraseCursor c = (w.eraseCursor c).record e :=
  congrArg (record e) (w.eraseCursor_modifyCursor c f)

end Annotated

end World

/-! ## Two collections through one iterator -/

/-- **A collection goes on where a shorter one stops, if that has all its items.** -/
theorem Program.run_collect_add (step : Stepper σ) (w : World σ) (c : CursorId) (n k : Nat) :
    (collect c (n + k)).run step w =
      let x := (collect c n).run step w
      match x.1 with
      | .returned xs =>
        if xs.length = n then
          let y := (collect c k).run step x.2
          (y.1.map (xs ++ ·), y.2)
        else x
      | _ => x := by
  induction n generalizing w with
  | zero =>
    have run : (collect c 0).run step w = (.returned [], w) := rfl
    rw [Nat.zero_add, run]
    exact Prod.ext (Outcome.map_id _).symm rfl
  | succ n ih =>
    rw [Nat.add_right_comm]
    rcases served : w.serve step (.request (.advance c)) with ⟨(_ | item) | p | r, v⟩
    all_goals rw [run_collect_succ served, run_collect_succ served]
    · simp
    · dsimp only
      rw [ih]
      rcases (collect c n).run step v with ⟨xs | p | r, u⟩
      · by_cases length : xs.length = n
        · simp only [length, if_true, List.length_cons, Outcome.map]
          cases ((collect c k).run step u).1 <;> rfl
        · have short : ¬ xs.length + 1 = n + 1 := fun same => length (Nat.succ.inj same)
          simp only [length, if_false, List.length_cons, short, Outcome.map]
      · rfl
      · rfl

/-- After a collection without a panic a modern generator can yield more, or the iterator has
nothing but the end to report. -/
inductive World.Half (ps : List (Pending σ)) (c : CursorId) (n : Nat) (xs : List σ.Item)
    (w : World σ) : Prop
  | poised (length : xs.length = n) {gen : Gen σ} (poised : w.Poised ps c gen)
      (modern : gen.flavor = .modern)
  | spent (spent : w.Spent c .modern)

section Halves

variable {ps : List (Pending σ)} {step : Stepper σ} {w : World σ} {c : CursorId} {gen : Gen σ}
  {n k : Nat} {x : Outcome (List σ.Item) × World σ}

theorem World.Half.droppable {xs : List σ.Item} (half : w.Half ps c n xs) : w.Droppable c := by
  cases half with
  | poised _ poised modern => exact poised.droppable modern
  | spent spent => exact spent.droppable

theorem World.Collects.half (collects : w.Collects ps step c n gen x)
    (modern : gen.flavor = .modern)
    (calm : ∀ i < n, ∀ q, w.outcome? step c i ≠ some (.panicked q)) :
    ∃ xs, x.1 = .returned xs ∧ x.2.Half ps c n xs := by
  cases collects with
  | all vs length yielded items steps poised flavor =>
    exact ⟨_, items, .poised ((List.length_map _).trans length) poised (flavor.trans modern)⟩
  | @stopped vs length yielded e last final items steps spent =>
    rw [modern] at items spent
    cases e with
    | yielded v => exact absurd rfl (final v)
    | panicked q => exact absurd last (calm _ length q)
    | _ => exact ⟨_, items, .spent spent⟩

/-- An iterator that is given up without a trace, and then made again. -/
def World.renewed (c : CursorId) (w : World σ) : World σ :=
  ((w.record (.answered (.discard c) (.returned ()))).modifyCursor c fun _ => ⟨false, false⟩).record
    (.opened c)

theorem World.eraseCursor_renewed (w : World σ) (c : CursorId) :
    (w.renewed c).eraseCursor c =
      ((w.eraseCursor c).record (.answered (.discard c) (.returned ()))).record (.opened c) :=
  eraseCursor_touched ..

theorem World.annotated_twice {w w' : World σ} (annotated : w.Annotated c w') :
    w.Annotated c ((w'.record (.answered (.discard c) (.returned ()))).record (.opened c)) :=
  (annotated.insert (.answered (r := .discard c) rfl _)).insert .opened

theorem World.Poised.annotated (poised : w.Poised ps c gen) : w.Annotated c (w.renewed c) := by
  have same : w.renewed c =
      (w.record (.answered (.discard c) (.returned ()))).record (.opened c) :=
    congrArg (World.record (.opened c)) (modifyCursor_eq_self poised.cursor rfl)
  rw [same]
  exact annotated_twice .refl

/-- What a collection comes to through a new iterator, compared with the world that the old one
leaves. -/
structure World.Resumes (c : CursorId) (ys : List σ.Item) (v : World σ)
    (y : Outcome (List σ.Item) × World σ) : Prop where
  items : y.1 = .returned ys
  droppable : v.Droppable c
  droppable' : y.2.Droppable c
  annotated : (v.eraseCursor c).Annotated c (y.2.eraseCursor c)

/-- Where more values are yielded, they are yielded to a new iterator as they are to the old one. -/
theorem World.Poised.resumes (poised : w.Poised ps c gen) (modern : gen.flavor = .modern)
    (engine : Engine σ) (d : Nat) {ys : List σ.Item}
    (items : ((Program.collect c k).run (engine.stepper d) w).1 = .returned ys) :
    Resumes c ys ((Program.collect c k).run (engine.stepper d) w).2
      ((Program.collect c k).run (engine.stepper d) (w.renewed c)) := by
  have collects := poised.collects engine d k
  have both := Program.run_upTo (engine.upTo .keep d) .keep (Program.collect c k) poised.annotated
  generalize (Program.collect c k).run (engine.stepper d) w = x at items collects both ⊢
  generalize (Program.collect c k).run (engine.stepper d) (w.renewed c) = y at both ⊢
  obtain ⟨same, annotated⟩ := both
  have droppable : x.2.Droppable c := by
    cases collects with
    | all _ _ _ _ _ poised flavor => exact poised.droppable (flavor.trans modern)
    | stopped _ _ _ _ _ _ _ spent => exact (modern ▸ spent).droppable
  have here := UpTo.localAt (σ := σ) (H := Interspersed (Event.About c)) .keep c.gen
  refine ⟨same.trans items, droppable, ⟨?_, ?_⟩, here.eraseCursor rfl annotated⟩
  · rw [here.cursor? rfl annotated]
    exact droppable.cursor
  · rw [here.gen? annotated]
    exact droppable.modern

theorem World.Spent.renewed (spent : w.Spent c .modern) : (w.renewed c).Spent c .modern := by
  obtain ⟨⟨finished, hc⟩, gen, found, modern, closed⟩ := spent
  refine ⟨⟨false, ?_⟩, gen, ?_, modern, closed⟩
  · rw [World.renewed, cursor?_record, cursor?_modifyCursor, if_pos rfl, cursor?_record, hc,
      Option.map_some]
  · rw [World.renewed, gen?_record, gen?_modifyCursor, gen?_record, found]

/-- Where nothing but the end is left, nothing more is collected, whether the old iterator is asked
again or not. -/
theorem World.Spent.resumes (spent : w.Spent c .modern) {v : World σ}
    (asked : v = w ∨ v = ((Program.collect c k).run step w).2) :
    Resumes c [] v ((Program.collect c k).run step (w.renewed c)) := by
  have twice : (w.eraseCursor c).Annotated c ((w.renewed c).eraseCursor c) :=
    eraseCursor_renewed w c ▸ annotated_twice .refl
  have droppable : v.Droppable c := by
    rcases asked with rfl | rfl
    · exact spent.droppable
    · exact (spent.collected step k).1.droppable
  refine ⟨?_, droppable, (spent.renewed.collected step k).1.droppable, ?_⟩
  · rw [spent.renewed.run_collect]
  · rw [spent.run_collect] at asked
    rw [spent.renewed.run_collect]
    -- without a wanted item nothing is asked, and otherwise the new iterator is asked once
    by_cases none : k = 0
    · simp only [none, if_true, or_self] at asked ⊢
      exact asked ▸ twice
    · simp only [none, if_false, eraseCursor_touched] at asked ⊢
      rcases asked with rfl | rfl
      · exact twice.insert (.answered (r := .advance c) rfl _)
      · rw [eraseCursor_touched]
        exact twice.keep _

/-- **The second half of a collection, through the old iterator and through a new one.** -/
theorem World.Half.resumes {xs zs : List σ.Item} (half : w.Half ps c n xs) (engine : Engine σ)
    (d k : Nat) {z : Outcome (List σ.Item) × World σ}
    (whole : z =
      if xs.length = n then
        let y := (Program.collect c k).run (engine.stepper d) w
        (y.1.map (xs ++ ·), y.2)
      else (.returned xs, w))
    (items : z.1 = .returned zs) :
    ∃ ys, zs = xs ++ ys ∧
      Resumes c ys z.2 ((Program.collect c k).run (engine.stepper d) (w.renewed c)) := by
  cases half with
  | poised length poised modern =>
    rw [if_pos length] at whole
    subst whole
    rcases second : ((Program.collect c k).run (engine.stepper d) w).1 with ys | p | r
    all_goals simp only [second, Outcome.map] at items
    · cases items
      exact ⟨ys, rfl, poised.resumes modern engine d second⟩
    · cases items
    · cases items
  | spent spent =>
    have none : ((Program.collect c k).run (engine.stepper d) w).1 = .returned [] := by
      rw [spent.run_collect]
    split at whole
    · subst whole
      dsimp only at items
      rw [none] at items
      cases items
      exact ⟨[], rfl, spent.resumes (.inr rfl)⟩
    · subst whole
      cases items
      exact ⟨[], (List.append_nil _).symm, spent.resumes (.inl rfl)⟩

/-- A collection from a modern generator that rests comes to items, unless a body panics. -/
theorem Coherent.halves (coherent : Coherent ps w) (fresh : w.cursor? c = some ⟨false, false⟩)
    (found : w.gen? c.gen = some gen) (modern : gen.flavor = .modern)
    (resting : gen.phase ≠ .running) (free : gen.loan = .shared 0) (engine : Engine σ) (d : Nat)
    (calm : ∀ i < n, ∀ q, w.outcome? (engine.stepper d) c i ≠ some (.panicked q)) :
    ∃ xs, ((Program.collect c n).run (engine.stepper d) w).1 = .returned xs ∧
      ((Program.collect c n).run (engine.stepper d) w).2.Half ps c n xs := by
  cases phase : gen.phase with
  | running => exact absurd phase resting
  | suspended =>
    have poised : w.Poised ps c gen := ⟨coherent, fresh, found, phase, free⟩
    exact (poised.collects engine d n).half modern calm
  | closed =>
    have spent : w.Spent c .modern := ⟨⟨false, fresh⟩, gen, found, modern, phase⟩
    refine ⟨[], ?_, .spent (spent.collected _ n).1⟩
    rw [spent.run_collect]

end Halves

/-! ## With an iterator for each half -/

section Taking

variable {step : Stepper σ} {w : World σ} {g : GenId} {c : CursorId} {n : Nat}

/-- After a collection from a modern generator the iterator is given up without a trace. -/
theorem Program.run_take_droppable (made : (w.iterate g).1 = some c)
    (droppable : ((collect c n).run step (w.iterate g).2).2.Droppable c) :
    (take g n).run step w =
      let x := (collect c n).run step (w.iterate g).2
      (x.1, (x.2.eraseCursor c).record (.answered (.discard c) (.returned ()))) := by
  rw [run_take made]
  dsimp only
  rw [droppable.serve]
  cases ((collect c n).run step (w.iterate g).2).1 <;> rfl

/-- The next iterator is the same one again. -/
theorem World.Droppable.iterate {v : World σ} (droppable : v.Droppable c) :
    ((v.eraseCursor c).record (.answered (.discard c) (.returned ()))).iterate c.gen =
      (some c, v.renewed c) := by
  obtain ⟨⟨finished, there⟩, -⟩ := droppable
  exact iterate_eraseCursor (w := v.record (.answered (.discard c) (.returned ()))) there

end Taking

section Runs

variable {α : Type} {engine : Engine σ} {limit : Nat} {p : Program σ α} {s : σ.Shared}
  {m : Moment σ α} {g : GenId} {gen : Gen σ}

/-- **Items can be collected in two goes.**  At every moment of every run, take a modern generator
that is not running and whose body nobody holds, and let none of the steps panic that an iterator
over it takes.  Then collecting from it twice, each time through an iterator that is given up
afterwards, comes to the same items as collecting once.  It also comes to the same world, by the
same events in the same order, with more on record of the iterators alone; in particular every
generator takes the same steps.  The bodies may do anything on their way, also with other iterators
over the same generator. -/
theorem take_add (h : Leads engine limit (.atTop p (.initial s)) m)
    (found : m.world.gen? g = some gen) (modern : gen.flavor = .modern)
    (resting : gen.phase ≠ .running) (free : gen.loan = .shared 0) (d n k : Nat)
    (calm : ∀ i < n + k, ∀ q, m.world.outcomes (engine.stepper d) g i ≠ some (.panicked q)) :
    let first := (Program.take g n).run (engine.stepper d) m.world
    let second := (Program.take g k).run (engine.stepper d) first.2
    let whole := (Program.take g (n + k)).run (engine.stepper d) m.world
    (∃ xs ys, first.1 = .returned xs ∧ second.1 = .returned ys ∧
      whole.1 = .returned (xs ++ ys)) ∧
    (∃ c, c.gen = g ∧ whole.2.UpTo (Interspersed (Event.About c)) second.2) ∧
    ∀ h, second.2.course h = whole.2.course h := by
  intro first second whole
  obtain ⟨c, rfl, made, coherent, fresh, found'⟩ := (coherent_of_leads h).iterated found
  have halves (i : Nat) (within : i ≤ n + k) :=
    coherent.halves fresh found' modern resting free engine d fun j less q =>
      World.outcomes_eq made j ▸ calm j (Nat.lt_of_lt_of_le less within) q
  obtain ⟨xs, items, half⟩ := halves n (Nat.le_add_right n k)
  obtain ⟨zs, items', -⟩ := halves (n + k) (Nat.le_refl _)
  have before : first = _ := Program.run_take_droppable made half.droppable
  have together := Program.run_collect_add (engine.stepper d) (m.world.iterate c.gen).2 c n k
  -- from here on, the first collection is known by what it comes to
  clear_value first
  rcases collected : (Program.collect c n).run (engine.stepper d) (m.world.iterate c.gen).2
    with ⟨o, v⟩
  rw [collected] at items half together before
  subst items before
  obtain ⟨ys, rfl, resumes⟩ := half.resumes engine d k together items'
  have both : whole = _ := Program.run_take_droppable made resumes.droppable
  have again := half.droppable.iterate
  have after : second = _ := Program.run_take_droppable (congrArg Prod.fst again)
    (again ▸ resumes.droppable')
  rw [both, after, again, items', resumes.items]
  have annotated := resumes.annotated.keep (.answered (.discard c) (.returned ()))
  exact ⟨⟨xs, ys, rfl, rfl, rfl⟩, ⟨c, rfl, annotated⟩, annotated.course⟩

end Runs

/-- Bodies that give up the first iterator over their generator and yield once, and raise an error
then. -/
def tidies : Engine errand := fun g body _ _ =>
  match body with
  | .yields => .issue (.request (.discard ⟨g, 0⟩)) fun _ => .done (.yielded 5, .raises)
  | _ => .done (.raised 7, body)

/-- A modern generator of such a body has been made, and an iterator over it. -/
def tidying : Moment errand Unit :=
  (Moment.atTop (.spawnAll [(.modern, .yields)] (.issue (.iterate 0) fun _ => .done ()))
    (.initial ())).after tidies 9 2

theorem take_add_tidying :
    let first := (Program.take 0 1).run (tidies.stepper 9) tidying.world
    let second := (Program.take 0 2).run (tidies.stepper 9) first.2
    let whole := (Program.take 0 3).run (tidies.stepper 9) tidying.world
    (tidying.world.cursor? ⟨0, 0⟩).isSome ∧ first.2.cursor? ⟨0, 0⟩ = none ∧
    first.1 = .returned [.ok 5] ∧ second.1 = .returned [.error (.raised 7)] ∧
    whole.1 = .returned [.ok 5, .error (.raised 7)] ∧ second.2.course 0 = whole.2.course 0 := by
  intro first second whole
  have found : tidying.world.gen? 0 =
    some ⟨.suspended, false, .modern, (), .yields, .shared 0⟩ := rfl
  have calm : ∀ i < 1 + 2, ∀ q,
      tidying.world.outcomes (tidies.stepper 9) 0 i ≠ some (.panicked q) := by
    intro i less q
    match i, less with
    | 0, _ => exact nofun
    | 1, _ => exact nofun
    | 2, _ => exact nofun
  obtain ⟨⟨xs, ys, one, two, both⟩, -, same⟩ :=
    take_add (.after 2) found rfl nofun rfl 9 1 2 calm
  have items : first.1 = .returned [.ok 5] := rfl
  have items' : second.1 = .returned [.error (.raised 7)] := rfl
  cases items.symm.trans one
  cases items'.symm.trans two
  exact ⟨rfl, rfl, items, items', both, same 0⟩

end Resumable
