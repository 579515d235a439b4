import Resumable.Proofs.Locality
import Resumable.Proofs.Region

/-!
# Enclaves

A region is an enclave if the bodies of its members keep to it, too.  What a program does inside an
enclave is settled there.  The rest of the world stays as it is (`Enclave.Keeps`); and in two worlds
that agree on the enclave, the program answers the same, adds the same events, and leaves worlds
that agree again (`Enclave.run`).  The two runs are followed side by side from the worlds that they
started in (`Enclave.Tandem`): a command on a member is local to the slot of the member, and a body
that is stepped is a program inside again, at any depth of steps inside steps.
-/

namespace Resumable

variable {σ : Signature} {A B α : Type} {engine : Engine σ}

/-- A region that is closed under reference: the bodies of its members keep to it. -/
structure Enclave (engine : Engine σ) (A B : Type) extends Region σ A B where
  closed : ∀ {g b input mode}, inside g → body g b → toRegion.Input input → input.Suits mode →
    (engine g b input mode).Within toRegion fun e => toRegion.Ending e.1 ∧ body g e.2

namespace Enclave

section Worlds

variable (E : Enclave engine A B)

/-- What is inside a world refers to nothing outside, and tags are as expected. -/
structure Holds (w : World σ) : Prop where
  body : ∀ {g gen}, E.inside g → w.gen? g = some gen → E.body g gen.body
  state : E.state (E.inner w.shared)
  known : ∀ {g t}, E.known g = some t → w.tag? g = some t

/-- Two worlds are the same inside. -/
structure Agree (w w' : World σ) : Prop where
  slots : ∀ {g}, E.inside g → w'.slots.get? g = w.slots.get? g
  inner : E.inner w'.shared = E.inner w.shared

/-- Nothing has happened outside, and the given events are all that was added. -/
structure Keeps (es : List (Event σ)) (w v : World σ) : Prop where
  slots : ∀ {g}, ¬ E.inside g → v.slots.get? g = w.slots.get? g
  tags : ∀ g, v.tag? g = w.tag? g
  nextKey : v.slots.nextKey = w.slots.nextKey
  outer : E.outer v.shared = E.outer w.shared
  history : v.history = es ++ w.history

/-- Two runs side by side, with the worlds that they started in and those that they have got to. -/
structure Tandem (w w' v v' : World σ) : Prop where
  holds : E.Holds v
  holds' : E.Holds v'
  agree : E.Agree v v'
  kept : ∃ es, E.Keeps es w v ∧ E.Keeps es w' v'

end Worlds

/-! ## Single changes -/

theorem makeup_modify {w : World σ} {g : GenId} {f : Slot σ → Slot σ}
    (keeps : ∀ s, w.slots.get? g = some s → (f s).gen.makeup = s.gen.makeup) (h : GenId) :
    (({ w with slots := w.slots.modify g f } : World σ).gen? h).map Gen.makeup =
      (w.gen? h).map Gen.makeup := by
  simp only [World.gen?, Registry.get?_modify]
  split
  · next he =>
    subst he
    cases hs : w.slots.get? g with
    | none => rfl
    | some s => exact congrArg some (keeps s hs)
  · rfl

theorem tag?_eq (w : World σ) (g : GenId) :
    w.tag? g = ((w.gen? g).map Gen.makeup).map fun x => (x.1, x.2.1) := by
  rw [Option.map_map]
  rfl

theorem tag?_modifyGen_takeBack (w : World σ) (g : GenId) (body : σ.Body) (h : GenId) :
    (w.modifyGen g (.takeBack body)).tag? h = w.tag? h := by
  unfold World.tag?
  rw [World.gen?_modifyGen]
  split
  · cases w.gen? h <;> rfl
  · rfl

variable {E : Enclave engine A B} {w w' v v' : World σ} {g : GenId} {es : List (Event σ)}

theorem Holds.congr (holds : E.Holds w)
    (same : ∀ g, (w'.gen? g).map Gen.makeup = (w.gen? g).map Gen.makeup)
    (state : E.state (E.inner w'.shared)) : E.Holds w' where
  body := by
    intro g gen inside found
    have made := same g
    rw [found] at made
    obtain ⟨gen₀, found₀, eq⟩ := Option.map_eq_some_iff.mp made.symm
    have body : gen₀.body = gen.body := congrArg (·.2.2) eq
    exact body ▸ holds.body inside found₀
  state := state
  known := by
    intro g t known
    rw [tag?_eq, same, ← tag?_eq]
    exact holds.known known

theorem Holds.takeBack {body : σ.Body} (holds : E.Holds w) (fair : E.body g body) :
    E.Holds (w.modifyGen g (.takeBack body)) where
  body := by
    intro h gen inside found
    rw [World.gen?_modifyGen] at found
    split at found
    · next he =>
      subst he
      obtain ⟨gen₀, -, rfl⟩ := Option.map_eq_some_iff.mp found
      exact fair
    · exact holds.body inside found
  state := holds.state
  known := by
    intro h t known
    rw [tag?_modifyGen_takeBack]
    exact holds.known known

theorem Agree.modify (agree : E.Agree w w') (f : Slot σ → Slot σ) :
    E.Agree { w with slots := w.slots.modify g f } { w' with slots := w'.slots.modify g f } where
  slots := by
    intro h inside
    simp only [Registry.get?_modify, agree.slots inside]
  inner := agree.inner

theorem Keeps.modify (keeps : E.Keeps es w v) (inside : E.inside g) {f : Slot σ → Slot σ}
    (tags : ∀ h, ({ v with slots := v.slots.modify g f } : World σ).tag? h = v.tag? h) :
    E.Keeps es w { v with slots := v.slots.modify g f } where
  slots := by
    intro h outside
    have other : g ≠ h := fun he => outside (he ▸ inside)
    simp only [Registry.get?_modify, if_neg other]
    exact keeps.slots outside
  tags h := (tags h).trans (keeps.tags h)
  nextKey := by simpa using keeps.nextKey
  outer := keeps.outer
  history := keeps.history

theorem Keeps.record (keeps : E.Keeps es w v) (e : Event σ) :
    E.Keeps (e :: es) w (v.record e) :=
  { keeps with history := congrArg (e :: ·) keeps.history }

/-! ## Changes in tandem -/

theorem Tandem.start (holds : E.Holds w) (holds' : E.Holds w') (agree : E.Agree w w') :
    E.Tandem w w' w w' := by
  have nothing (u : World σ) : E.Keeps [] u u := ⟨fun _ => rfl, fun _ => rfl, rfl, rfl, rfl⟩
  exact ⟨holds, holds', agree, [], nothing w, nothing w'⟩

theorem Tandem.record (tandem : E.Tandem w w' v v') (e : Event σ) :
    E.Tandem w w' (v.record e) (v'.record e) := by
  obtain ⟨es, kept, kept'⟩ := tandem.kept
  have same (u : World σ) (g : GenId) :
      ((u.record e).gen? g).map Gen.makeup = (u.gen? g).map Gen.makeup := rfl
  exact ⟨tandem.holds.congr (same v) tandem.holds.state,
    tandem.holds'.congr (same v') tandem.holds'.state, ⟨tandem.agree.slots, tandem.agree.inner⟩,
    e :: es, kept.record e, kept'.record e⟩

/-- Worlds in tandem agree on every member, and changes there keep them in tandem. -/
theorem localAt (inside : E.inside g) (w w' : World σ) :
    World.LocalAt g (E.body g) (E.Tandem w w') where
  slot tandem := tandem.agree.slots inside
  modify := by
    intro v v' f keeps tandem
    have keeps' : ∀ s, v'.slots.get? g = some s → (f s).gen.makeup = s.gen.makeup := by
      rw [tandem.agree.slots inside]
      exact keeps
    obtain ⟨es, kept, kept'⟩ := tandem.kept
    refine ⟨tandem.holds.congr (makeup_modify keeps) tandem.holds.state,
      tandem.holds'.congr (makeup_modify keeps') tandem.holds'.state, tandem.agree.modify f, es,
      kept.modify inside ?_, kept'.modify inside ?_⟩
    · intro h
      rw [tag?_eq, makeup_modify keeps, ← tag?_eq]
    · intro h
      rw [tag?_eq, makeup_modify keeps', ← tag?_eq]
  takeBack := by
    intro v v' body fair tandem
    obtain ⟨es, kept, kept'⟩ := tandem.kept
    exact ⟨tandem.holds.takeBack fair, tandem.holds'.takeBack fair, tandem.agree.modify _, es,
      kept.modify inside (tag?_modifyGen_takeBack v g body),
      kept'.modify inside (tag?_modifyGen_takeBack v' g body)⟩
  record := by
    intro v v' e tandem
    exact tandem.record e

end Enclave

/-! ## Commands and programs -/

/-- Stepping the body of a member comes to the same in tandem, and ends in the enclave. -/
def Stepper.Confined (E : Enclave engine A B) (step : Stepper σ) : Prop :=
  ∀ g body input mode w w' v v', E.inside g → E.body g body → E.Input input →
    input.Suits mode → E.Tandem w w' v v' →
      Abreast (E.Tandem w w') (step g body input mode v) (step g body input mode v') ∧
        E.Ending (step g body input mode v).1.1 ∧ E.body g (step g body input mode v).1.2

namespace Enclave

section Running

variable {E : Enclave engine A B} {w w' v v' : World σ} {step : Stepper σ}

theorem Tandem.perform (tandem : E.Tandem w w' v v') (confined : step.Confined E) {r : Request σ}
    (asks : E.Asks r) :
    Abreast (E.Tandem w w') (v.perform step r) (v'.perform step r) ∧
      E.Reply r (v.perform step r).1 := by
  have here := localAt asks.1 w w'
  have gated := here.gate tandem
  have fair := Region.all_gate (w := v) asks
  rw [World.perform_eq_through, World.perform_eq_through]
  generalize v'.gate r = x' at gated
  cases gate : v.gate r with
  | answered a u =>
    rw [gate] at gated fair
    cases gated with
    | answered _ after => exact ⟨⟨rfl, after⟩, fair⟩
  | stepping call u =>
    rw [gate] at gated fair
    obtain ⟨gen, departs⟩ := World.departs_of_gate gate
    have inside : E.inside call.gen := departs.target ▸ asks.1
    have body : E.body call.gen call.body := departs.body ▸ tandem.holds.body inside departs.found
    cases gated with
    | @stepping _ _ u' after =>
      obtain ⟨stepped, ending, body⟩ :=
        confined _ _ call.input call.mode _ _ _ _ inside body fair departs.suits after
      simp only [Passage.through]
      generalize step call.gen call.body call.input call.mode u = y at stepped ending body
      generalize step call.gen call.body call.input call.mode u' = y' at stepped
      obtain ⟨e, u⟩ := y
      obtain ⟨e', u'⟩ := y'
      obtain rfl : e' = e := stepped.1
      refine ⟨here.conclude (localAt inside w w') body stepped.2, ?_⟩
      rw [show (u.conclude r call e').1 = _ from World.reply_conclude ⟨r, call⟩ e' u]
      exact Region.reply_of_ending ending

/-- What a look at a member shows is of the enclave. -/
theorem Holds.gets_look (holds : E.Holds v) {g : GenId} (inside : E.inside g) :
    E.Gets (.look g) (v.look g) := by
  intro view b seen held
  obtain ⟨gen, found, rfl⟩ := Option.map_eq_some_iff.mp seen
  simp only [Gen.view, Gen.body?] at held
  split at held
  · cases held
    exact holds.body inside found
  · cases held

theorem gets_iterate (v : World σ) (g : GenId) : E.Gets (.iterate g) (v.iterate g).1 := by
  intro c hc
  unfold World.iterate at hc
  cases hs : v.slots.get? g with
  | none =>
    rw [hs] at hc
    cases hc
  | some s =>
    rw [hs] at hc
    cases hc
    rfl

theorem Tandem.serve (tandem : E.Tandem w w' v v') (confined : step.Confined E) {c : Command σ}
    (issues : E.Issues c) :
    Abreast (E.Tandem w w') (v.serve step c) (v'.serve step c) ∧ E.Gets c (v.serve step c).1 := by
  cases c with
  | request r =>
    obtain ⟨performed, fair⟩ := tandem.perform confined issues
    simp only [World.serve]
    generalize v.perform step r = y at performed fair
    generalize v'.perform step r = y' at performed
    obtain ⟨a, u⟩ := y
    obtain ⟨a', u'⟩ := y'
    obtain rfl : a' = a := performed.1
    exact ⟨⟨rfl, performed.2.record _⟩, fair⟩
  | iterate g => exact ⟨(localAt issues w w').iterate tandem, gets_iterate v g⟩
  | watch c => exact ⟨⟨(localAt issues w w').cursor? rfl tandem, tandem⟩, trivial⟩
  | look g =>
    have same := (localAt issues w w').gen? tandem
    exact ⟨⟨congrArg (Option.map _) same, tandem⟩, tandem.holds.gets_look issues⟩
  | hold g => exact ⟨(localAt issues w w').hold tandem, trivial⟩
  | release g => exact ⟨(localAt issues w w').release tandem, trivial⟩
  | announce g mode flavor => exact ⟨⟨rfl, tandem.record _⟩, trivial⟩
  | note n => exact ⟨⟨rfl, tandem.record _⟩, trivial⟩
  | spawn | consume | read | write => cases issues

theorem Holds.look (holds : E.Holds v) {g : GenId} {t : σ.Tag} (known : E.known g = some t) :
    ∃ view, v.look g = some view ∧ view.tag = t := by
  obtain ⟨gen, found, rfl⟩ := Option.map_eq_some_iff.mp (holds.known known)
  exact ⟨gen.view, congrArg (Option.map _) found, rfl⟩

/-- The enclave writes its own part of the shared state. -/
theorem Tandem.write (tandem : E.Tandem w w' v v') {s s' : σ.Shared}
    (fair : E.state (E.inner s)) (same : E.inner s' = E.inner s)
    (keeps : E.outer s = E.outer w.shared) (keeps' : E.outer s' = E.outer w'.shared) :
    E.Tandem w w' { v with shared := s } { v' with shared := s' } := by
  obtain ⟨es, kept, kept'⟩ := tandem.kept
  have fair' : E.state (E.inner s') := same ▸ fair
  exact ⟨tandem.holds.congr (fun _ => rfl) fair, tandem.holds'.congr (fun _ => rfl) fair',
    ⟨tandem.agree.slots, same⟩, es, { kept with outer := keeps }, { kept' with outer := keeps' }⟩

/-- **Programs that keep to an enclave come to the same in tandem.** -/
theorem Tandem.run (confined : step.Confined E) {post : α → Prop} {o o' : B} {p p' : Program σ α}
    (abreast : p.Abreast E.toRegion post o o' p') (ho : E.outer w.shared = o)
    (ho' : E.outer w'.shared = o') (tandem : E.Tandem w w' v v') :
    Abreast (E.Tandem w w') (p.run step v) (p'.run step v') ∧ post (p.run step v).1 := by
  induction abreast generalizing v v' with
  | done ok => exact ⟨⟨rfl, tandem⟩, ok⟩
  | issue issues _ ih =>
    obtain ⟨served, gets⟩ := tandem.serve confined issues
    simp only [Program.run]
    rw [served.1]
    exact ih _ gets served.2
  | ask known _ ih =>
    obtain ⟨view, seen, tagged⟩ := tandem.holds.look known
    obtain ⟨view', seen', tagged'⟩ := tandem.holds'.look known
    simp only [Program.run, World.serve, seen, seen']
    exact ih _ _ tagged tagged' tandem
  | read _ ih =>
    obtain ⟨es, kept, kept'⟩ := tandem.kept
    exact ih _ _ tandem.holds.state tandem.agree.inner (kept.outer.trans ho)
      (kept'.outer.trans ho') tandem
  | write fair same keeps keeps' _ ih =>
    exact ih (tandem.write fair same (keeps.trans ho.symm) (keeps'.trans ho'.symm))

end Running

end Enclave

/-- **Bodies of an enclave stay in it, at any depth of steps inside steps.** -/
theorem Enclave.confined (E : Enclave engine A B) (d : Nat) : (engine.stepper d).Confined E := by
  induction d with
  | zero =>
    intro g body input mode w w' v v' _ fair _ _ tandem
    exact ⟨⟨rfl, tandem⟩, trivial, fair⟩
  | succ d ih =>
    intro g body input mode w w' v v' inside fair given suits tandem
    exact Tandem.run ih (E.closed inside fair given suits _ _) rfl rfl tandem

/-- **A program inside an enclave is settled there.** -/
theorem Enclave.run (E : Enclave engine A B) (d : Nat) {post : α → Prop} {p : Program σ α}
    (within : p.Within E.toRegion post) {w w' : World σ} (holds : E.Holds w)
    (holds' : E.Holds w') (agree : E.Agree w w') :
    Abreast (E.Tandem w w') (engine.run d p w) (engine.run d p w') :=
  (Tandem.run (E.confined d) (within _ _) rfl rfl (.start holds holds' agree)).1

end Resumable
