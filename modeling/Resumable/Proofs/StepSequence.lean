import Resumable.Proofs.Lifetime

/-!
# The steps that a body takes through a generator

The steps of a generator are read off its course: one for every beginning, with the ending that came
after it.  In a lawful course they obey a grammar (`Taken.Grammar`), shown by induction on `Course`:
each step carries the input of its mode, each but the last one yielded, and a close is the last
step, is not the first, and happens to legacy generators only.  `steps_lawful` says so of every
moment of every run, and that a generator whose body came to an end is not stepped again.
-/

namespace Resumable

variable {σ : Signature}

/-! ## Steps -/

/-- A step that a body has taken or is taking. -/
structure Taken (σ : Signature) where
  input : Input σ.Value σ.Thrown
  mode : Mode
  /-- How it ended, if it has. -/
  ending : Option (Ending σ.Value σ.Thrown)

namespace Taken

/-- The steps among events, newest first; an ending belongs to the step that began last. -/
def ofEvents : List (Event σ) → List (Taken σ)
  | [] => []
  | .began _ input mode :: es => ⟨input, mode, none⟩ :: ofEvents es
  | .ended _ e :: es =>
    match ofEvents es with
    | [] => []
    | t :: ts => { t with ending := some e } :: ts
  | _ :: es => ofEvents es

/-- What a step was asked for. -/
def demand (t : Taken σ) : Input σ.Value σ.Thrown × Mode :=
  (t.input, t.mode)

/-- The step ended, and its body will not go on. -/
def Final (t : Taken σ) : Prop :=
  ∃ e, t.ending = some e ∧ (t.mode = .close ∨ ∀ v, e ≠ .yielded v)

/-- The body stopped at a yield point and may go on. -/
def Open (t : Taken σ) : Prop :=
  (∃ v, t.ending = some (.yielded v)) ∧ t.mode ≠ .close

/-- The lawful lists of steps of a generator of a flavor, newest first. -/
def Grammar (f : Flavor) : List (Taken σ) → Prop
  | [] => True
  | t :: ts =>
    t.input.Suits t.mode ∧ (t.mode = .close → f = .legacy ∧ ts ≠ []) ∧
      (∀ t' ∈ ts.head?, t'.Open) ∧ Grammar f ts

theorem ofEvents_logged (rs : List Record) (g : GenId) (es : List (Event σ)) :
    ofEvents (rs.map (.logged g) ++ es) = ofEvents es := by
  induction rs with
  | nil => rfl
  | cons r rs ih => exact ih

/-- Later events add steps and end the last one. -/
theorem demand_ofEvents_suffix {es es' : List (Event σ)} (h : es <:+ es') :
    (ofEvents es).map demand <:+ (ofEvents es').map demand := by
  obtain ⟨new, rfl⟩ := h
  induction new with
  | nil => exact List.suffix_refl _
  | cons e new ih =>
    cases e with
    | began g input mode => exact ih.trans (List.suffix_cons _ _)
    | ended g e =>
      simp only [List.cons_append, ofEvents]
      cases hts : ofEvents (new ++ es) with
      | nil => rwa [hts] at ih
      | cons t ts => rwa [hts] at ih
    | _ => exact ih

/-- In a lawful list all steps but the newest are open, and each has its place. -/
theorem Grammar.of_mem {f : Flavor} {ts after before : List (Taken σ)} {t : Taken σ}
    (grammar : Grammar f ts) (split : ts = after ++ t :: before) :
    t.input.Suits t.mode ∧ (t.mode = .close → f = .legacy ∧ before ≠ []) ∧
      (after ≠ [] → t.Open) := by
  induction after generalizing ts with
  | nil =>
    subst split
    exact ⟨grammar.1, grammar.2.1, fun h => absurd rfl h⟩
  | cons u after ih =>
    subst split
    obtain ⟨-, -, head, rest⟩ := grammar
    obtain ⟨suits, closing, open_⟩ := ih rest rfl
    refine ⟨suits, closing, ?_⟩
    intro _
    cases after with
    | nil => exact head t rfl
    | cons => exact open_ (List.cons_ne_nil _ _)

end Taken

namespace Course

open Taken

variable {g : GenId} {f : Flavor} {ph : Phase} {n : Bool} {es : List (Event σ)}

/-- What lets a suspended generator be stepped: its last step yielded, and it has had one if it is
legacy and newborn no longer. -/
private def CanGoOn (f : Flavor) (n : Bool) (ts : List (Taken σ)) : Prop :=
  (∀ t ∈ ts.head?, t.Open) ∧ (f = .legacy → n = false → ts ≠ [])

private theorem grammar_and_canGoOn (h : Course g f ph n es) :
    Grammar f (ofEvents es) ∧ (ph = .suspended → CanGoOn f n (ofEvents es)) := by
  induction h with
  | fresh => exact ⟨trivial, fun _ => ⟨nofun, fun hf hn => by simp [hf] at hn⟩⟩
  | enter h hi hc ih =>
    obtain ⟨grammar, canGoOn⟩ := ih
    obtain ⟨head, stepped⟩ := canGoOn rfl
    refine ⟨⟨hi, ?_, head, grammar⟩, nofun⟩
    intro hm
    obtain ⟨legacy, started⟩ := hc hm
    exact ⟨legacy, stepped legacy started⟩
  | @leave es input mode h e ih =>
    obtain ⟨⟨suits, closing, head, grammar⟩, -⟩ := ih
    rw [ofEvents_logged]
    refine ⟨⟨suits, closing, head, grammar⟩, ?_⟩
    intro suspended
    refine ⟨?_, fun _ _ => nofun⟩
    intro t ht
    cases ht
    -- a step that leaves its generator suspended yielded, and was not to close it
    unfold Ending.exit at suspended
    split at suspended
    · cases suspended
    · next resuming =>
      obtain ⟨v, rfl⟩ := Ending.phase_eq_suspended_iff.mp suspended
      exact ⟨⟨v, rfl⟩, resuming⟩
  | stall h mode ih => exact ⟨ih.1, nofun⟩
  | shut h ih => exact ⟨ih.1, nofun⟩

/-- **A lawful course has lawful steps.** -/
theorem grammar (h : Course g f ph n es) : Grammar f (ofEvents es) :=
  h.grammar_and_canGoOn.1

/-- After a final step the generator is closed. -/
theorem closed_of_final (h : Course g f ph n es) {t : Taken σ} {ts : List (Taken σ)}
    (newest : ofEvents es = t :: ts) (final : t.Final) : ph = .closed := by
  obtain ⟨e, ended, stop⟩ := final
  cases h with
  | fresh => cases newest
  | enter h hi hc =>
    cases newest
    cases ended
  | leave h =>
    rw [ofEvents_logged] at newest
    cases newest
    cases ended
    unfold Ending.exit
    rcases stop with closing | stop
    · exact if_pos closing
    · cases e with
      | yielded v => exact absurd rfl (stop v)
      | _ => split <;> rfl
  | stall => rfl
  | shut => rfl

end Course

/-! ## Steps in a run -/

/-- The steps of a generator, oldest first. -/
def World.stepsOf (w : World σ) (g : GenId) : List (Taken σ) :=
  (Taken.ofEvents (w.course g)).reverse

theorem World.stepsOf_eq_append_cons {w : World σ} {g : GenId} {before after : List (Taken σ)}
    {t : Taken σ} (split : w.stepsOf g = before ++ t :: after) :
    Taken.ofEvents (w.course g) = after.reverse ++ t :: before.reverse := by
  have reversed := congrArg List.reverse split
  simpa [World.stepsOf] using reversed

theorem Input.suits_iff {V E : Type} {input : Input V E} {mode : Mode} :
    input.Suits mode ↔
      (∃ v, mode = .next ∧ input = .value v) ∨ (∃ e, mode = .throw ∧ input = .error e) ∨
        mode = .close ∧ input = .empty := by
  cases input <;> cases mode <;> simp [Input.Suits]

section Runs

variable {α : Type} {engine : Engine σ} {limit : Nat} {p : Program σ α} {s : σ.Shared}
  {m m' : Moment σ α} {g : GenId} {gen : Gen σ}

/-- A step in progress is the last one of its generator. -/
theorem Coherent.last_step {ps : List (Pending σ)} {w : World σ} {pd : Pending σ}
    (coherent : Coherent ps w) (hpd : pd ∈ ps) :
    (w.stepsOf pd.call.gen).getLast? = some ⟨pd.call.input, pd.call.mode, none⟩ := by
  obtain ⟨es, begun⟩ := (coherent.attends pd hpd).begun
  rw [World.stepsOf, List.getLast?_reverse, begun]
  rfl

/-- Steps are added at the end. -/
theorem demand_stepsOf_prefix (coherent : Coherent m.pending m.world)
    (later : Leads engine limit m m') (g : GenId) :
    (m.world.stepsOf g).map Taken.demand <+: (m'.world.stepsOf g).map Taken.demand := by
  have grown := course_suffix_of_leads coherent later g
  simpa [World.stepsOf, List.map_reverse] using Taken.demand_ofEvents_suffix grown

/-- **The steps of a generator obey a grammar, at every moment of every run.**  A step carries a
value to resume with, an error to raise, or nothing and is to close; every step but the last one
yielded; a close is the last step, is not the first one, and belongs to a legacy generator.  Later
steps come after the earlier ones, and there are none once the generator is closed or its last step
was final.  A step in progress is the last one. -/
theorem steps_lawful (h : Leads engine limit (.atTop p (.initial s)) m)
    (found : m.world.gen? g = some gen) (later : Leads engine limit m m') :
    (∀ before t after, m'.world.stepsOf g = before ++ t :: after →
      ((∃ v, t.mode = .next ∧ t.input = .value v) ∨ (∃ e, t.mode = .throw ∧ t.input = .error e) ∨
        t.mode = .close ∧ t.input = .empty) ∧
      (after ≠ [] → ∃ v, t.ending = some (.yielded v)) ∧
      (t.mode = .close → after = [] ∧ before ≠ [] ∧ gen.flavor = .legacy)) ∧
    (m.world.stepsOf g).map Taken.demand <+: (m'.world.stepsOf g).map Taken.demand ∧
    ((gen.phase = .closed ∨ ∃ t, (m.world.stepsOf g).getLast? = some t ∧ t.Final) →
      m'.world.stepsOf g = m.world.stepsOf g) ∧
    ∀ pd ∈ m'.pending, pd.call.gen = g →
      (m'.world.stepsOf g).getLast? = some ⟨pd.call.input, pd.call.mode, none⟩ := by
  have coherent := coherent_of_leads h
  have coherent' := coherent_of_leads (h.trans later)
  have known : m'.world.Known g gen.flavor :=
    later.keeps World.Known.move coherent (World.known_of_gen? found)
  refine ⟨?_, demand_stepsOf_prefix coherent later g, ?_, ?_⟩
  · intro before t after split
    obtain ⟨ph, n, course⟩ := known.course coherent'
    obtain ⟨suits, closing, open_⟩ := course.grammar.of_mem (World.stepsOf_eq_append_cons split)
    refine ⟨Input.suits_iff.mp suits, ?_, ?_⟩
    · intro more
      exact (open_ (by simpa using more)).1
    · intro close
      obtain ⟨legacy, earlier⟩ := closing close
      refine ⟨?_, by simpa using earlier, legacy⟩
      by_contra more
      exact (open_ (by simpa using more)).2 close
  · intro stop
    have closed : gen.phase = .closed := by
      rcases stop with closed | ⟨t, last, final⟩
      · exact closed
      · rw [World.stepsOf, List.getLast?_reverse] at last
        obtain ⟨ts, newest⟩ := List.head?_eq_some_iff.mp last
        exact (coherent.settled g gen found).course.closed_of_final newest final
    have retired := later.keeps World.Retired.move coherent
      (World.retired_of_closed coherent found closed)
    rw [World.stepsOf, World.stepsOf, retired.course]
  · intro pd hpd same
    rw [← same]
    exact coherent'.last_step hpd

end Runs

/-- A generator is about to be stepped, then closed although it yields, and then resumed in vain. -/
def cleanup : Moment errand Unit :=
  (Moment.atTop (.spawnAll [(.legacy, .yields)] (.issue (.request (.next 0 none)) fun _ =>
    .issue (.request (.close 0)) fun _ => .resume 0)) (.initial ())).after errands 9 1

theorem steps_lawful_cleanup :
    (cleanup.after errands 9 5).world.stepsOf 0 =
      [⟨.value none, .next, some (.yielded 0)⟩, ⟨.empty, .close, some (.yielded 0)⟩] ∧
    ∀ before t after, (cleanup.after errands 9 5).world.stepsOf 0 = before ++ t :: after →
      t.mode = .close → after = [] ∧ before ≠ [] := by
  have found : cleanup.world.gen? 0 = some (.fresh .legacy () .yields) := rfl
  obtain ⟨grammar, -⟩ := steps_lawful (.after 1) found (.after 5)
  refine ⟨rfl, ?_⟩
  intro before t after split closing
  obtain ⟨last, later, -⟩ := (grammar before t after split).2.2 closing
  exact ⟨last, later⟩

end Resumable
