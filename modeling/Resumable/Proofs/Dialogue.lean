import Resumable.Proofs.Nesting

/-!
# What callers are told

Of the history, two kinds of events are said to callers: that an iterator was made, and what a
request answered.  `World.dialogue` lists them, newest first.  Every move adds to it in one way
alone: making an iterator and an answer say what they are, and neither the gates nor a step says
anything.
-/

namespace Resumable

variable {σ : Signature}

/-- Whether an event is said to a caller. -/
def Event.spoken : Event σ → Bool
  | .opened _ => true
  | .answered _ _ => true
  | _ => false

namespace World

/-- What callers were told, newest first. -/
def dialogue (w : World σ) : List (Event σ) :=
  w.history.filter (·.spoken)

theorem dialogue_record (w : World σ) (e : Event σ) :
    (w.record e).dialogue = if e.spoken then e :: w.dialogue else w.dialogue :=
  List.filter_cons

theorem dialogue_congr {w w' : World σ} (h : w'.history = w.history) :
    w'.dialogue = w.dialogue :=
  congrArg (List.filter _) h

/-! ## Iterators at the gates -/

section Iterators

variable {w : World σ} {c : CursorId} {gen : Gen σ}

/-- What an iterator that is gone, in use or finished answers when it is advanced. -/
def advanceUsed (w : World σ) (c : CursorId) : Outcome (Option σ.Item) :=
  match w.cursor? c with
  | none => .refused .gone
  | some cur => if cur.busy then .refused .inUse else .returned none

/-- What an iterator that is gone, in use or finished answers when it is given up. -/
def discardUsed (w : World σ) (c : CursorId) : Outcome Unit :=
  match w.cursor? c with
  | none => .refused .gone
  | some cur => if cur.busy then .refused .inUse else .returned ()

theorem gateAdvance_of_used (used : w.cursor? c ≠ some ⟨false, false⟩) :
    w.gateAdvance c = .answered (w.advanceUsed c) w := by
  unfold gateAdvance advanceUsed
  rcases hc : w.cursor? c with _ | ⟨_ | _, _ | _⟩
  case some.false.false => exact absurd hc used
  all_goals rfl

theorem gateAdvance_of_unused (hc : w.cursor? c = some ⟨false, false⟩) :
    w.gateAdvance c =
      (gateNext c.gen none (w.modifyCursor c fun _ => ⟨false, true⟩)).map (tell c) := by
  simp [gateAdvance, hc]

/-- Only a finished iterator is given up without a look at its generator. -/
theorem gateDiscard_of_used (used : w.cursor? c ≠ some ⟨false, false⟩) :
    w.gateDiscard c = .answered (w.discardUsed c)
      (if w.cursor? c = some ⟨true, false⟩ then w.eraseCursor c else w) := by
  unfold gateDiscard discardUsed
  cases hc : w.cursor? c with
  | none => rfl
  | some cur =>
    obtain ⟨gen, found⟩ := Option.isSome_iff_exists.mp (isSome_gen?_of_cursor? hc)
    rw [found]
    obtain ⟨_ | _, _ | _⟩ := cur
    case false.false => exact absurd hc used
    all_goals simp

theorem gateDiscard_of_modern (hc : w.cursor? c = some ⟨false, false⟩)
    (found : w.gen? c.gen = some gen) (modern : gen.flavor = .modern) :
    w.gateDiscard c = .answered (.returned ())
      ((w.modifyCursor c fun _ => ⟨false, true⟩).eraseCursor c) := by
  simp [gateDiscard, hc, found, modern]

theorem gateDiscard_of_unused (hc : w.cursor? c = some ⟨false, false⟩)
    (found : w.gen? c.gen = some gen) (legacy : gen.flavor = .legacy) :
    w.gateDiscard c =
      (gateClose c.gen (w.modifyCursor c fun _ => ⟨false, true⟩)).map (dispose c) := by
  simp [gateDiscard, hc, found, legacy]

end Iterators

/-! ## Answers at the gates -/

section Gates

variable {w w' : World σ} {r : Request σ} {a : r.Reply}

theorem Becomes.dialogue {g : GenId} {gen : Gen σ} {es : List (Event σ)}
    (becomes : Becomes g gen es w w') (silent : ∀ e ∈ es, e.spoken = false) :
    w'.dialogue = w.dialogue := by
  have unspoken : es.filter (·.spoken) = [] :=
    List.filter_eq_nil_iff.mpr fun e he => by simp [silent e he]
  rw [World.dialogue, becomes.history, List.filter_append, unspoken]
  rfl

/-- Only the iterator of a request differs, and callers were told the same. -/
structure Handled (r : Request σ) (w w' : World σ) : Prop where
  alike : Alike w w'
  dialogue : w'.dialogue = w.dialogue
  cursor? : ∀ d, r.cursor? ≠ some d → w'.cursor? d = w.cursor? d

section Handled

variable {c : CursorId} {d : CursorId}

theorem Handled.refl : Handled r w w :=
  ⟨.refl, rfl, fun _ _ => rfl⟩

theorem handled_modifyCursor (hr : r.cursor? = some c) (f : Cursor → Cursor) :
    Handled r w (w.modifyCursor c f) := by
  refine ⟨alike_modifyCursor f, rfl, ?_⟩
  intro d hd
  have hne : c ≠ d := fun h => hd (h ▸ hr)
  rw [cursor?_modifyCursor, if_neg hne]

theorem handled_eraseCursor (hr : r.cursor? = some c) : Handled r w (w.eraseCursor c) := by
  refine ⟨alike_eraseCursor, rfl, ?_⟩
  intro d hd
  have hne : c ≠ d := fun h => hd (h ▸ hr)
  rw [cursor?_eraseCursor, if_neg hne]

theorem handled_dispose (hr : r.cursor? = some c) (x : Outcome (σ.Answer Unit) × World σ) :
    Handled r x.2 (dispose c x).2 := by
  refine ⟨alike_dispose x, ?_, ?_⟩
  · obtain ⟨(_ | _) | _ | _, _⟩ := x <;> rfl
  · intro d hd
    have hne : c ≠ d := fun h => hd (h ▸ hr)
    exact cursor?_dispose hne x

end Handled

/-- Besides what it does to its iterator, a request that is answered at the gates is answered by
those of its generator. -/
theorem gated_of_gate (gate : w.gate r = .answered a w') :
    ∃ (ρ : Type) (b : ρ) (v v' : World σ), Handled r w v ∧
      Gated r.target r.mode v (.answered b v') ∧ Handled r v' w' := by
  have untouched (same : w = w') : ∃ (ρ : Type) (b : ρ) (v v' : World σ), Handled r w v ∧
      Gated r.target r.mode v (.answered b v') ∧ Handled r v' w' :=
    same ▸ ⟨Unit, (), w, w, .refl, .answered (), .refl⟩
  have direct (hr : r.cursor? = none) : Gated r.target r.mode w (.answered a w') :=
    gate ▸ gated_gate hr
  cases r with
  | next g x => exact ⟨_, _, _, _, .refl, direct rfl, .refl⟩
  | throw g x => exact ⟨_, _, _, _, .refl, direct rfl, .refl⟩
  | close g => exact ⟨_, _, _, _, .refl, direct rfl, .refl⟩
  | advance c =>
    by_cases unused : w.cursor? c = some ⟨false, false⟩
    · obtain ⟨o, v, answered, told⟩ :=
        Passage.map_eq_answered ((gateAdvance_of_unused unused).symm.trans gate)
      have gated := gated_gateNext (w := w.modifyCursor c fun _ => ⟨false, true⟩) (g := c.gen) none
      rw [answered] at gated
      obtain rfl : (tell c (o, v)).2 = w' := congrArg Prod.snd told
      exact ⟨_, o, _, v, handled_modifyCursor rfl _, gated, handled_modifyCursor rfl _⟩
    · cases (gateAdvance_of_used unused).symm.trans gate
      exact untouched rfl
  | discard c =>
    by_cases unused : w.cursor? c = some ⟨false, false⟩
    · obtain ⟨gen, found⟩ := Option.isSome_iff_exists.mp (isSome_gen?_of_cursor? unused)
      cases flavor : gen.flavor with
      | modern =>
        cases (gateDiscard_of_modern unused found flavor).symm.trans gate
        exact ⟨Unit, (), _, _, handled_modifyCursor rfl _, .answered (), handled_eraseCursor rfl⟩
      | legacy =>
        obtain ⟨o, v, answered, disposed⟩ :=
          Passage.map_eq_answered ((gateDiscard_of_unused unused found flavor).symm.trans gate)
        have gated := gated_gateClose (w := w.modifyCursor c fun _ => ⟨false, true⟩) (g := c.gen)
        rw [answered] at gated
        obtain rfl : (dispose c (o, v)).2 = w' := congrArg Prod.snd disposed
        exact ⟨_, o, _, v, handled_modifyCursor rfl _, gated, handled_dispose rfl (o, v)⟩
    · have answered := (gateDiscard_of_used unused).symm.trans gate
      split at answered
      · cases answered
        exact ⟨Unit, (), w, w, .refl, .answered (), handled_eraseCursor rfl⟩
      · cases answered
        exact untouched rfl

/-- The gates say nothing. -/
theorem dialogue_of_gate (gate : w.gate r = .answered a w') : w'.dialogue = w.dialogue := by
  obtain ⟨ρ, b, v, v', before, gated, after⟩ := gated_of_gate gate
  rw [after.dialogue, ← before.dialogue]
  cases gated with
  | answered => rfl
  | shut found => exact (becomes_shutNewborn found).dialogue (by simp [Event.spoken])
  | stalled found => exact (becomes_stall found _ _).dialogue (by simp [Event.spoken])

/-- The gates change no iterator but the one of the request. -/
theorem cursor?_of_gate (gate : w.gate r = .answered a w') {d : CursorId}
    (hd : r.cursor? ≠ some d) : w'.cursor? d = w.cursor? d := by
  obtain ⟨ρ, b, v, v', before, gated, after⟩ := gated_of_gate gate
  rw [after.cursor? d hd, ← before.cursor? d hd]
  cases gated with
  | answered => rfl
  | shut found => exact (becomes_shutNewborn found).cursor? d
  | stalled found => exact (becomes_stall found _ _).cursor? d

end Gates

/-! ## Steps -/

theorem Departs.dialogue {r : Request σ} {call : Call σ} {gen : Gen σ} {w w' : World σ}
    (departs : Departs r call gen w w') : w'.dialogue = w.dialogue := by
  rw [World.dialogue, departs.history]
  rfl

section Lands

variable {pd : Pending σ} {e : σ.StepEnd} {gen : Gen σ} {w : World σ}

/-- The answer on record is the answer. -/
theorem Lands.recorded (lands : Lands pd e gen w (pd.conclude e w).2) :
    (pd.conclude e w).2.history = .answered pd.request (pd.conclude e w).1 ::
      ((pd.request.reports e.1 ++ e.1.reports pd.call.mode).map (.logged pd.call.gen) ++
        .ended pd.call.gen e.1 :: w.history) := by
  obtain ⟨a, history⟩ := lands.history
  have recorded : (pd.conclude e w).2.history =
    .answered pd.request (pd.conclude e w).1 :: (w.conclude pd.request pd.call e).2.history := rfl
  rw [history, (List.cons.inj (recorded.symm.trans history)).1]

/-- After a step the request is answered, and nothing else is said. -/
theorem Lands.dialogue (lands : Lands pd e gen w (pd.conclude e w).2) :
    (pd.conclude e w).2.dialogue =
      .answered pd.request (pd.conclude e w).1 :: w.dialogue := by
  have silent (rs : List Record) :
      (rs.map (Event.logged (σ := σ) pd.call.gen)).filter (·.spoken) = [] := by
    simp [List.filter_map, Function.comp_def, Event.spoken]
  rw [World.dialogue, lands.recorded]
  simp only [List.map_append, List.filter_cons, List.filter_append, silent]
  rfl

end Lands

/-! ## Other commands -/

/-- The iterator that a command makes. -/
def makes (w : World σ) : Command σ → Option CursorId
  | .iterate g => (w.iterate g).1
  | _ => none

section Serving

variable {w : World σ} {c : Command σ} (plain : ∀ r, c ≠ .request r)
include plain

theorem dialogue_serve :
    (w.serve Stepper.never c).2.dialogue =
      (w.makes c).toList.map .opened ++ w.dialogue := by
  cases c with
  | request r => exact absurd rfl (plain r)
  | iterate g =>
    simp only [serve, makes, iterate]
    cases w.slots.get? g <;> rfl
  | hold g =>
    simp only [serve, hold]
    cases (w.gen? g).bind (·.hold?) <;> rfl
  | release g =>
    simp only [serve, release]
    cases (w.gen? g).bind (·.release?) <;> rfl
  | consume g => exact dialogue_congr (w.history_consume g)
  | _ => rfl

theorem cursor?_serve (d : CursorId) :
    (w.serve Stepper.never c).2.cursor? d =
      if w.makes c = some d then some ⟨false, false⟩ else w.cursor? d := by
  cases c with
  | request r => exact absurd rfl (plain r)
  | iterate g => exact w.cursor?_iterate g d
  | hold g =>
    simp only [serve, hold]
    cases (w.gen? g).bind (·.hold?) <;> simp [makes]
  | release g =>
    simp only [serve, release]
    cases (w.gen? g).bind (·.release?) <;> simp [makes]
  | spawn flavor kind body => simp [serve, makes]
  | consume g => simp [serve, makes]
  | _ => rfl

end Serving

end World

end Resumable
