import Resumable.Proofs.Answers
import Resumable.Proofs.Lifetime

/-!
# Giving up iterators of legacy generators

An iterator that is given up closes its legacy generator unless it is finished, so what closing
comes down to is what made it finish.  It finishes when it reports the end or an error, and then the
generator is closed.  It also finishes when it is advanced in the middle of a step of its generator
and turned away as nesting, and then the generator is as open as before
(`World.Accounted`).  `closed_iff_never_rebuffed`: whether the generator is closed once an iterator
has been given up depends on whether the iterator was ever turned away.
-/

namespace Resumable

variable {σ : Signature}

/-! ## What an iterator reported -/

/-- What an iterator reported since it was made, as told by a dialogue, newest first. -/
def reportsIn (c : CursorId) : List (Event σ) → List (Outcome (Option σ.Item))
  | [] => []
  | .opened d :: es => if d = c then [] else reportsIn c es
  | .answered (.advance d) a :: es => if d = c then a :: reportsIn c es else reportsIn c es
  | _ :: es => reportsIn c es

/-- The item of an iterator that was advanced in the middle of a step of its generator. -/
def Cursor.rebuffed : Outcome (Option σ.Item) :=
  .returned (some (.error .nesting))

namespace World

/-- What an iterator reported since it was made, newest first. -/
def reported (w : World σ) (c : CursorId) : List (Outcome (Option σ.Item)) :=
  reportsIn c w.dialogue

/-- An iterator was turned away in the middle of a step of its generator. -/
def Rebuffed (w : World σ) (c : CursorId) : Prop :=
  Cursor.rebuffed ∈ w.reported c

section Reports

variable {w w' : World σ} {c d : CursorId} {r : Request σ} {a : r.Reply}

theorem rebuffed_congr (same : w'.dialogue = w.dialogue) : w'.Rebuffed c ↔ w.Rebuffed c := by
  unfold Rebuffed reported
  rw [same]

theorem reportsIn_answered {es : List (Event σ)} (other : r ≠ .advance c) :
    reportsIn c (.answered r a :: es) = reportsIn c es := by
  cases r with
  | advance d =>
    have hd : d ≠ c := fun h => other (h ▸ rfl)
    exact if_neg hd
  | _ => rfl

/-- Answers to other requests are not reports. -/
theorem rebuffed_answered (said : w'.dialogue = .answered r a :: w.dialogue)
    (other : r ≠ .advance c) : w'.Rebuffed c ↔ w.Rebuffed c := by
  unfold Rebuffed reported
  rw [said, reportsIn_answered other]

theorem rebuffed_advanced {a : Outcome (Option σ.Item)}
    (said : w'.dialogue = .answered (.advance c) a :: w.dialogue) :
    w'.Rebuffed c ↔ a = Cursor.rebuffed ∨ w.Rebuffed c := by
  unfold Rebuffed reported
  rw [said, reportsIn, if_pos rfl, List.mem_cons, eq_comm]

end Reports

/-! ## What finished iterators have been through -/

/-- What is known of an iterator and the generator that it runs over. -/
structure Accounted (w : World σ) (c : CursorId) (cur : Cursor) : Prop where
  busy : cur.busy = true → cur.finished = false
  rebuffed : w.Rebuffed c → cur.finished = true
  finished : cur.finished = true →
    w.Rebuffed c ∨ ∀ gen, w.gen? c.gen = some gen → gen.phase = .closed

section Accounted

variable {ps ps' : List (Pending σ)} {w w' v : World σ} {c : CursorId} {cur : Cursor}
  {o : Outcome (σ.Answer (Completion σ.Value))}

/-- A generator that is closed stays closed. -/
theorem closed_of_move (coherent : Coherent ps w) (move : Move ps w ps' w') {g : GenId}
    (there : (w.gen? g).isSome) (closed : ∀ gen, w.gen? g = some gen → gen.phase = .closed)
    {gen' : Gen σ} (found' : w'.gen? g = some gen') : gen'.phase = .closed := by
  obtain ⟨gen, found⟩ := Option.isSome_iff_exists.mp there
  have retired := retired_of_closed coherent found (closed gen found)
  obtain ⟨n, rfl⟩ := (retired.move coherent move).gen? gen' found'
  exact closed gen found

/-- An iterator to which nothing happens. -/
theorem Accounted.still (accounted : w.Accounted c cur) (coherent : Coherent ps w)
    (move : Move ps w ps' w') (hc : w.cursor? c = some cur)
    (same : w'.Rebuffed c ↔ w.Rebuffed c) : w'.Accounted c cur := by
  refine ⟨accounted.busy, accounted.rebuffed ∘ same.mp, ?_⟩
  intro finished
  rcases accounted.finished finished with rebuffed | closed
  · exact .inl (same.mpr rebuffed)
  · exact .inr fun gen' => closed_of_move coherent move (isSome_gen?_of_cursor? hc) closed

/-- An iterator that is turned away is finished. -/
theorem report_eq_rebuffed (h : (Cursor.report o).2 = Cursor.rebuffed) :
    (Cursor.report o).1 = true := by
  rcases o with (f | ⟨v, d⟩ | v) | p | r
  · cases f <;> rfl
  · cases d
    · cases v <;> cases h
    · rfl
  all_goals cases h

/-- An iterator that was asked for an item and was not turned away before. -/
theorem accounted_told
    (said : w'.dialogue = .answered (.advance c) (Cursor.report o).2 :: w.dialogue)
    (welcome : ¬ w.Rebuffed c)
    (finished : (Cursor.report o).1 = true → (Cursor.report o).2 = Cursor.rebuffed ∨
      ∀ gen, w'.gen? c.gen = some gen → gen.phase = .closed) :
    w'.Accounted c ⟨(Cursor.report o).1, false⟩ := by
  refine ⟨nofun, ?_, ?_⟩
  · intro rebuffed
    rcases (rebuffed_advanced said).mp rebuffed with now | before
    · exact report_eq_rebuffed now
    · exact absurd before welcome
  · intro done
    rcases finished done with now | closed
    · exact .inl ((rebuffed_advanced said).mpr (.inl now))
    · exact .inr closed

/-- At the gates an iterator finishes over a closed generator, or by being turned away. -/
theorem finished_of_gateNext {g : GenId} (gate : w.gateNext g none = .answered o v)
    (finished : (Cursor.report o).1 = true) :
    (Cursor.report o).2 = Cursor.rebuffed ∨ ∀ gen, v.gen? g = some gen → gen.phase = .closed := by
  cases found : w.gen? g with
  | none =>
    simp only [gateNext, found] at gate
    cases gate
    cases finished
  | some gen =>
    by_cases ready : Ready gen .next
    · rw [gateNext_of_ready found ready, depart] at gate
      split at gate
      · cases gate
      · cases gate
        cases finished
    · rw [gateNext_of_not_ready found ready] at gate
      cases gate
      by_cases closed : gen.phase = .closed
      · right
        intro gen' found'
        cases found.symm.trans found'
        exact closed
      · left
        rw [Gen.answerNext, if_neg closed]
        rfl

/-- After a step an iterator finishes over a closed generator. -/
theorem finished_of_step {e : Ending σ.Value σ.Thrown} {f : Flavor} (mode : Mode)
    (finished : (Cursor.report (e.outcome.map (·.map (·.complete f)))).1 = true) :
    e.exit mode = .closed := by
  cases e with
  | yielded v => cases f <;> cases finished
  | _ => cases mode <;> rfl

theorem cursor?_dispose_self (x : Outcome (σ.Answer Unit) × World σ) :
    (dispose c x).2.cursor? c = none := by
  obtain ⟨(_ | _) | _ | _, _⟩ := x <;> simp [dispose, cursor?_eraseCursor]

/-- An iterator that is still there after a request to give it up was in use. -/
theorem eq_of_gateDiscard {a : Outcome Unit} (gate : w.gateDiscard c = .answered a v)
    (there : v.cursor? c = some cur) : v = w := by
  have gone {u : World σ} (erased : u.eraseCursor c = v) : v = w := by
    rw [← erased, cursor?_eraseCursor, if_pos rfl] at there
    cases there
  by_cases unused : w.cursor? c = some ⟨false, false⟩
  · obtain ⟨gen, found⟩ := Option.isSome_iff_exists.mp (isSome_gen?_of_cursor? unused)
    cases flavor : gen.flavor with
    | modern =>
      cases (gateDiscard_of_modern unused found flavor).symm.trans gate
      exact gone rfl
    | legacy =>
      obtain ⟨o, u, -, disposed⟩ :=
        Passage.map_eq_answered ((gateDiscard_of_unused unused found flavor).symm.trans gate)
      obtain rfl : (dispose c (o, u)).2 = v := congrArg Prod.snd disposed
      cases (cursor?_dispose_self (o, u)).symm.trans there
  · have answered := (gateDiscard_of_used unused).symm.trans gate
    split at answered
    · cases answered
      exact gone rfl
    · cases answered
      rfl

section Moves

variable (coherent : Coherent ps w) (before : ∀ c cur, w.cursor? c = some cur → w.Accounted c cur)
include coherent before

theorem accounted_of_gateAdvance {a : Outcome (Option σ.Item)}
    (gate : w.gate (.advance c) = .answered a v)
    (hc : (v.record (.answered (.advance c) a)).cursor? c = some cur) :
    (v.record (.answered (.advance c) a)).Accounted c cur := by
  have move : Move ps w ps (v.record (.answered (.advance c) a)) := .answer gate
  have said : (v.record (.answered (.advance c) a)).dialogue =
      .answered (.advance c) a :: w.dialogue := by
    rw [dialogue_record, dialogue_of_gate gate]
    rfl
  have still (same : v = w) (polite : a ≠ Cursor.rebuffed) :
      (v.record (.answered (.advance c) a)).Accounted c cur := by
    rw [cursor?_record, same] at hc
    exact (before c cur hc).still coherent move hc
      ((rebuffed_advanced said).trans (or_iff_right polite))
  by_cases unused : w.cursor? c = some ⟨false, false⟩
  · obtain ⟨o, u, answered, told⟩ :=
      Passage.map_eq_answered ((gateAdvance_of_unused unused).symm.trans gate)
    obtain ⟨rfl, rfl⟩ := Prod.mk.inj told
    have welcome : ¬ w.Rebuffed c := Bool.false_ne_true ∘ (before c _ unused).rebuffed
    have marked : u.cursor? c = some ⟨false, true⟩ := by
      have same := cursor?_of_gate (r := .next c.gen none) answered (d := c) nofun
      rw [same, cursor?_modifyCursor, if_pos rfl, unused, Option.map_some]
    rw [cursor?_record, cursor?_modifyCursor, if_pos rfl, marked] at hc
    cases hc
    refine accounted_told said welcome fun finished => ?_
    rcases finished_of_gateNext answered finished with rebuffed | closed
    · exact .inl rebuffed
    · refine .inr fun gen found => closed gen ?_
      simpa [tell] using found
  · cases (gateAdvance_of_used unused).symm.trans gate
    apply still rfl
    unfold advanceUsed
    split
    · rintro ⟨⟩
    · split <;> rintro ⟨⟩

/-- A request at the gates, seen from an iterator that is there afterwards. -/
theorem accounted_of_gate {r : Request σ} {a : r.Reply} (gate : w.gate r = .answered a v)
    (hc : (v.record (.answered r a)).cursor? c = some cur) :
    (v.record (.answered r a)).Accounted c cur := by
  have move : Move ps w ps (v.record (.answered r a)) := .answer gate
  have said : (v.record (.answered r a)).dialogue = .answered r a :: w.dialogue := by
    rw [dialogue_record, dialogue_of_gate gate]
    rfl
  have still (same : v.cursor? c = w.cursor? c) (other : r ≠ .advance c) :
      (v.record (.answered r a)).Accounted c cur := by
    rw [cursor?_record, same] at hc
    exact (before c cur hc).still coherent move hc (rebuffed_answered said other)
  by_cases hr : r.cursor? = some c
  case neg =>
    have other : r ≠ .advance c := fun h => hr (h ▸ rfl)
    exact still (cursor?_of_gate gate hr) other
  cases r with
  | next g x => cases hr
  | throw g x => cases hr
  | close g => cases hr
  | advance d =>
    cases hr
    exact accounted_of_gateAdvance coherent before gate hc
  | discard d =>
    cases hr
    exact still (congrArg (cursor? · c) (eq_of_gateDiscard gate hc)) nofun

end Moves

/-- The end of a step that an iterator was advanced by. -/
theorem accounted_of_advanced {call : Call σ} {e : σ.StepEnd}
    (coherent : Coherent (⟨.advance c, call⟩ :: ps) w)
    (before : ∀ c cur, w.cursor? c = some cur → w.Accounted c cur)
    (hc : (Pending.conclude ⟨.advance c, call⟩ e w).2.cursor? c = some cur) :
    (Pending.conclude ⟨.advance c, call⟩ e w).2.Accounted c cur := by
  obtain ⟨gen, found, running, lands⟩ := coherent.lands e
  obtain ⟨target, -⟩ := coherent.attends _ List.mem_cons_self
  obtain ⟨cur₀, there, busy⟩ := (coherent.busy c).mpr ⟨_, List.mem_cons_self, rfl⟩
  have welcome : ¬ w.Rebuffed c := by
    intro rebuffed
    have accounted := before c cur₀ there
    cases (accounted.busy busy).symm.trans (accounted.rebuffed rebuffed)
  have told : (Pending.conclude ⟨.advance c, call⟩ e w).2.cursor? c =
      ((landResumed call e w).2.cursor? c).map fun _ =>
        ⟨(Cursor.report (landResumed call e w).1).1, false⟩ := by
    simp only [Pending.conclude, conclude, tell, cursor?_record, cursor?_modifyCursor, if_true]
  rw [told] at hc
  obtain ⟨-, -, rfl⟩ := Option.map_eq_some_iff.mp hc
  refine accounted_told lands.dialogue welcome fun finished => .inr ?_
  intro gen' found'
  rw [landResumed_fst] at finished
  have there : c.gen = call.gen := target
  rw [there, lands.self] at found'
  cases found'
  exact finished_of_step call.mode finished

/-- Every move keeps all iterators accounted for. -/
theorem accounted_of_move (coherent : Coherent ps w) (move : Move ps w ps' w')
    (before : ∀ c cur, w.cursor? c = some cur → w.Accounted c cur) :
    ∀ c cur, w'.cursor? c = some cur → w'.Accounted c cur := by
  intro c cur hc
  have keeps (same : w'.cursor? c = w.cursor? c) (rebuffed : w'.Rebuffed c ↔ w.Rebuffed c) :
      w'.Accounted c cur := by
    rw [same] at hc
    exact (before c cur hc).still coherent move hc rebuffed
  cases move with
  | @serve _ _ command plain =>
    have cursor := cursor?_serve (w := w) plain c
    have said := dialogue_serve (w := w) plain
    by_cases made : w.makes command = some c
    · rw [cursor, if_pos made] at hc
      cases hc
      have fresh : ¬ (w.serve Stepper.never command).2.Rebuffed c := by
        unfold Rebuffed reported
        rw [said, made]
        simp [reportsIn]
      exact ⟨nofun, fun rebuffed => absurd rebuffed fresh, nofun⟩
    · rw [if_neg made] at cursor
      apply keeps cursor
      unfold Rebuffed reported
      rw [said]
      cases other : w.makes command with
      | none => rfl
      | some d =>
        have hd : d ≠ c := fun h => made (h ▸ other)
        simp [reportsIn, hd]
  | answer gate => exact accounted_of_gate coherent before gate hc
  | @enter _ _ _ r call gate =>
    obtain ⟨gen, departs⟩ := departs_of_gate gate
    have rebuffed := rebuffed_congr (c := c) departs.dialogue
    have cursor := departs.cursor? c
    by_cases hr : r.cursor? = some c
    · rw [cursor, if_pos hr] at hc
      cases hc
      have welcome := (before c _ (departs.idle c hr)).rebuffed
      exact ⟨fun _ => rfl, welcome ∘ rebuffed.mp, nofun⟩
    · rw [if_neg hr] at cursor
      exact keeps cursor rebuffed
  | @leave _ _ pd e =>
    obtain ⟨gen, found, running, lands⟩ := coherent.lands e
    have said := lands.dialogue
    by_cases hr : pd.request.cursor? = some c
    case neg =>
      have other : pd.request ≠ .advance c := fun h => hr (h ▸ rfl)
      exact keeps (lands.cursor? c hr) (rebuffed_answered said other)
    obtain ⟨r, call⟩ := pd
    cases r with
    | next g x => cases hr
    | throw g x => cases hr
    | close g => cases hr
    | advance d =>
      cases hr
      exact accounted_of_advanced coherent before hc
    | discard d =>
      cases hr
      have gone := cursor?_dispose_self (c := c) (landClosed call e w)
      cases hc.symm.trans gone

end Accounted

/-! ## Giving up an iterator -/

section Discard

variable {w u : World σ} {g : GenId} {c : CursorId} {gen : Gen σ}

/-- A legacy generator at rest that is closed without a step is closed. -/
theorem closed_of_gateClose {o : Outcome (σ.Answer Unit)} (found : w.gen? g = some gen)
    (legacy : gen.flavor = .legacy) (resting : gen.phase ≠ .running)
    (gate : w.gateClose g = .answered o u) :
    ∃ gen', u.gen? g = some gen' ∧ gen'.phase = .closed := by
  simp only [gateClose, found, legacy] at gate
  cases phase : gen.phase with
  | running => exact absurd phase resting
  | closed =>
    simp only [phase] at gate
    cases gate
    exact ⟨gen, found, phase⟩
  | suspended =>
    cases newborn : gen.newborn with
    | true =>
      simp only [phase, newborn] at gate
      cases gate
      exact ⟨_, (becomes_shutNewborn found).self, rfl⟩
    | false =>
      simp only [phase, newborn, depart] at gate
      split at gate
      · cases gate
      · cases gate
        exact ⟨_, (becomes_stall found _ _).self, rfl⟩

theorem gateDiscard_of_finished (hc : w.cursor? c = some ⟨true, false⟩)
    (found : w.gen? c.gen = some gen) :
    w.gateDiscard c = .answered (.returned ()) (w.eraseCursor c) := by
  simp [gateDiscard, hc, found]

end Discard

end World

/-- Any steps in progress are those of some stack. -/
theorem exists_stack (pd : Pending σ) (ps : List (Pending σ)) :
    ∃ st : Stack σ Unit, st.pending = pd :: ps := by
  induction ps generalizing pd with
  | nil => exact ⟨.base ⟨pd, fun _ => .done ()⟩, rfl⟩
  | cons pd' ps ih =>
    obtain ⟨st, pending⟩ := ih pd'
    exact ⟨.push ⟨pd, fun _ => .done (.panicked .tooDeep, pd.call.body)⟩ st,
      congrArg (pd :: ·) pending⟩

theorem Stack.height_pos {α : Type} (st : Stack σ α) : 0 < st.height := by
  cases st <;> simp [Stack.height]

/-- A step that is entered runs to an end at which it still fits the world. -/
theorem Coherent.stepper {ps : List (Pending σ)} {pd : Pending σ} {w : World σ}
    (coherent : Coherent (pd :: ps) w) (engine : Engine σ) (d : Nat) :
    Coherent (pd :: ps)
      (engine.stepper d pd.call.gen pd.call.body pd.call.input pd.call.mode w).2 := by
  obtain ⟨st, pending⟩ := exists_stack pd ps
  have positive := st.height_pos
  have leads := leads_stepper engine (d + st.height - 1) d st pd.call w (by omega)
  rw [← pending] at coherent ⊢
  exact leads.invariant Coherent.move coherent

section Runs

variable {α : Type} {engine : Engine σ} {limit : Nat} {p : Program σ α} {s : σ.Shared}
  {m : Moment σ α} {c : CursorId} {gen : Gen σ}

theorem accounted_of_leads (h : Leads engine limit (.atTop p (.initial s)) m) :
    ∀ c cur, m.world.cursor? c = some cur → m.world.Accounted c cur :=
  h.keeps (P := fun w => ∀ c cur, w.cursor? c = some cur → w.Accounted c cur)
    World.accounted_of_move (Coherent.start s) nofun

/-- An unfinished iterator closes its generator, however the close goes. -/
theorem closed_of_unfinished {ps : List (Pending σ)} {w : World σ} (coherent : Coherent ps w)
    (hc : w.cursor? c = some ⟨false, false⟩) (found : w.gen? c.gen = some gen)
    (legacy : gen.flavor = .legacy) (resting : gen.phase ≠ .running) (d : Nat) :
    ∃ gen', (w.serve (engine.stepper d) (.request (.discard c))).2.gen? c.gen = some gen' ∧
      gen'.phase = .closed := by
  cases gate : w.gate (.discard c) with
  | answered a v =>
    rw [World.serve_of_gate_answered gate]
    simp only [World.gate, World.gateDiscard_of_unused hc found legacy] at gate
    obtain ⟨o, u, answered, disposed⟩ := Passage.map_eq_answered gate
    obtain rfl : (World.dispose c (o, u)).2 = v := congrArg Prod.snd disposed
    have marked := (w.gen?_modifyCursor c (fun _ => ⟨false, true⟩) c.gen).trans found
    obtain ⟨gen', found', closed⟩ := World.closed_of_gateClose marked legacy resting answered
    exact ⟨gen', ((World.alike_dispose (o, u)).gen? c.gen).trans found', closed⟩
  | stepping call v =>
    rw [(World.enters_of_gate gate).serve]
    obtain ⟨gen₀, departs⟩ := World.departs_of_gate gate
    have target : c.gen = call.gen := departs.target
    have closing : .close = call.mode := departs.mode
    have entered : Coherent (⟨.discard c, call⟩ :: ps) v := coherent.move (.enter gate)
    have stepped := entered.stepper engine d
    generalize engine.stepper d call.gen call.body call.input call.mode v = x at stepped ⊢
    obtain ⟨gen', -, -, lands⟩ := stepped.lands x.1
    rw [target]
    refine ⟨_, lands.self, ?_⟩
    simp [Gen.landed, Ending.exit, ← closing]

/-- **Giving up an iterator of a legacy generator closes it, unless the iterator was ever turned
away in the middle of a step of the generator.**  Such an iterator leaves the generator as open as
it is.  The iterator is given up at any moment at which no step of the generator is in progress, and
whatever bodies do on the way. -/
theorem closed_iff_never_rebuffed (h : Leads engine limit (.atTop p (.initial s)) m)
    (there : (m.world.cursor? c).isSome) (found : m.world.gen? c.gen = some gen)
    (legacy : gen.flavor = .legacy) (outside : c.gen ∉ m.active) (d : Nat) :
    ∃ gen', (m.world.serve (engine.stepper d) (.request (.discard c))).2.gen? c.gen = some gen' ∧
      (gen'.phase = .closed ↔ gen.phase = .closed ∨ ¬ m.world.Rebuffed c) := by
  have coherent := coherent_of_leads h
  obtain ⟨cur, hc⟩ := Option.isSome_iff_exists.mp there
  obtain ⟨-, rebuffed, finished⟩ := accounted_of_leads h c cur hc
  have resting : gen.phase ≠ .running := outside ∘ (coherent.settled c.gen gen found).active
  have idle : ¬ m.world.Busy c := by
    intro busy
    obtain ⟨pd, hpd, hr⟩ := (coherent.busy c).mp busy
    apply outside
    rw [Request.gen_of_cursor? hr, (coherent.attends pd hpd).target]
    exact List.mem_map.mpr ⟨pd, hpd, rfl⟩
  have unused : cur.busy = false := Bool.eq_false_iff.mpr fun hb => idle ⟨cur, hc, hb⟩
  obtain ⟨done, busy⟩ := cur
  cases unused
  cases done with
  | true =>
    have gate : m.world.gate (.discard c) = .answered (.returned ()) (m.world.eraseCursor c) :=
      World.gateDiscard_of_finished hc found
    rw [World.serve_of_gate_answered gate]
    refine ⟨gen, by simpa using found, .inl, ?_⟩
    rintro (closed | welcome)
    · exact closed
    · exact (finished rfl).resolve_left welcome gen found
  | false =>
    obtain ⟨gen', found', closed⟩ := closed_of_unfinished coherent hc found legacy resting d
    refine ⟨gen', found', fun _ => .inr ?_, fun _ => closed⟩
    intro turned
    cases rebuffed turned

end Runs

/-- A legacy generator with an iterator, resumed once, whose iterator is then to be given up. -/
def resumedWithIterator : Moment errand Unit :=
  .atTop (.spawnAll [(.legacy, .yields)] (.issue (.iterate 0) fun _ =>
    .issue (.request (.next 0 none)) fun _ =>
      .issue (.request (.discard ⟨0, 0⟩)) fun _ => .done ())) (.initial ())

theorem closed_iff_never_rebuffed_resumed :
    ∃ gen', ((resumedWithIterator.after errands 9 4).world.serve (errands.stepper 9)
        (.request (.discard ⟨0, 0⟩))).2.gen? 0 = some gen' ∧ gen'.phase = .closed := by
  have found : (resumedWithIterator.after errands 9 4).world.gen? 0 =
    some ⟨.suspended, false, .legacy, (), .yields, .shared 0⟩ := rfl
  have reported : (resumedWithIterator.after errands 9 4).world.reported ⟨0, 0⟩ = [] := rfl
  have welcome : ¬ (resumedWithIterator.after errands 9 4).world.Rebuffed ⟨0, 0⟩ := by
    simp [World.Rebuffed, reported]
  obtain ⟨gen', found', closed⟩ :=
    closed_iff_never_rebuffed (c := ⟨0, 0⟩) (.after 4) rfl found rfl nofun 9
  exact ⟨gen', found', closed.mpr (.inr welcome)⟩

/-- Bodies that in every step advance the first iterator over the generator that they belong to. -/
def peeks : Engine errand := fun g body _ _ =>
  .issue (.request (.advance ⟨g, 0⟩)) fun _ => .done (.yielded 1, body)

/-- Such an iterator is given up while no step is in progress, and its generator stays open. -/
theorem open_after_discard :
    let m := resumedWithIterator.after peeks 9 5
    Leads peeks 9 resumedWithIterator m ∧ m.active = [] ∧
      m.world.cursor? ⟨0, 0⟩ = some ⟨true, false⟩ ∧
      (m.world.gen? 0).map (·.flavor) = some .legacy ∧
      (m.world.serve (peeks.stepper 9) (.request (.discard ⟨0, 0⟩))).2.phaseOf 0 = .suspended :=
  ⟨.after 5, rfl, rfl, rfl, rfl⟩

end Resumable
