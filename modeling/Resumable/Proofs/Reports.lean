import Resumable.Proofs.IteratorClose
import Resumable.Proofs.Reentrancy
import Resumable.Proofs.Trail

/-!
# The reports of an iterator

An iterator reports values, then one fault at most, and from there on nothing but the end.  It keeps
to this order whoever else steps, closes or loses its generator in the meantime, since it never goes
on after it has finished, and finishes with the first report that is no value (`Cursor.Lawful`).
Seen from the iterator, a move does one of seven things (`World.Treats`), and each keeps the order.
A panic is no report; it leaves the generator closed, so that only the end is left to report
(`iterator_ends_once`).
-/

namespace Resumable

variable {σ : Signature}

/-- What an operation returned, if it returned. -/
def Outcome.returned? {α : Type} : Outcome α → Option α
  | .returned a => some a
  | _ => none

/-! ## Reports in order -/

namespace Cursor

/-- What an unfinished iterator can come out with, and whether it is finished then. -/
inductive Tells : Bool → Outcome (Option σ.Item) → Prop
  | item (v : σ.Value) : Tells false (.returned (some (.ok v)))
  | ended : Tells true (.returned none)
  | raised (e : σ.Thrown) : Tells true (.returned (some (.error (.raised e))))
  | rebuffed : Tells true rebuffed
  | panicked (p : Panic) : Tells false (.panicked p)

/-- Reports of one iterator, newest first, and whether it is finished after them. -/
inductive Lawful : Bool → List (Outcome (Option σ.Item)) → Prop
  | start : Lawful false []
  | told {f : Bool} {a : Outcome (Option σ.Item)} {rs : List (Outcome (Option σ.Item))}
      (before : Lawful false rs) (tells : Tells f a) : Lawful f (a :: rs)
  | ended {rs : List (Outcome (Option σ.Item))} (before : Lawful true rs) :
      Lawful true (.returned none :: rs)
  | refused {f : Bool} {rs : List (Outcome (Option σ.Item))} (before : Lawful f rs) (r : Refusal) :
      Lawful f (.refused r :: rs)

/-- A report that is no value. -/
def Final (a : Outcome (Option σ.Item)) : Prop :=
  a = .returned none ∨ ∃ f, a = .returned (some (.error f))

/-- What an iterator returned, oldest first. -/
def returns (rs : List (Outcome (Option σ.Item))) : List (Option σ.Item) :=
  rs.reverse.filterMap (·.returned?)

section Lawful

variable {f : Bool} {a : Outcome (Option σ.Item)} {rs : List (Outcome (Option σ.Item))}

theorem returns_cons : returns (a :: rs) = returns rs ++ a.returned?.toList := by
  rw [returns, List.reverse_cons, List.filterMap_append]
  cases h : a.returned? <;> simp [returns, h]

theorem Lawful.finished (lawful : Lawful f rs) (ha : a ∈ rs) (final : Final a) : f = true := by
  induction lawful with
  | start => cases ha
  | told before tells ih =>
    rcases List.mem_cons.mp ha with rfl | earlier
    · cases tells with
      | item | panicked => rcases final with h | ⟨f, h⟩ <;> cases h
      | _ => rfl
    · cases ih earlier
  | ended => rfl
  | refused before r ih =>
    rcases List.mem_cons.mp ha with rfl | earlier
    · rcases final with h | ⟨f, h⟩ <;> cases h
    · exact ih earlier

/-- Until it is finished, an iterator returns values only. -/
theorem Lawful.returns_of_unfinished (lawful : Lawful false rs) :
    ∃ vs : List σ.Value, returns rs = vs.map (some ∘ .ok) := by
  generalize hf : false = f at lawful
  induction lawful with
  | start => exact ⟨[], rfl⟩
  | told before tells ih =>
    obtain ⟨vs, returned⟩ := ih rfl
    rw [returns_cons, returned]
    cases tells with
    | item v => exact ⟨vs ++ [v], by simp [Outcome.returned?]⟩
    | panicked p => exact ⟨vs, List.append_nil _⟩
    | _ => cases hf
  | ended => cases hf
  | refused before r ih =>
    obtain ⟨vs, returned⟩ := ih hf
    exact ⟨vs, by rw [returns_cons, returned]; exact List.append_nil _⟩

/-- **Values, then at most one fault, then the end for ever.** -/
theorem Lawful.returns (lawful : Lawful f rs) :
    ∃ (vs : List σ.Value) (fault : Option σ.Fault) (n : Nat),
      Cursor.returns rs =
        vs.map (some ∘ .ok) ++ fault.toList.map (some ∘ .error) ++ List.replicate n none ∧
      ∀ x ∈ fault, x = .nesting ∨ ∃ e, x = .raised e := by
  induction lawful with
  | start => exact ⟨[], none, 0, rfl, nofun⟩
  | @told f a rs before tells ih =>
    obtain ⟨vs, returned⟩ := before.returns_of_unfinished
    rw [returns_cons, returned]
    cases tells with
    | item v => exact ⟨vs ++ [v], none, 0, by simp [Outcome.returned?], nofun⟩
    | ended => exact ⟨vs, none, 1, by simp [Outcome.returned?], nofun⟩
    | raised e => exact ⟨vs, some (.raised e), 0, by simp [Outcome.returned?], by simp⟩
    | rebuffed => exact ⟨vs, some .nesting, 0, by simp [Outcome.returned?, rebuffed], by simp⟩
    | panicked p => exact ⟨vs, none, 0, by simp [Outcome.returned?], nofun⟩
  | ended before ih =>
    obtain ⟨vs, fault, n, returned, known⟩ := ih
    refine ⟨vs, fault, n + 1, ?_, known⟩
    rw [returns_cons, returned, List.replicate_succ', List.append_assoc]
    rfl
  | refused before r ih =>
    obtain ⟨vs, fault, n, returned, known⟩ := ih
    exact ⟨vs, fault, n, by rw [returns_cons, returned]; exact List.append_nil _, known⟩

end Lawful

/-- After a step an unfinished iterator comes out with something. -/
theorem tells_of_step (e : Ending σ.Value σ.Thrown) (f : Flavor) :
    let x := report (e.outcome.map (·.map (·.complete f)))
    Tells x.1 x.2 := by
  cases e with
  | yielded v => cases f <;> exact .item v
  | returned v =>
    cases f with
    | modern => exact .ended
    | legacy => exact .item v
  | raised x => exact .raised x
  | panicked p => exact .panicked p

end Cursor

/-! ## Moves, seen from an iterator -/

namespace World

section Gates

variable {w v : World σ} {g : GenId} {gen : Gen σ} {o : Outcome (σ.Answer (Completion σ.Value))}

/-- At the gates an unfinished iterator panics only over readers, and the generator is closed
then. -/
theorem tells_of_gateNext (found : w.gen? g = some gen) (gate : w.gateNext g none = .answered o v) :
    Cursor.Tells (Cursor.report o).1 (Cursor.report o).2 ∧
      ∀ p, (Cursor.report o).2 = .panicked p →
        ∀ gen', v.gen? g = some gen' → gen'.phase = .closed := by
  by_cases ready : Ready gen .next
  · rw [gateNext_of_ready found ready, depart] at gate
    split at gate
    · cases gate
    · cases gate
      refine ⟨.panicked _, fun _ _ gen' found' => ?_⟩
      cases (becomes_stall found gen.flavor .next).self.symm.trans found'
      rfl
  · rw [gateNext_of_not_ready found ready] at gate
    cases gate
    unfold Gen.answerNext
    split
    · rw [report_exhausted]
      exact ⟨.ended, fun _ told => by cases told⟩
    · exact ⟨.rebuffed, fun _ told => by cases told⟩

end Gates

/-- What a move may do to an iterator and to its reports. -/
inductive Treats (c : CursorId) (w w' : World σ) : Prop
  | same (cursor : w'.cursor? c = w.cursor? c) (reported : w'.reported c = w.reported c)
  | made (cursor : w'.cursor? c = some ⟨false, false⟩) (reported : w'.reported c = [])
  /-- A step begins that was asked for through the iterator. -/
  | entered (before : w.cursor? c = some ⟨false, false⟩)
      (cursor : w'.cursor? c = some ⟨false, true⟩) (reported : w'.reported c = w.reported c)
  /-- It was not finished, and comes out with something. -/
  | told {cur : Cursor} {f : Bool} {a : Outcome (Option σ.Item)} (before : w.cursor? c = some cur)
      (unfinished : cur.finished = false) (cursor : w'.cursor? c = some ⟨f, false⟩)
      (reported : w'.reported c = a :: w.reported c) (tells : Cursor.Tells f a)
      (lost : ∀ p, a = .panicked p → ∀ gen, w'.gen? c.gen = some gen → gen.phase = .closed)
  | ended (before : w.cursor? c = some ⟨true, false⟩) (cursor : w'.cursor? c = w.cursor? c)
      (reported : w'.reported c = .returned none :: w.reported c)
  | refused (r : Refusal) (cursor : w'.cursor? c = w.cursor? c)
      (reported : w'.reported c = .refused r :: w.reported c)
  | dropped (cursor : w'.cursor? c = none) (reported : w'.reported c = w.reported c)

section Treats

variable {ps ps' : List (Pending σ)} {w w' v : World σ} {c : CursorId}

theorem reported_of_answered {r : Request σ} {a : r.Reply}
    (said : w'.dialogue = .answered r a :: w.dialogue) (other : r ≠ .advance c) :
    w'.reported c = w.reported c := by
  unfold reported
  rw [said, reportsIn_answered other]

theorem reported_of_advanced {a : Outcome (Option σ.Item)}
    (said : w'.dialogue = .answered (.advance c) a :: w.dialogue) :
    w'.reported c = a :: w.reported c := by
  unfold reported
  rw [said, reportsIn, if_pos rfl]

/-- An iterator in use is told what its generator answered. -/
theorem cursor?_tell {cur : Cursor} {x : Outcome (σ.Answer (Completion σ.Value)) × World σ}
    (hc : x.2.cursor? c = some cur) :
    (tell c x).2.cursor? c = some ⟨(Cursor.report x.1).1, false⟩ := by
  have told : (tell c x).2 = x.2.modifyCursor c fun _ => ⟨(Cursor.report x.1).1, false⟩ := rfl
  rw [told, cursor?_modifyCursor, if_pos rfl, hc, Option.map_some]

theorem treats_of_gateAdvance {a : Outcome (Option σ.Item)}
    (gate : w.gate (.advance c) = .answered a v) :
    w.Treats c (v.record (.answered (.advance c) a)) := by
  have said : (v.record (.answered (.advance c) a)).dialogue =
      .answered (.advance c) a :: w.dialogue := by
    rw [dialogue_record, dialogue_of_gate gate]
    rfl
  have reported := reported_of_advanced said
  by_cases unused : w.cursor? c = some ⟨false, false⟩
  · obtain ⟨o, u, answered, told⟩ :=
      Passage.map_eq_answered ((gateAdvance_of_unused unused).symm.trans gate)
    obtain ⟨rfl, rfl⟩ := Prod.mk.inj told
    obtain ⟨gen, found⟩ := Option.isSome_iff_exists.mp (isSome_gen?_of_cursor? unused)
    obtain ⟨tells, lost⟩ := tells_of_gateNext ((gen?_modifyCursor ..).trans found) answered
    have marked : u.cursor? c = some ⟨false, true⟩ := by
      have same := cursor?_of_gate (r := .next c.gen none) answered (d := c) nofun
      rw [same, cursor?_modifyCursor, if_pos rfl, unused, Option.map_some]
    refine .told unused rfl ?_ reported tells fun p hp gen' found' => lost p hp gen' ?_
    · exact cursor?_tell marked
    · simpa [tell] using found'
  · cases (gateAdvance_of_used unused).symm.trans gate
    unfold advanceUsed at reported ⊢
    rcases hc : w.cursor? c with _ | ⟨_ | _, _ | _⟩ <;> simp only [hc] at reported ⊢
    case some.false.false => exact absurd hc unused
    case some.true.false => exact .ended hc rfl reported
    all_goals exact .refused _ rfl reported

theorem treats_of_gate {r : Request σ} {a : r.Reply} (gate : w.gate r = .answered a v) :
    w.Treats c (v.record (.answered r a)) := by
  have said : (v.record (.answered r a)).dialogue = .answered r a :: w.dialogue := by
    rw [dialogue_record, dialogue_of_gate gate]
    rfl
  by_cases hr : r.cursor? = some c
  case neg =>
    have other : r ≠ .advance c := fun h => hr (h ▸ rfl)
    exact .same (cursor?_of_gate gate hr) (reported_of_answered said other)
  cases r with
  | advance d =>
    cases hr
    exact treats_of_gateAdvance gate
  | discard d =>
    cases hr
    have reported := reported_of_answered said (c := c) nofun
    cases hc : v.cursor? c with
    | none => exact .dropped hc reported
    | some cur =>
      have same : v = w := eq_of_gateDiscard gate hc
      exact .same (by rw [cursor?_record, same]) reported
  | _ => cases hr

/-- An iterator that a step was taken through is told how the step ended. -/
theorem cursor?_advanced {call : Call σ} (coherent : Coherent (⟨.advance c, call⟩ :: ps) w)
    (e : σ.StepEnd) :
    (Pending.conclude ⟨.advance c, call⟩ e w).2.cursor? c =
      some ⟨(Cursor.report (e.1.outcome.map (·.map (·.complete call.flavor)))).1, false⟩ := by
  obtain ⟨-, mode, -⟩ := coherent.attends _ List.mem_cons_self
  obtain ⟨cur, hc, -⟩ := (coherent.busy c).mpr ⟨_, List.mem_cons_self, rfl⟩
  obtain ⟨gen, found, running, -⟩ := coherent.lands e
  have resuming : call.mode ≠ .close := fun h => nomatch mode.trans h
  have kept := (landResumed_becomes found running resuming e).cursor? c
  rw [← landResumed_fst]
  exact cursor?_tell (kept.trans hc)

/-- The end of a step that an iterator was advanced by. -/
theorem treats_of_advanced {call : Call σ} {cur : Cursor} {e : σ.StepEnd}
    (coherent : Coherent (⟨.advance c, call⟩ :: ps) w) (hc : w.cursor? c = some cur)
    (unfinished : cur.finished = false) :
    w.Treats c (Pending.conclude ⟨.advance c, call⟩ e w).2 := by
  obtain ⟨target, -⟩ := coherent.attends _ List.mem_cons_self
  obtain ⟨gen, found, running, lands⟩ := coherent.lands e
  have reported := reported_of_advanced lands.dialogue
  rw [reply_conclude] at reported
  refine .told hc unfinished (cursor?_advanced coherent e) reported
    (Cursor.tells_of_step e.1 call.flavor) ?_
  intro p hp gen' found'
  have ending : e.1 = .panicked p := reply_eq_panicked_iff.mp hp
  rw [show c.gen = call.gen from target, lands.self] at found'
  cases found'
  rw [Gen.landed, ending]
  exact ite_self _

/-- **Every move treats every iterator in one of these ways.** -/
theorem treats_of_move (coherent : Coherent ps w) (move : Move ps w ps' w')
    (busy : ∀ cur, w.cursor? c = some cur → cur.busy = true → cur.finished = false) :
    w.Treats c w' := by
  cases move with
  | @serve _ _ command plain =>
    have cursor := cursor?_serve (w := w) plain c
    have said := dialogue_serve (w := w) plain
    by_cases made : w.makes command = some c
    · rw [if_pos made] at cursor
      refine .made cursor ?_
      rw [reported, said, made]
      exact if_pos rfl
    · rw [if_neg made] at cursor
      refine .same cursor ?_
      rw [reported, said, reported]
      cases other : w.makes command with
      | none => rfl
      | some d =>
        have hd : d ≠ c := fun h => made (h ▸ other)
        exact if_neg hd
  | answer gate => exact treats_of_gate gate
  | @enter _ _ _ r call gate =>
    obtain ⟨gen, departs⟩ := departs_of_gate gate
    have reported := congrArg (reportsIn c) departs.dialogue
    have cursor := departs.cursor? c
    by_cases hr : r.cursor? = some c
    · rw [if_pos hr] at cursor
      exact .entered (departs.idle c hr) cursor reported
    · rw [if_neg hr] at cursor
      exact .same cursor reported
  | @leave _ _ pd e =>
    obtain ⟨gen, found, running, lands⟩ := coherent.lands e
    by_cases hr : pd.request.cursor? = some c
    case neg =>
      have other : pd.request ≠ .advance c := fun h => hr (h ▸ rfl)
      exact .same (lands.cursor? c hr) (reported_of_answered lands.dialogue other)
    obtain ⟨cur, hc, inUse⟩ := (coherent.busy c).mpr ⟨pd, List.mem_cons_self, hr⟩
    obtain ⟨r, call⟩ := pd
    cases r with
    | advance d =>
      cases hr
      exact treats_of_advanced coherent hc (busy cur hc inUse)
    | discard d =>
      cases hr
      exact .dropped (cursor?_dispose_self (landClosed call e w))
        (reported_of_answered lands.dialogue nofun)
    | _ => cases hr

end Treats

/-! ## What is known of an iterator by its reports -/

/-- An iterator has kept to the order of reports; and if it panicked, its generator is closed. -/
structure Minuted (w : World σ) (c : CursorId) : Prop where
  lawful : ∃ f, Cursor.Lawful f (w.reported c) ∧
    ∀ cur, w.cursor? c = some cur → cur.finished = f
  lost : ∀ p, .panicked p ∈ w.reported c → ∀ cur, w.cursor? c = some cur →
    ∀ gen, w.gen? c.gen = some gen → gen.phase = .closed

section Minuted

variable {ps ps' : List (Pending σ)} {w w' : World σ} {c : CursorId}

theorem Minuted.move (coherent : Coherent ps w) (move : Move ps w ps' w')
    (minuted : w.Minuted c) (treats : w.Treats c w') : w'.Minuted c := by
  obtain ⟨⟨f, lawful, flag⟩, lost⟩ := minuted
  -- a generator that was lost stays closed
  have stays {p : Panic} {cur : Cursor} (hp : .panicked p ∈ w.reported c)
      (hc : w.cursor? c = some cur) (gen' : Gen σ) (found' : w'.gen? c.gen = some gen') :
      gen'.phase = .closed :=
    closed_of_move coherent move (isSome_gen?_of_cursor? hc) (lost p hp cur hc) found'
  cases treats with
  | same cursor reported =>
    rw [← cursor] at flag
    rw [← reported] at lawful
    refine ⟨⟨f, lawful, flag⟩, fun p hp cur hc => ?_⟩
    rw [reported] at hp
    exact stays hp (cursor.symm.trans hc)
  | made cursor reported =>
    refine ⟨⟨false, reported ▸ .start, fun cur hc => ?_⟩, fun p hp => ?_⟩
    · cases cursor.symm.trans hc
      rfl
    · rw [reported] at hp
      cases hp
  | entered before cursor reported =>
    rw [← reported] at lawful
    have unfinished := flag _ before
    refine ⟨⟨f, lawful, fun cur hc => ?_⟩, fun p hp cur hc => ?_⟩
    · cases cursor.symm.trans hc
      exact unfinished
    · rw [reported] at hp
      exact stays hp before
  | told before unfinished cursor reported tells lostNow =>
    obtain rfl : false = f := unfinished.symm.trans (flag _ before)
    refine ⟨⟨_, reported ▸ lawful.told tells, fun cur hc => ?_⟩, fun p hp cur hc => ?_⟩
    · cases cursor.symm.trans hc
      rfl
    · rw [reported] at hp
      rcases List.mem_cons.mp hp with now | earlier
      · exact lostNow p now.symm
      · exact stays earlier before
  | ended before cursor reported =>
    obtain rfl : true = f := flag _ before
    refine ⟨⟨true, reported ▸ lawful.ended, cursor ▸ flag⟩, fun p hp cur hc => ?_⟩
    rw [reported] at hp
    exact stays ((List.mem_cons.mp hp).resolve_left nofun) before
  | refused r cursor reported =>
    refine ⟨⟨f, reported ▸ lawful.refused r, cursor ▸ flag⟩, fun p hp cur hc => ?_⟩
    rw [reported] at hp
    exact stays ((List.mem_cons.mp hp).resolve_left nofun) (cursor.symm.trans hc)
  | dropped cursor reported =>
    rw [← reported] at lawful
    refine ⟨⟨f, lawful, fun cur hc => ?_⟩, fun p hp cur hc => ?_⟩
    · cases cursor.symm.trans hc
    · cases cursor.symm.trans hc

end Minuted

/-- A finished iterator has nothing but the end to report. -/
theorem advance_of_finished {w : World σ} {c : CursorId} (hc : w.cursor? c = some ⟨true, false⟩) :
    w.AnsweredAtOnce (.advance c) (.returned none) := by
  have used : w.cursor? c ≠ some ⟨false, false⟩ := by simp [hc]
  have gate := gateAdvance_of_used used
  simp only [advanceUsed, hc] at gate
  exact answeredAtOnce_of_gate gate

end World

section Runs

variable {α : Type} {engine : Engine σ} {limit : Nat} {p : Program σ α} {s : σ.Shared}
  {m : Moment σ α} {c : CursorId}

theorem minuted_of_leads (h : Leads engine limit (.atTop p (.initial s)) m) (c : CursorId) :
    m.world.Minuted c := by
  refine (h.keeps (P := fun w => (∀ c cur, w.cursor? c = some cur → w.Accounted c cur) ∧
    ∀ c, w.Minuted c) ?_ (Coherent.start s) ⟨nofun, ?_⟩).2 c
  · intro ps w ps' w' coherent move ⟨accounted, minuted⟩
    refine ⟨World.accounted_of_move coherent move accounted, fun c => ?_⟩
    have treats := World.treats_of_move (c := c) coherent move fun cur hc =>
      (accounted c cur hc).busy
    exact (minuted c).move coherent move treats
  · exact fun c => ⟨⟨false, .start, nofun⟩, nofun⟩

/-- No step and no gate answers a resume with a missing value that is not the end. -/
theorem World.next_ne_undefined (w : World σ) (step : Stepper σ) (g : GenId)
    (v : Option σ.Value) : (w.next step g v).1 ≠ .returned (.ok (.result ⟨none, false⟩)) := by
  intro undefined
  change (w.serve step (.request (.next g v))).1 = _ at undefined
  cases gate : w.gate (.next g v) with
  | stepping call w' =>
    rw [(World.enters_of_gate gate).serve, World.reply_conclude] at undefined
    dsimp only at undefined
    generalize (step call.gen call.body call.input call.mode w').1.1 = e at undefined
    cases e <;> cases flavor : call.flavor <;> rw [flavor] at undefined <;> cases undefined
  | answered a w' =>
    rw [World.serve_of_gate_answered gate] at undefined
    change w.gateNext g v = .answered a w' at gate
    cases found : w.gen? g with
    | none =>
      simp only [World.gateNext, found] at gate
      cases gate
      cases undefined
    | some gen =>
      by_cases ready : World.Ready gen .next
      · rw [World.gateNext_of_ready found ready, World.depart] at gate
        split at gate
        · cases gate
        · cases gate
          cases undefined
      · rw [World.gateNext_of_not_ready found ready] at gate
        cases gate
        unfold Gen.answerNext at undefined
        split at undefined
        · cases flavor : gen.flavor <;> rw [flavor] at undefined <;> cases undefined
        · cases undefined

/-- **An iterator ends once.**  At every moment of every run, what an iterator has returned since it
was made is a list of values, then at most one fault, which a step raised or which turned the
iterator away in the middle of a step, and then the end any number of times.  As long as the
iterator is there, it has nothing but the end to report after a fault or the end, and after a panic
of its own it also has nothing to close.  A step that yielded is never told as the end, and a resume
never answers with a missing value unless it says that the generator is done. -/
theorem iterator_ends_once (h : Leads engine limit (.atTop p (.initial s)) m) (c : CursorId) :
    (∃ (vs : List σ.Value) (fault : Option σ.Fault) (n : Nat),
      Cursor.returns (m.world.reported c) =
        vs.map (some ∘ .ok) ++ fault.toList.map (some ∘ .error) ++ List.replicate n none ∧
      ∀ x ∈ fault, x = .nesting ∨ ∃ e, x = .raised e) ∧
    ((m.world.cursor? c).isSome → ∀ a ∈ m.world.reported c, Cursor.Final a →
      m.world.AnsweredAtOnce (.advance c) (.returned none)) ∧
    ((m.world.cursor? c).isSome → ∀ q, .panicked q ∈ m.world.reported c →
      m.world.AnsweredAtOnce (.advance c) (.returned none) ∧
      m.world.AnsweredAtOnce (.discard c) (.returned ())) ∧
    (∀ call e v m', m.act? = some (.finish ⟨.advance c, call⟩ e) →
      m.next? engine limit = some m' → e.1 = .yielded v →
        m'.world.reported c = .returned (some (.ok v)) :: m.world.reported c) ∧
    ∀ (w : World σ) (step : Stepper σ) g v,
      (w.next step g v).1 ≠ .returned (.ok (.result ⟨none, false⟩)) := by
  have coherent := coherent_of_leads h
  obtain ⟨⟨f, lawful, flag⟩, lost⟩ := minuted_of_leads h c
  refine ⟨lawful.returns, ?_, ?_, ?_, World.next_ne_undefined⟩
  · intro there a ha final
    obtain ⟨⟨finished, busy⟩, hc⟩ := Option.isSome_iff_exists.mp there
    obtain rfl : finished = true := (flag _ hc).trans (lawful.finished ha final)
    have unfinished := (accounted_of_leads h c _ hc).busy
    cases busy with
    | true => cases unfinished rfl
    | false => exact World.advance_of_finished hc
  · intro there q hq
    obtain ⟨cur, hc⟩ := Option.isSome_iff_exists.mp there
    obtain ⟨gen, found⟩ := Option.isSome_iff_exists.mp (World.isSome_gen?_of_cursor? hc)
    have closed := lost q hq cur hc gen found
    have unused : ¬ m.world.Busy c := coherent.not_busy_of_closed found closed
    have idle : cur.busy = false := Bool.eq_false_iff.mpr fun hb => unused ⟨cur, hc, hb⟩
    exact ⟨World.advance_of_closed found closed hc idle,
      World.discard_of_closed found closed hc idle⟩
  · intro call e v m' act next yielded
    cases Moment.turn_of_next? next with
    | leave finishes pending world =>
      cases act.symm.trans finishes
      rw [pending] at coherent
      obtain ⟨gen, found, running, lands⟩ := coherent.lands e
      rw [world, World.reported_of_advanced lands.dialogue, World.reply_conclude, yielded]
      cases call.flavor <;> rfl
    | serve issues => cases act.symm.trans issues
    | answer issues => cases act.symm.trans issues
    | enter issues => cases act.symm.trans issues

end Runs

/-- One generator is drawn from, closed and drawn from again, and another one is lost while it is
drawn from. -/
def closedAndLost : Moment errand Unit :=
  .atTop (.spawnAll [(.legacy, .yields), (.modern, .panics)] (.issue (.iterate 0) fun _ =>
    .issue (.iterate 1) fun _ => .issue (.request (.advance ⟨0, 0⟩)) fun _ =>
      .issue (.request (.close 0)) fun _ => .issue (.request (.advance ⟨0, 0⟩)) fun _ =>
        .issue (.request (.advance ⟨1, 0⟩)) fun _ => .done ())) (.initial ())

theorem iterator_ends_once_lost :
    let w := (closedAndLost.after errands 9 11).world
    w.reported ⟨0, 0⟩ = [.returned none, .returned (some (.ok 0))] ∧
    w.AnsweredAtOnce (.advance ⟨0, 0⟩) (.returned none) ∧
    w.reported ⟨1, 0⟩ = [.panicked (.body "lost")] ∧
    w.AnsweredAtOnce (.advance ⟨1, 0⟩) (.returned none) ∧
    w.AnsweredAtOnce (.discard ⟨1, 0⟩) (.returned ()) := by
  have reported : (closedAndLost.after errands 9 11).world.reported ⟨0, 0⟩ =
    [.returned none, .returned (some (.ok 0))] := rfl
  have lost : (closedAndLost.after errands 9 11).world.reported ⟨1, 0⟩ =
    [.panicked (.body "lost")] := rfl
  obtain ⟨-, ended, -⟩ := iterator_ends_once (m := closedAndLost.after errands 9 11) (.after 11)
    ⟨0, 0⟩
  obtain ⟨-, -, panicked, -⟩ := iterator_ends_once (m := closedAndLost.after errands 9 11)
    (.after 11) ⟨1, 0⟩
  have last := ended rfl (.returned none) (by simp [reported]) (.inl rfl)
  have after := panicked rfl (.body "lost") (by simp [lost])
  exact ⟨reported, last, lost, after⟩

end Resumable
