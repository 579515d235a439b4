import Resumable.Proofs.Course
import Resumable.Proofs.Moment

/-!
# Moves that step no body

A command that enters no generator and a request that is answered at the gates leave every generator
as it is, or do one of five things to it (`World.Idle`): it is made, it is consumed, a reader comes
or goes, it is closed because readers hold its body, or it is closed newborn.  Such a move also
makes no iterator busy (`World.Quiet`).  Every invariant of moves is shown from this one
description.
-/

namespace Resumable

variable {σ : Signature}

/-! ## What a request is about -/

namespace Request

/-- The generator that a request may enter. -/
def target : Request σ → GenId
  | .next g _ => g
  | .throw g _ => g
  | .close g => g
  | .advance c => c.gen
  | .discard c => c.gen

/-- The mode of the step that a request may take. -/
def mode : Request σ → Mode
  | .next _ _ => .next
  | .throw _ _ => .throw
  | .close _ => .close
  | .advance _ => .next
  | .discard _ => .close

/-- The iterator that a request is made of. -/
def cursor? : Request σ → Option CursorId
  | .advance c => some c
  | .discard c => some c
  | _ => none

theorem gen_of_cursor? {r : Request σ} {c : CursorId} (h : r.cursor? = some c) :
    c.gen = r.target := by
  cases r <;> cases h <;> rfl

end Request

namespace World

/-! ## A change to a single generator -/

/-- A single generator becomes another, and events go on record. -/
structure Becomes (g : GenId) (gen : Gen σ) (es : List (Event σ)) (w w' : World σ) : Prop where
  gen? : ∀ h, w'.gen? h = if g = h then some gen else w.gen? h
  history : w'.history = es ++ w.history
  nextKey : w'.slots.nextKey = w.slots.nextKey
  cursor? : ∀ c, w'.cursor? c = w.cursor? c

namespace Becomes

variable {g : GenId} {gen : Gen σ} {es : List (Event σ)} {w w' : World σ}

theorem refl (found : w.gen? g = some gen) : Becomes g gen [] w w := by
  refine ⟨?_, rfl, rfl, fun _ => rfl⟩
  intro h
  split
  · next he => exact he ▸ found
  · rfl

theorem modify (becomes : Becomes g gen es w w') (f : Gen σ → Gen σ) :
    Becomes g (f gen) es w (w'.modifyGen g f) := by
  refine ⟨?_, becomes.history, by simp [becomes.nextKey], by simp [becomes.cursor?]⟩
  intro h
  rw [gen?_modifyGen, becomes.gen?]
  split <;> rfl

theorem record (becomes : Becomes g gen es w w') (e : Event σ) :
    Becomes g gen (e :: es) w (w'.record e) :=
  ⟨becomes.gen?, congrArg (e :: ·) becomes.history, becomes.nextKey, becomes.cursor?⟩

theorem self (becomes : Becomes g gen es w w') : w'.gen? g = some gen := by
  rw [becomes.gen?, if_pos rfl]

theorem of_ne (becomes : Becomes g gen es w w') {h : GenId} (hh : h ≠ g) :
    w'.gen? h = w.gen? h := by
  rw [becomes.gen?, if_neg hh.symm]

theorem phaseOf (becomes : Becomes g gen es w w') : w'.phaseOf g = gen.phase := by
  unfold World.phaseOf
  rw [becomes.self]

/-- Where all the events are the generator's own. -/
theorem course (becomes : Becomes g gen es w w') (own : ∀ e ∈ es, e.owner? = some g) (h : GenId) :
    w'.course h = if g = h then es ++ w.course h else w.course h := by
  rw [course_append becomes.history]
  split
  · next he =>
    subst he
    rw [List.filter_eq_self.mpr fun e he => by simpa using own e he]
  · next he =>
    rw [List.filter_eq_nil_iff.mpr fun e hm => by simpa [own e hm] using he, List.nil_append]

end Becomes

section Gates

variable {w : World σ} {g : GenId} {gen : Gen σ}

theorem becomes_embark (found : w.gen? g = some gen) (f : Flavor)
    (input : Input σ.Value σ.Thrown) (mode : Mode) :
    Becomes g gen.start.enter.lend [.began g input mode, .logged g (.resume f mode)] w
      (w.embark g f input mode) :=
  (((((Becomes.refl found).modify .start).record _).modify .enter).modify .lend).record _

/-- A stalled generator is closed. -/
theorem becomes_stall (found : w.gen? g = some gen) (f : Flavor) (mode : Mode) :
    Becomes g { gen.start with phase := .closed } [.conflict g, .logged g (.resume f mode)] w
      (w.stall g f mode) :=
  (((((Becomes.refl found).modify .start).record _).modify .enter).record _).modify (.leave .closed)

theorem becomes_shutNewborn (found : w.gen? g = some gen) :
    Becomes g gen.start.shut [.logged g .closeNewborn] w (w.shutNewborn g) :=
  ((Becomes.refl found).record _).modify fun gen => gen.start.shut

end Gates

/-! ## The gates -/

/-- Whether a generator may be stepped in a mode: only one that has been stepped or resumed before
is stepped to be closed, and only a legacy one. -/
def Ready (gen : Gen σ) (mode : Mode) : Prop :=
  gen.phase = .suspended ∧ (mode = .close → gen.flavor = .legacy ∧ gen.newborn = false)

/-- What the gates of a generator make of a request that would step it in a mode. -/
inductive Gated (g : GenId) (mode : Mode) (w : World σ) {ρ : Type} : Passage σ ρ → Prop
  /-- It is answered, and nothing has happened. -/
  | answered (a : ρ) : Gated g mode w (.answered a w)
  /-- A newborn generator is closed. -/
  | shut {gen : Gen σ} (found : w.gen? g = some gen) (legacy : gen.flavor = .legacy)
      (unclosed : gen.phase ≠ .closed) (newborn : gen.newborn = true) (a : ρ) :
      Gated g mode w (.answered a (w.shutNewborn g))
  /-- Readers hold the body. -/
  | stalled {gen : Gen σ} (found : w.gen? g = some gen) (ready : Ready gen mode)
      (held : gen.loan ≠ .shared 0) (a : ρ) :
      Gated g mode w (.answered a (w.stall g gen.flavor mode))
  /-- The body is about to be stepped. -/
  | stepping {gen : Gen σ} (found : w.gen? g = some gen) (ready : Ready gen mode)
      (free : gen.loan = .shared 0) {input : Input σ.Value σ.Thrown} (suits : input.Suits mode) :
      Gated g mode w
        (.stepping ⟨g, gen.flavor, gen.body, input, mode⟩ (w.embark g gen.flavor input mode))

section Gated

variable {w : World σ} {g : GenId} {mode : Mode}

theorem gated_depart {α : Type} {gen : Gen σ} (found : w.gen? g = some gen)
    (ready : Ready gen mode) {input : Input σ.Value σ.Thrown} (suits : input.Suits mode) :
    Gated g mode w (depart (α := α) g gen input mode w) := by
  unfold depart
  by_cases free : gen.loan = .shared 0
  · rw [if_pos free]
    exact .stepping found ready free suits
  · rw [if_neg free]
    exact .stalled found ready free _

theorem gated_gateNext (v : Option σ.Value) : Gated g .next w (w.gateNext g v) := by
  unfold gateNext
  cases found : w.gen? g with
  | none => exact .answered _
  | some gen =>
    dsimp only
    cases phase : gen.phase with
    | suspended =>
      have ready : Ready gen .next := ⟨phase, nofun⟩
      exact gated_depart found ready trivial
    | running => exact .answered _
    | closed => exact .answered _

theorem gated_gateThrow (e : σ.Thrown) : Gated g .throw w (w.gateThrow g e) := by
  unfold gateThrow
  cases found : w.gen? g with
  | none => exact .answered _
  | some gen =>
    dsimp only
    cases phase : gen.phase with
    | suspended =>
      have ready : Ready gen .throw := ⟨phase, nofun⟩
      exact gated_depart found ready trivial
    | running => exact .answered _
    | closed => exact .answered _

theorem gated_gateClose : Gated g .close w (w.gateClose g) := by
  unfold gateClose
  cases found : w.gen? g with
  | none => exact .answered _
  | some gen =>
    dsimp only
    cases flavor : gen.flavor with
    | modern => exact .answered _
    | legacy =>
      cases phase : gen.phase with
      | suspended =>
        cases newborn : gen.newborn with
        | false => exact gated_depart found ⟨phase, fun _ => ⟨flavor, newborn⟩⟩ trivial
        | true => exact .shut found flavor (by simp [phase]) newborn _
      | running =>
        cases newborn : gen.newborn with
        | false => exact .answered _
        | true => exact .shut found flavor (by simp [phase]) newborn _
      | closed => exact .answered _

/-- A request that is made of no iterator goes straight to the gates. -/
theorem gated_gate {r : Request σ} (direct : r.cursor? = none) :
    Gated r.target r.mode w (w.gate r) := by
  cases r with
  | next g v => exact gated_gateNext v
  | throw g e => exact gated_gateThrow e
  | close g => exact gated_gateClose
  | advance c => cases direct
  | discard c => cases direct

end Gated

/-! ## Moves that step no body -/

/-- What a generator and its course may be after a move that steps no body. -/
inductive Idle (w : World σ) (g : GenId) : Option (Gen σ) → List (Event σ) → Prop
  | same : Idle w g (w.gen? g) (w.course g)
  | spawned (hg : g = w.slots.nextKey) (f : Flavor) (k : σ.Kind) (b : σ.Body) :
      Idle w g (some (.fresh f k b)) (w.course g)
  | consumed {gen : Gen σ} (hg : w.gen? g = some gen) (hp : gen.phase ≠ .running)
      (hl : gen.loan = .shared 0) : Idle w g none (w.course g)
  /-- A reader came or went. -/
  | read {gen : Gen σ} (hg : w.gen? g = some gen) {m : Nat} (hl : gen.loan = .shared m) (n : Nat) :
      Idle w g (some { gen with loan := .shared n }) (w.course g)
  | stalled {gen : Gen σ} (hg : w.gen? g = some gen) {mode : Mode} (hr : Ready gen mode)
      (hl : gen.loan ≠ .shared 0) :
      Idle w g (some { gen.start with phase := .closed })
        (.conflict g :: .logged g (.resume gen.flavor mode) :: w.course g)
  | shut {gen : Gen σ} (hg : w.gen? g = some gen) (hf : gen.flavor = .legacy)
      (hp : gen.phase ≠ .closed) (hn : gen.newborn = true) :
      Idle w g (some gen.start.shut) (.logged g .closeNewborn :: w.course g)

/-- An operation on the iterator is in progress. -/
def Busy (w : World σ) (c : CursorId) : Prop :=
  ∃ cur, w.cursor? c = some cur ∧ cur.busy = true

/-- A move that steps no body. -/
structure Quiet (w w' : World σ) : Prop where
  idle : ∀ g, Idle w g (w'.gen? g) (w'.course g)
  nextKey_le : w.slots.nextKey ≤ w'.slots.nextKey
  busy : ∀ c, w'.Busy c ↔ w.Busy c

/-- The worlds have the same generators with the same courses. -/
structure Alike (w w' : World σ) : Prop where
  gen? : ∀ g, w'.gen? g = w.gen? g
  course : ∀ g, w'.course g = w.course g
  nextKey : w'.slots.nextKey = w.slots.nextKey

section Alike

variable {w w' v v' : World σ} {g : GenId} {c d : CursorId}

theorem Alike.refl : Alike w w :=
  ⟨fun _ => rfl, fun _ => rfl, rfl⟩

theorem Alike.trans (first : Alike w v) (second : Alike v w') : Alike w w' :=
  ⟨fun g => (second.gen? g).trans (first.gen? g),
    fun g => (second.course g).trans (first.course g), second.nextKey.trans first.nextKey⟩

theorem alike_modifyCursor (f : Cursor → Cursor) : Alike w (w.modifyCursor c f) :=
  ⟨by simp, by simp, by simp⟩

theorem alike_eraseCursor : Alike w (w.eraseCursor c) :=
  ⟨by simp, by simp, by simp⟩

theorem alike_record {e : Event σ} (unowned : e.owner? = none) : Alike w (w.record e) :=
  ⟨by simp, fun g => by simp [course_record, unowned], by simp⟩

theorem Idle.of_alike {o : Option (Gen σ)} {es : List (Event σ)} (alike : Alike w v)
    (idle : Idle v g o es) : Idle w g o es := by
  have found : v.gen? g = w.gen? g := alike.gen? g
  cases idle with
  | same => rw [found, alike.course g]; exact .same
  | spawned hg f k b => rw [alike.course g]; exact .spawned (hg.trans alike.nextKey) f k b
  | consumed hg hp hl => rw [alike.course g]; exact .consumed (found ▸ hg) hp hl
  | read hg hl n => rw [alike.course g]; exact .read (found ▸ hg) hl n
  | stalled hg hr hl => rw [alike.course g]; exact .stalled (found ▸ hg) hr hl
  | shut hg hf hp hn => rw [alike.course g]; exact .shut (found ▸ hg) hf hp hn

theorem Alike.quiet (alike : Alike w w') (busy : ∀ c, w'.Busy c ↔ w.Busy c) : Quiet w w' := by
  refine ⟨?_, Nat.le_of_eq alike.nextKey.symm, busy⟩
  intro g
  rw [alike.gen?, alike.course]
  exact .same

/-- What happens to iterators around a quiet move leaves it quiet. -/
theorem Quiet.between (before : Alike w v) (quiet : Quiet v v') (after : Alike v' w')
    (busy : ∀ c, w'.Busy c ↔ w.Busy c) : Quiet w w' := by
  refine ⟨?_, ?_, busy⟩
  · intro g
    rw [after.gen?, after.course]
    exact (quiet.idle g).of_alike before
  · rw [after.nextKey, ← before.nextKey]
    exact quiet.nextKey_le

theorem Quiet.refl : Quiet w w :=
  Alike.refl.quiet fun _ => Iff.rfl

/-- The answer on record is no event of a generator. -/
theorem Quiet.record_answered (quiet : Quiet w w') (r : Request σ) (a : r.Reply) :
    Quiet w (w'.record (.answered r a)) :=
  quiet.between .refl (alike_record rfl) quiet.busy

/-- Where a single generator changes. -/
theorem Quiet.of_single (self : Idle w g (w'.gen? g) (w'.course g))
    (others : ∀ h, h ≠ g → w'.gen? h = w.gen? h ∧ w'.course h = w.course h)
    (nextKey_le : w.slots.nextKey ≤ w'.slots.nextKey) (busy : ∀ c, w'.Busy c ↔ w.Busy c) :
    Quiet w w' := by
  refine ⟨?_, nextKey_le, busy⟩
  intro h
  by_cases hh : h = g
  · exact hh ▸ self
  · rw [(others h hh).1, (others h hh).2]
    exact .same

theorem busy_congr (same : w'.cursor? c = w.cursor? c) : w'.Busy c ↔ w.Busy c := by
  unfold Busy
  rw [same]

theorem Becomes.quiet {gen : Gen σ} {es : List (Event σ)} (becomes : Becomes g gen es w w')
    (own : ∀ e ∈ es, e.owner? = some g) (idle : Idle w g (some gen) (es ++ w.course g)) :
    Quiet w w' := by
  have busy (c : CursorId) : w'.Busy c ↔ w.Busy c := busy_congr (becomes.cursor? c)
  refine .of_single (g := g) ?_ ?_ (Nat.le_of_eq becomes.nextKey.symm) busy
  · rw [becomes.self, becomes.course own, if_pos rfl]
    exact idle
  · intro h hh
    rw [becomes.of_ne hh, becomes.course own, if_neg hh.symm]
    exact ⟨rfl, rfl⟩

/-- What the gates answer without a step is quiet. -/
theorem Gated.quiet {ρ : Type} {mode : Mode} {a : ρ}
    (gated : Gated g mode w (.answered a w')) : Quiet w w' := by
  cases gated with
  | answered => exact .refl
  | shut hg hf hp hn =>
    exact (becomes_shutNewborn hg).quiet (by simp [Event.owner?]) (.shut hg hf hp hn)
  | @stalled gen hg hr hl =>
    exact (becomes_stall hg gen.flavor mode).quiet (by simp [Event.owner?]) (.stalled hg hr hl)

end Alike

/-! ### Iterators -/

section Cursors

variable {w : World σ} {c d : CursorId}

theorem busy_modifyCursor {f : Cursor → Cursor} (hd : d ≠ c) :
    (w.modifyCursor c f).Busy d ↔ w.Busy d :=
  busy_congr (by rw [cursor?_modifyCursor, if_neg hd.symm])

theorem busy_eraseCursor : (w.eraseCursor c).Busy d ↔ d ≠ c ∧ w.Busy d := by
  unfold Busy
  rw [cursor?_eraseCursor]
  by_cases hd : c = d
  · simp [hd]
  · simp [hd, Ne.symm hd]

/-- Telling an item changes the iterator alone. -/
theorem alike_tell (x : Outcome (σ.Answer (Completion σ.Value)) × World σ) :
    Alike x.2 (tell c x).2 :=
  alike_modifyCursor _

theorem busy_tell (x : Outcome (σ.Answer (Completion σ.Value)) × World σ) :
    (tell c x).2.Busy d ↔ d ≠ c ∧ x.2.Busy d := by
  by_cases hd : d = c
  · subst hd
    simp [tell, Busy, cursor?_modifyCursor]
  · rw [show (tell c x).2 = x.2.modifyCursor c _ from rfl, busy_modifyCursor hd]
    exact (and_iff_right hd).symm

/-- Dropping an iterator takes nothing but the iterator away, and reports a fault. -/
theorem alike_dispose (x : Outcome (σ.Answer Unit) × World σ) : Alike x.2 (dispose c x).2 := by
  obtain ⟨o, w⟩ := x
  rcases o with (_ | _) | _ | _
  · exact (alike_record rfl).trans alike_eraseCursor
  all_goals exact alike_eraseCursor

theorem busy_dispose (x : Outcome (σ.Answer Unit) × World σ) :
    (dispose c x).2.Busy d ↔ d ≠ c ∧ x.2.Busy d := by
  obtain ⟨o, w⟩ := x
  rcases o with (_ | _) | _ | _ <;> exact busy_eraseCursor

/-- Marking an idle iterator before a quiet move and unmarking it afterwards is quiet. -/
theorem quiet_marked {v w' : World σ} {f : Cursor → Cursor} (idle : ¬ w.Busy c)
    (quiet : Quiet (w.modifyCursor c f) v) (after : Alike v w')
    (busy : ∀ d, w'.Busy d ↔ d ≠ c ∧ v.Busy d) : Quiet w w' := by
  apply quiet.between (alike_modifyCursor f) after
  intro d
  rw [busy, quiet.busy]
  by_cases hd : d = c
  · subst hd
    simp [idle]
  · rw [busy_modifyCursor hd]
    exact and_iff_right hd

theorem not_busy_of_cursor? {cur : Cursor} (hc : w.cursor? c = some cur)
    (idle : ¬ cur.busy = true) : ¬ w.Busy c := by
  rintro ⟨cur', hc', hb⟩
  cases hc.symm.trans hc'
  exact idle hb

end Cursors

/-! ### Requests answered at the gates -/

section Answered

variable {w w' : World σ}

theorem quiet_of_gateAdvance {c : CursorId} {a : Outcome (Option σ.Item)}
    (h : w.gateAdvance c = .answered a w') : Quiet w w' := by
  unfold gateAdvance at h
  cases hc : w.cursor? c with
  | none => rw [hc] at h; cases h; exact .refl
  | some cur =>
    simp only [hc] at h
    split at h
    · cases h; exact .refl
    next hb =>
    split at h
    · cases h; exact .refl
    obtain ⟨o, v, hv, told⟩ := Passage.map_eq_answered h
    have gated := gated_gateNext (w := w.modifyCursor c fun _ => ⟨false, true⟩) (g := c.gen) none
    rw [hv] at gated
    obtain rfl : (tell c (o, v)).2 = w' := congrArg Prod.snd told
    exact quiet_marked (not_busy_of_cursor? hc hb) gated.quiet (alike_tell (o, v))
      fun d => busy_tell _

theorem quiet_of_gateDiscard {c : CursorId} {a : Outcome Unit}
    (h : w.gateDiscard c = .answered a w') : Quiet w w' := by
  unfold gateDiscard at h
  cases hc : w.cursor? c with
  | none => rw [hc] at h; cases h; exact .refl
  | some cur =>
    obtain ⟨gen, hgen⟩ := Option.isSome_iff_exists.mp (isSome_gen?_of_cursor? hc)
    simp only [hc, hgen] at h
    split at h
    · cases h; exact .refl
    next hb =>
    have idle := not_busy_of_cursor? hc hb
    split at h
    · cases h
      apply alike_eraseCursor.quiet
      intro d
      rw [busy_eraseCursor]
      exact and_iff_right_of_imp fun hd he => idle (he ▸ hd)
    cases hf : gen.flavor with
    | modern =>
      simp only [hf] at h
      cases h
      exact quiet_marked idle .refl alike_eraseCursor fun d => busy_eraseCursor
    | legacy =>
      simp only [hf] at h
      obtain ⟨o, v, hv, disposed⟩ := Passage.map_eq_answered h
      have gated := gated_gateClose (w := w.modifyCursor c fun _ => ⟨false, true⟩) (g := c.gen)
      rw [hv] at gated
      obtain rfl : (dispose c (o, v)).2 = w' := congrArg Prod.snd disposed
      exact quiet_marked idle gated.quiet (alike_dispose (o, v)) fun d => busy_dispose _

/-- **A request that is answered at the gates is quiet.** -/
theorem quiet_of_gate {r : Request σ} {a : r.Reply} (h : w.gate r = .answered a w') :
    Quiet w w' := by
  have direct (hr : r.cursor? = none) : Quiet w w' := by
    have gated := gated_gate (w := w) hr
    rw [h] at gated
    exact gated.quiet
  cases r with
  | advance c => exact quiet_of_gateAdvance h
  | discard c => exact quiet_of_gateDiscard h
  | _ => exact direct rfl

end Answered

/-! ### Other commands -/

theorem quiet_hold (w : World σ) (g : GenId) : Quiet w (w.hold g).2 := by
  unfold hold
  cases hh : (w.gen? g).bind (·.hold?) with
  | none => exact .refl
  | some gen =>
    obtain ⟨gen₀, found, held⟩ := Option.bind_eq_some_iff.mp hh
    unfold Gen.hold? at held
    split at held
    · next n hl =>
      cases held
      exact ((Becomes.refl found).modify fun _ => { gen₀ with loan := .shared (n + 1) }).quiet
        nofun (.read found hl (n + 1))
    · cases held

theorem quiet_release (w : World σ) (g : GenId) : Quiet w (w.release g).2 := by
  unfold release
  cases hh : (w.gen? g).bind (·.release?) with
  | none => exact .refl
  | some gen =>
    obtain ⟨gen₀, found, released⟩ := Option.bind_eq_some_iff.mp hh
    unfold Gen.release? at released
    split at released
    · next n hl =>
      cases released
      exact ((Becomes.refl found).modify fun _ => { gen₀ with loan := .shared n }).quiet
        nofun (.read found hl n)
    · cases released

/-- A new iterator is idle. -/
theorem quiet_iterate (w : World σ) (g : GenId) : Quiet w (w.iterate g).2 := by
  have alike : Alike w (w.iterate g).2 := by
    refine ⟨by simp, ?_, by simp⟩
    intro h
    unfold iterate
    cases w.slots.get? g with
    | none => rfl
    | some s => exact (alike_record rfl).course h
  apply alike.quiet
  intro c
  unfold Busy
  rw [cursor?_iterate]
  split
  · next hc => simp [cursor?_eq_none_of_iterate hc]
  · rfl

theorem quiet_spawn (w : World σ) (flavor : Flavor) (kind : σ.Kind) (body : σ.Body) :
    Quiet w (w.spawn flavor kind body).2 := by
  refine .of_single (g := w.slots.nextKey) ?_ ?_ (by simp [spawn]) fun c => busy_congr (by simp)
  · rw [gen?_spawn, if_pos rfl]
    exact .spawned rfl flavor kind body
  · intro h hh
    rw [gen?_spawn, if_neg hh]
    exact ⟨rfl, rfl⟩

theorem quiet_consume (w : World σ) (g : GenId) : Quiet w (w.consume g).2 := by
  have hc (h : GenId) : (w.consume g).2.course h = w.course h := course_congr (by simp) h
  refine .of_single (g := g) ?_ ?_ (by simp) fun c => busy_congr (by simp)
  · rw [hc]
    rcases w.gen?_consume g g with hg | ⟨-, hg, gen, hgen, hp, hl⟩
    · rw [hg]
      exact .same
    · rw [hg]
      exact .consumed hgen hp hl
  · intro h hh
    rcases w.gen?_consume g h with hg | ⟨he, -⟩
    · exact ⟨hg, hc h⟩
    · exact absurd he.symm hh

/-- **A command that enters no generator is quiet.** -/
theorem quiet_of_serve (w : World σ) {c : Command σ} (hc : ∀ r, c ≠ .request r) :
    Quiet w (w.serve Stepper.never c).2 := by
  cases c with
  | request r => exact absurd rfl (hc r)
  | iterate g => exact quiet_iterate w g
  | watch c => exact .refl
  | spawn flavor kind body => exact quiet_spawn w flavor kind body
  | look g => exact .refl
  | hold g => exact quiet_hold w g
  | release g => exact quiet_release w g
  | consume g => exact quiet_consume w g
  | announce g mode flavor => exact (alike_record rfl).quiet fun _ => Iff.rfl
  | read => exact .refl
  | write s =>
    have alike : Alike w { w with shared := s } := ⟨fun _ => rfl, fun _ => rfl, rfl⟩
    exact alike.quiet fun _ => Iff.rfl
  | note n => exact (alike_record rfl).quiet fun _ => Iff.rfl

end World

end Resumable
