import Resumable.Proofs.Answers

/-!
# Requests that halt at the gates

A request that steps no body halts at the gates in one of three ways (`World.Halts`).  It is turned
away, and then it leaves every generator as it is and writes nothing, but for an iterator that
reports that it could not close its generator; it closes a newborn generator; or it stalls at a body
that is held by readers.  `World.Passes` tells the last two from the first, and so which requests
get past the gates at all.  A command that is no request enters no generator, and what it writes
belongs to none (`World.written`).
-/

namespace Resumable

variable {σ : Signature} {α : Type}

/-- Whether a generator lets requests of a mode through. -/
def Gen.Lets (gen : Gen σ) (mode : Mode) : Prop :=
  gen.phase = .suspended ∧ (mode = .close → gen.flavor = .legacy)

namespace World

/-- A request gets past the gates: to a step, to readers that hold the body, or to a close without a
step. -/
structure Passes (w : World σ) (r : Request σ) : Prop where
  lets : ∃ gen, w.gen? r.target = some gen ∧ gen.Lets r.mode
  unused : ∀ c, r.cursor? = some c → w.cursor? c = some ⟨false, false⟩

/-! ## At the gates of a generator -/

/-- What the gates of a generator do about a request that they answer. -/
inductive Halted (g : GenId) (mode : Mode) (w : World σ) : Outcome (σ.Answer α) → World σ → Prop
  | refused (a : Outcome (σ.Answer α)) (closed : ∀ gen, w.gen? g = some gen → ¬ gen.Lets mode) :
      Halted g mode w a w
  | shut {gen : Gen σ} (closing : mode = .close) (found : w.gen? g = some gen)
      (legacy : gen.flavor = .legacy) (newborn : gen.newborn = true) (x : α) :
      Halted g mode w (.returned (.ok x)) (w.shutNewborn g)
  | stalled {gen : Gen σ} (found : w.gen? g = some gen) (ready : Ready gen mode)
      (held : gen.loan ≠ .shared 0) :
      Halted g mode w (.panicked .bodyHeld) (w.stall g gen.flavor mode)

section Halted

variable {w w' : World σ} {g : GenId} {gen : Gen σ} {mode : Mode}

theorem halted_of_depart {input : Input σ.Value σ.Thrown} {a : Outcome (σ.Answer α)}
    (found : w.gen? g = some gen) (ready : Ready gen mode)
    (gate : depart g gen input mode w = .answered a w') : Halted g mode w a w' := by
  unfold depart at gate
  split at gate
  · cases gate
  · next held =>
    cases gate
    exact .stalled found ready held

theorem halted_of_not_ready {a : Outcome (σ.Answer α)} (resuming : mode ≠ .close)
    (found : w.gen? g = some gen) (unready : ¬ Ready gen mode) : Halted g mode w a w := by
  refine .refused a ?_
  rintro gen' found' ⟨suspended, -⟩
  cases found.symm.trans found'
  exact unready ⟨suspended, fun closing => absurd closing resuming⟩

theorem halted_of_gone {a : Outcome (σ.Answer α)} (gone : w.gen? g = none) :
    Halted g mode w a w := by
  refine .refused a ?_
  intro gen found
  cases gone.symm.trans found

theorem halted_gateNext {v : Option σ.Value} {a : Outcome (σ.Answer (Completion σ.Value))}
    (gate : w.gateNext g v = .answered a w') : Halted g .next w a w' := by
  cases found : w.gen? g with
  | none =>
    simp only [gateNext, found] at gate
    cases gate
    exact halted_of_gone found
  | some gen =>
    by_cases ready : Ready gen .next
    · exact halted_of_depart found ready ((gateNext_of_ready found ready).symm.trans gate)
    · cases (gateNext_of_not_ready found ready).symm.trans gate
      exact halted_of_not_ready (by decide) found ready

theorem halted_gateThrow {e : σ.Thrown} {a : Outcome (σ.Answer (Completion σ.Value))}
    (gate : w.gateThrow g e = .answered a w') : Halted g .throw w a w' := by
  cases found : w.gen? g with
  | none =>
    simp only [gateThrow, found] at gate
    cases gate
    exact halted_of_gone found
  | some gen =>
    by_cases ready : Ready gen .throw
    · exact halted_of_depart found ready ((gateThrow_of_ready found ready).symm.trans gate)
    · cases (gateThrow_of_not_ready found ready).symm.trans gate
      exact halted_of_not_ready (by decide) found ready

theorem halted_gateClose {a : Outcome (σ.Answer Unit)}
    (gate : w.gateClose g = .answered a w') : Halted g .close w a w' := by
  cases found : w.gen? g with
  | none =>
    simp only [gateClose, found] at gate
    cases gate
    exact halted_of_gone found
  | some gen =>
    by_cases ready : Ready gen .close
    · exact halted_of_depart found ready ((gateClose_of_ready found ready).symm.trans gate)
    rw [gateClose_of_not_ready found ready] at gate
    split at gate
    · next closing =>
      obtain ⟨legacy, -, newborn⟩ := closing
      have answer : gen.answer (.close g) = .returned (.ok ()) := by
        simp [Gen.answer, legacy, newborn]
      rw [answer] at gate
      cases gate
      exact .shut rfl found legacy newborn ()
    · next kept =>
      cases gate
      refine .refused _ ?_
      rintro gen' found' ⟨suspended, legacy⟩
      cases found.symm.trans found'
      -- it would be closed newborn if it were newborn, and else stepped
      cases newborn : gen.newborn with
      | true => exact kept ⟨legacy rfl, by simp [suspended], newborn⟩
      | false => exact ready ⟨suspended, fun _ => ⟨legacy rfl, newborn⟩⟩

end Halted

/-! ## Requests -/

/-- A request has halted at the gates. -/
inductive Halts (r : Request σ) (w w' : World σ) : Prop
  /-- It was turned away.  Only an iterator that was given up may have written anything. -/
  | refused (refused : ¬ w.Passes r) (alike : Alike w w') (rs : List Record)
      (failures : ∀ x ∈ rs, x = .closeFailed) (direct : r.cursor? = none → rs = [])
      (history : w'.history = rs.map (.logged r.target) ++ w.history)
  | shut {gen : Gen σ} (found : w.gen? r.target = some gen) (legacy : gen.flavor = .legacy)
      (newborn : gen.newborn = true)
      (unused : ∀ c, r.cursor? = some c → w.cursor? c = some ⟨false, false⟩)
      (history : w'.history = .logged r.target .closeNewborn :: w.history)
  | stalled {gen : Gen σ} (found : w.gen? r.target = some gen) (ready : Ready gen r.mode)
      (unused : ∀ c, r.cursor? = some c → w.cursor? c = some ⟨false, false⟩)
      (history : w'.history = .conflict r.target ::
        .logged r.target (.resume gen.flavor r.mode) :: w.history)

section Halts

variable {w v v' w' : World σ} {r : Request σ} {a : r.Reply} {c : CursorId}

/-- What happens to the iterator of a request around its halt at the gates does not matter, but for
what the iterator writes about a fault. -/
theorem Halted.halts {o : Outcome (σ.Answer α)} (halted : Halted r.target r.mode v o v')
    (before : Alike w v) (past : v.history = w.history)
    (unused : ∀ c, r.cursor? = some c → w.cursor? c = some ⟨false, false⟩)
    (after : Alike v' w') (rs : List Record) (failures : ∀ x ∈ rs, x = .closeFailed)
    (direct : r.cursor? = none → rs = []) (orderly : (∀ f, o ≠ .returned (.error f)) → rs = [])
    (history : w'.history = rs.map (.logged r.target) ++ v'.history) : Halts r w w' := by
  have same : v.gen? r.target = w.gen? r.target := before.gen? r.target
  cases halted with
  | refused _ closed =>
    refine .refused ?_ (before.trans after) rs failures direct (by rw [history, past])
    rintro ⟨⟨gen, found, lets⟩, -⟩
    exact closed gen (same.trans found) lets
  | shut closing found legacy newborn x =>
    cases orderly nofun
    refine .shut (same.symm.trans found) legacy newborn unused ?_
    rw [history, (becomes_shutNewborn found).history, past]
    rfl
  | stalled found ready held =>
    cases orderly nofun
    refine .stalled (same.symm.trans found) ready unused ?_
    rw [history, (becomes_stall found _ _).history, past]
    rfl

theorem Halted.halts_direct {o : Outcome (σ.Answer α)} (halted : Halted r.target r.mode w o w')
    (direct : r.cursor? = none) : Halts r w w' :=
  halted.halts .refl rfl (by simp [direct]) .refl [] nofun (fun _ => rfl) (fun _ => rfl) rfl

/-- An iterator that is in use or finished asks its generator nothing. -/
theorem Halts.of_used (hr : r.cursor? = some c) (used : w.cursor? c ≠ some ⟨false, false⟩)
    (alike : Alike w w') (history : w'.history = w.history) : Halts r w w' :=
  .refused (fun passes => used (passes.unused c hr)) alike [] nofun (fun _ => rfl) history

theorem history_of_dispose (o : Outcome (σ.Answer Unit)) :
    ∃ rs : List Record, (∀ x ∈ rs, x = .closeFailed) ∧
      ((∀ f, o ≠ .returned (.error f)) → rs = []) ∧
      (dispose c (o, v)).2.history = rs.map (.logged c.gen) ++ v.history := by
  rcases o with (f | _) | p | x
  · exact ⟨[.closeFailed], by simp, fun orderly => absurd rfl (orderly f), rfl⟩
  · exact ⟨[], nofun, fun _ => rfl, rfl⟩
  · exact ⟨[], nofun, fun _ => rfl, rfl⟩
  · exact ⟨[], nofun, fun _ => rfl, rfl⟩

theorem halts_of_gateDiscard {a : Outcome Unit} (gate : w.gateDiscard c = .answered a w') :
    Halts (.discard c) w w' := by
  by_cases unused : w.cursor? c = some ⟨false, false⟩
  · have fresh : ∀ d, (Request.discard (σ := σ) c).cursor? = some d →
        w.cursor? d = some ⟨false, false⟩ := by
      rintro d ⟨⟩
      exact unused
    obtain ⟨gen, found⟩ := Option.isSome_iff_exists.mp (isSome_gen?_of_cursor? unused)
    cases flavor : gen.flavor with
    | modern =>
      cases (gateDiscard_of_modern unused found flavor).symm.trans gate
      have marked : Alike w (w.modifyCursor c fun _ => ⟨false, true⟩) := alike_modifyCursor _
      refine .refused ?_ (marked.trans alike_eraseCursor) [] nofun (fun _ => rfl) rfl
      rintro ⟨⟨gen', found', -, legacy⟩, -⟩
      cases found.symm.trans found'
      cases flavor.symm.trans (legacy rfl)
    | legacy =>
      obtain ⟨o, v, answered, disposed⟩ :=
        Passage.map_eq_answered ((gateDiscard_of_unused unused found flavor).symm.trans gate)
      obtain rfl : (dispose c (o, v)).2 = w' := congrArg Prod.snd disposed
      obtain ⟨rs, failures, orderly, history⟩ := history_of_dispose (c := c) (v := v) o
      exact Halted.halts (r := .discard c) (halted_gateClose answered) (alike_modifyCursor _) rfl
        fresh (alike_dispose (o, v)) rs failures nofun orderly history
  · have answered := (gateDiscard_of_used unused).symm.trans gate
    split at answered
    · cases answered
      exact .of_used rfl unused alike_eraseCursor rfl
    · cases answered
      exact .of_used rfl unused .refl rfl

/-- **A request that steps no body halts at the gates.** -/
theorem halts_of_gate (gate : w.gate r = .answered a w') : Halts r w w' := by
  cases r with
  | next g x => exact Halted.halts_direct (r := .next g x) (halted_gateNext gate) rfl
  | throw g x => exact Halted.halts_direct (r := .throw g x) (halted_gateThrow gate) rfl
  | close g => exact Halted.halts_direct (r := .close g) (halted_gateClose gate) rfl
  | advance c =>
    by_cases unused : w.cursor? c = some ⟨false, false⟩
    · have fresh : ∀ d, (Request.advance (σ := σ) c).cursor? = some d →
          w.cursor? d = some ⟨false, false⟩ := by
        rintro d ⟨⟩
        exact unused
      obtain ⟨o, v, answered, told⟩ :=
        Passage.map_eq_answered ((gateAdvance_of_unused unused).symm.trans gate)
      obtain rfl : (tell c (o, v)).2 = w' := congrArg Prod.snd told
      exact Halted.halts (r := .advance c) (halted_gateNext answered) (alike_modifyCursor _) rfl
        fresh (alike_tell (o, v)) [] nofun nofun (fun _ => rfl) rfl
    · cases (gateAdvance_of_used unused).symm.trans gate
      exact .of_used rfl unused .refl rfl
  | discard c => exact halts_of_gateDiscard gate

end Halts

/-! ## Other commands -/

/-- What a command that enters no generator writes. -/
def written (w : World σ) : Command σ → List (Event σ)
  | .iterate g => (w.iterate g).1.toList.map .opened
  | .announce g mode f => [.logged g (.forward mode f)]
  | .note n => [.noted n]
  | _ => []

theorem history_serve {w : World σ} {c : Command σ} (plain : ∀ r, c ≠ .request r) :
    (w.serve Stepper.never c).2.history = w.written c ++ w.history := by
  cases c with
  | request r => exact absurd rfl (plain r)
  | iterate g =>
    simp only [serve, written, iterate]
    cases w.slots.get? g <;> rfl
  | hold g =>
    simp only [serve, hold]
    cases (w.gen? g).bind (·.hold?) <;> rfl
  | release g =>
    simp only [serve, release]
    cases (w.gen? g).bind (·.release?) <;> rfl
  | consume g => exact w.history_consume g
  | _ => rfl

theorem owner?_of_mem_written {w : World σ} {c : Command σ} {e : Event σ} (he : e ∈ w.written c) :
    e.owner? = none := by
  cases c with
  | iterate g =>
    obtain ⟨d, -, rfl⟩ := List.mem_map.mp he
    rfl
  | announce g mode f =>
    cases List.mem_singleton.mp he
    rfl
  | note n =>
    cases List.mem_singleton.mp he
    rfl
  | _ => cases he

theorem course_serve {w : World σ} {c : Command σ} (plain : ∀ r, c ≠ .request r) (g : GenId) :
    (w.serve Stepper.never c).2.course g = w.course g := by
  have unowned : (w.written c).filter (fun e => e.owner? = some g) = [] :=
    List.filter_eq_nil_iff.mpr fun e he => by simp [owner?_of_mem_written he]
  rw [course_append (history_serve plain), unowned, List.nil_append]

end World

end Resumable
