import Resumable.Program.Host
import Resumable.Proofs.Dialogue

/-!
# What requests answer

`World.Admits` says when the gates let a request through: its generator is suspended, one that is to
be closed through a step is a legacy one that was resumed before, and an iterator is idle and
unfinished.  From there three things can happen, whatever bodies do.  A request that is let through
enters a step and answers as the step ends (`World.Enters`), or finds readers at the body and panics
(`World.Stalls`).  Any other request is answered by itself, in good order and whoever holds the body
(`World.Settles`).
-/

namespace Resumable

variable {σ : Signature}

/-! ## Method calls -/

/-- A method call as a request. -/
def Request.of (g : GenId) : Method σ.Value σ.Thrown → Request σ
  | .next v => .next g v
  | .throw e => .throw g e
  | .close => .close g

/-- What a method call makes of the answer to its request. -/
def Request.handOn (g : GenId) :
    (m : Method σ.Value σ.Thrown) → (of (σ := σ) g m).Reply → σ.CallAnswer
  | .next _, a => a.map (·.map some)
  | .throw _, a => a.map (·.map some)
  | .close, a => a.map (·.map fun _ => none)

/-- A method call is one request. -/
theorem Program.invoke_eq (g : GenId) (m : Method σ.Value σ.Thrown) :
    Program.invoke g m =
      .issue (.request (.of g m)) fun a => .done (Request.handOn (σ := σ) g m a) := by
  cases m <;> rfl

/-! ## Answers after a step -/

/-- The answer to a request whose step ended, for a generator of a flavor. -/
def Request.reply : (r : Request σ) → Flavor → Ending σ.Value σ.Thrown → r.Reply
  | .next _ _, f, e => e.outcome.map (·.map (·.complete f))
  | .throw _ _, f, e => e.outcome.map (·.map (·.complete f))
  | .close _, _, e => e.outcome.map (·.map fun _ => ())
  | .advance _, f, e => (Cursor.report (e.outcome.map (·.map (·.complete f)))).2
  | .discard _, _, e =>
    match e with
    | .panicked p => .panicked p
    | _ => .returned ()

namespace Gen

/-- What a generator answers to a resume with a value when it is not stepped. -/
def answerNext (gen : Gen σ) : Outcome (σ.Answer (Completion σ.Value)) :=
  .returned (if gen.phase = .closed then World.exhausted σ gen.flavor else .error .nesting)

/-- What a generator answers when it is not stepped.  Who has the body does not matter. -/
def answer (gen : Gen σ) : (r : Request σ) → r.Reply
  | .next _ _ => gen.answerNext
  | .throw _ e => .returned (.error (if gen.phase = .closed then .raised e else .nesting))
  | .close _ =>
    .returned <| match gen.flavor with
      | .modern => .error (.mismatch ⟨.legacy, Mode.close.name⟩)
      | .legacy => if gen.phase = .closed ∨ gen.newborn = true then .ok () else .error .nesting
  | .advance _ => (Cursor.report gen.answerNext).2
  | .discard _ => .returned ()

end Gen

namespace World

section Landing

variable {w : World σ} {call : Call σ} {e : σ.StepEnd}

theorem landResumed_fst :
    (landResumed call e w).1 = e.1.outcome.map (·.map (·.complete call.flavor)) := by
  obtain ⟨_ | _ | _ | _, _⟩ := e <;> rfl

theorem landClosed_fst : (landClosed call e w).1 = e.1.outcome.map (·.map fun _ => ()) := by
  unfold landClosed
  obtain ⟨_ | _ | _ | _, _⟩ := e <;> simp only [land, settle]
  case panicked => rfl
  all_goals split <;> rfl

theorem dispose_fst {c : CursorId} (x : Outcome (σ.Answer Unit) × World σ) :
    (dispose c x).1 = x.1.map fun _ => () := by
  obtain ⟨(_ | _) | _ | _, _⟩ := x <;> rfl

end Landing

/-- **What a request answers after its step is up to the ending and the flavor alone.** -/
theorem reply_conclude (pd : Pending σ) (e : σ.StepEnd) (w : World σ) :
    (pd.conclude e w).1 = pd.request.reply pd.call.flavor e.1 := by
  obtain ⟨r, call⟩ := pd
  cases r with
  | next g v => exact landResumed_fst
  | throw g x => exact landResumed_fst
  | close g => exact landClosed_fst
  | advance c =>
    have told : (tell c (landResumed call e w)).1 =
      (Cursor.report (landResumed call e w).1).2 := rfl
    simp only [Pending.conclude, conclude, told, landResumed_fst]
    rfl
  | discard c =>
    simp only [Pending.conclude, conclude, dispose_fst, landClosed_fst]
    obtain ⟨_ | _ | _ | _, _⟩ := e <;> rfl

/-- A request panics after its step just as the step did. -/
theorem reply_eq_panicked_iff {r : Request σ} {f : Flavor} {e : Ending σ.Value σ.Thrown}
    {p : Panic} : r.reply f e = r.panicked p ↔ e = .panicked p := by
  cases r <;> cases e <;> cases f <;>
    simp [Request.reply, Request.panicked, Ending.outcome, Outcome.map, Cursor.report,
      StepResult.complete, StepResult.yielded, StepResult.returned, Except.map]

/-! ## Getting past the gates -/

/-- The gates let a request through. -/
structure Admits (w : World σ) (r : Request σ) : Prop where
  ready : ∃ gen, w.gen? r.target = some gen ∧ Ready gen r.mode
  unused : ∀ c, r.cursor? = some c → w.cursor? c = some ⟨false, false⟩

/-- A request enters a step. -/
structure Enters (w : World σ) (r : Request σ) (call : Call σ) (w' : World σ) : Prop where
  departs : ∃ gen, Departs r call gen w w'
  /-- It is answered when the body has been stepped. -/
  serve : ∀ step : Stepper σ, w.serve step (.request r) =
    Pending.conclude ⟨r, call⟩ (step call.gen call.body call.input call.mode w').1
      (step call.gen call.body call.input call.mode w').2
  /-- It panics just as the step does. -/
  panics : ∀ (e : σ.StepEnd) (v : World σ) (p : Panic),
    (Pending.conclude ⟨r, call⟩ e v).1 = r.panicked p ↔ e.1 = .panicked p

/-- A request finds readers at the body: it panics, nobody is stepped, and the generator is closed
with the readers still there. -/
structure Stalls (w : World σ) (r : Request σ) (w' : World σ) : Prop where
  serve : ∀ step : Stepper σ, w.serve step (.request r) = (r.panicked .bodyHeld, w')
  history : ∃ f, w'.history = .answered r (r.panicked .bodyHeld) :: .conflict r.target ::
    .logged r.target (.resume f r.mode) :: w.history
  closed : ∃ gen, w.gen? r.target = some gen ∧
    w'.gen? r.target = some { gen with phase := .closed, newborn := false }
  others : ∀ g, r.target ≠ g → w'.gen? g = w.gen? g

/-- A request is answered by itself, without a panic and without a step. -/
structure Settles (w : World σ) (r : Request σ) (a : r.Reply) (w' : World σ) : Prop where
  serve : ∀ step : Stepper σ, w.serve step (.request r) = (a, w')
  orderly : ∀ p, a ≠ r.panicked p
  /-- The answer is up to the generator, unless an iterator answers in its place. -/
  answer : (∀ c, r.cursor? = some c → w.cursor? c = some ⟨false, false⟩) →
    ∀ gen, w.gen? r.target = some gen → a = gen.answer r
  /-- The answer would be the same whoever had the body. -/
  regardless : ∀ (l : Loan) (step : Stepper σ),
    ((w.modifyGen r.target fun gen => { gen with loan := l }).serve step (.request r)).1 = a
  /-- Nothing happens to a generator unless it is closed newborn. -/
  gen? : ∀ g, w'.gen? g = w.gen? g ∨
    ∃ gen, w.gen? g = some gen ∧ gen.newborn = true ∧
      w'.gen? g = some { gen with phase := .closed, newborn := false }

section Gates

variable {w w' v v' : World σ} {r : Request σ} {a : r.Reply} {call : Call σ} {g : GenId}
  {gen : Gen σ} {c : CursorId} {l : Loan}

/-- An answer at the gates is the answer, however bodies are stepped. -/
theorem serve_of_gate_answered (gate : w.gate r = .answered a w') (step : Stepper σ) :
    w.serve step (.request r) = (a, w'.record (.answered r a)) := by
  simp only [serve, perform_eq_through, gate, Passage.through]

theorem enters_of_gate (gate : w.gate r = .stepping call w') : w.Enters r call w' where
  departs := departs_of_gate gate
  serve step := by
    simp only [serve, perform_eq_through, gate, Passage.through]
    rfl
  panics e v p := by
    rw [reply_conclude]
    exact reply_eq_panicked_iff

/-! ### Requests that are let through -/

theorem gateNext_of_ready {x : Option σ.Value} (found : w.gen? g = some gen)
    (ready : Ready gen .next) : w.gateNext g x = depart g gen (.value x) .next w := by
  simp only [gateNext, found, ready.1]

theorem gateThrow_of_ready {x : σ.Thrown} (found : w.gen? g = some gen)
    (ready : Ready gen .throw) : w.gateThrow g x = depart g gen (.error x) .throw w := by
  simp only [gateThrow, found, ready.1]

theorem gateClose_of_ready (found : w.gen? g = some gen) (ready : Ready gen .close) :
    w.gateClose g = depart g gen .empty .close w := by
  obtain ⟨suspended, closable⟩ := ready
  obtain ⟨legacy, started⟩ := closable rfl
  simp only [gateClose, found, legacy, suspended, started]

/-! ### Requests that are not let through -/

theorem gateNext_of_not_ready {x : Option σ.Value} (found : w.gen? g = some gen)
    (unready : ¬ Ready gen .next) : w.gateNext g x = .answered gen.answerNext w := by
  unfold gateNext
  rw [found]
  cases phase : gen.phase with
  | suspended => exact absurd ⟨phase, nofun⟩ unready
  | _ => simp [Gen.answerNext, phase]

theorem gateThrow_of_not_ready {x : σ.Thrown} (found : w.gen? g = some gen)
    (unready : ¬ Ready gen .throw) :
    w.gateThrow g x = .answered (gen.answer (.throw g x)) w := by
  unfold gateThrow
  rw [found]
  cases phase : gen.phase with
  | suspended => exact absurd ⟨phase, nofun⟩ unready
  | _ => simp [Gen.answer, phase]

/-- A newborn legacy generator is closed, and that is all that can happen. -/
theorem gateClose_of_not_ready (found : w.gen? g = some gen) (unready : ¬ Ready gen .close) :
    w.gateClose g = .answered (gen.answer (.close g))
      (if gen.flavor = .legacy ∧ gen.phase ≠ .closed ∧ gen.newborn = true then w.shutNewborn g
      else w) := by
  unfold gateClose
  rw [found]
  cases flavor : gen.flavor with
  | modern => simp [Gen.answer, flavor]
  | legacy =>
    cases newborn : gen.newborn with
    | true => cases phase : gen.phase <;> simp [Gen.answer, flavor, phase, newborn]
    | false =>
      cases phase : gen.phase with
      | suspended => exact absurd ⟨phase, fun _ => ⟨flavor, newborn⟩⟩ unready
      | _ => simp [Gen.answer, flavor, phase, newborn]

/-! ### Entering and stalling -/

/-- A request that is let through steps a body that is at home and free. -/
theorem exists_gate_stepping (admits : w.Admits r) (found : w.gen? r.target = some gen)
    (free : gen.loan = .shared 0) : ∃ call w', w.gate r = .stepping call w' := by
  obtain ⟨⟨gen', found', ready⟩, unused⟩ := admits
  cases found.symm.trans found'
  cases r with
  | next g x => exact ⟨_, _, (gateNext_of_ready found ready).trans (if_pos free)⟩
  | throw g x => exact ⟨_, _, (gateThrow_of_ready found ready).trans (if_pos free)⟩
  | close g => exact ⟨_, _, (gateClose_of_ready found ready).trans (if_pos free)⟩
  | advance c =>
    have found' := (gen?_modifyCursor w c (fun _ => ⟨false, true⟩) c.gen).trans found
    have stepping := (gateNext_of_ready (x := none) found' ready).trans (if_pos free)
    simp only [gate, gateAdvance_of_unused (unused c rfl), stepping, Passage.map]
    exact ⟨_, _, rfl⟩
  | discard c =>
    have found' := (gen?_modifyCursor w c (fun _ => ⟨false, true⟩) c.gen).trans found
    have stepping := (gateClose_of_ready found' ready).trans (if_pos free)
    simp only [gate, gateDiscard_of_unused (unused c rfl) found (ready.2 rfl).1, stepping,
      Passage.map]
    exact ⟨_, _, rfl⟩

/-- What happens to iterators around a stall does not matter. -/
private theorem stalls_of_becomes (v : World σ) (found : w.gen? r.target = some gen)
    (gate : w.gate r = .answered (r.panicked .bodyHeld) v')
    (before : Alike w v) (history : v.history = w.history)
    (after : Alike (v.stall r.target gen.flavor r.mode) v')
    (history' : v'.history = (v.stall r.target gen.flavor r.mode).history) :
    w.Stalls r (v'.record (.answered r (r.panicked .bodyHeld))) := by
  have becomes := becomes_stall ((before.gen? r.target).trans found) gen.flavor r.mode
  refine ⟨serve_of_gate_answered gate, ⟨gen.flavor, ?_⟩, ⟨gen, found, ?_⟩, ?_⟩
  · rw [history_record, history', becomes.history, history]
    rfl
  · exact (after.gen? r.target).trans becomes.self
  · intro h hh
    exact ((after.gen? h).trans (becomes.of_ne hh.symm)).trans (before.gen? h)

/-- **A request that is let through to a body held by readers stalls.** -/
theorem exists_stalls (admits : w.Admits r) (found : w.gen? r.target = some gen)
    (held : gen.loan ≠ .shared 0) : ∃ w', w.Stalls r w' := by
  obtain ⟨⟨gen', found', ready⟩, unused⟩ := admits
  cases found.symm.trans found'
  cases r with
  | next g x =>
    have gate : w.gate (.next g x) = .answered (.panicked .bodyHeld) (w.stall g gen.flavor .next) :=
      (gateNext_of_ready found ready).trans (if_neg held)
    exact ⟨_, stalls_of_becomes w found gate .refl rfl .refl rfl⟩
  | throw g x =>
    have gate : w.gate (.throw g x) =
        .answered (.panicked .bodyHeld) (w.stall g gen.flavor .throw) :=
      (gateThrow_of_ready found ready).trans (if_neg held)
    exact ⟨_, stalls_of_becomes w found gate .refl rfl .refl rfl⟩
  | close g =>
    have gate : w.gate (.close g) = .answered (.panicked .bodyHeld) (w.stall g gen.flavor .close) :=
      (gateClose_of_ready found ready).trans (if_neg held)
    exact ⟨_, stalls_of_becomes w found gate .refl rfl .refl rfl⟩
  | advance c =>
    let marked := w.modifyCursor c fun _ => ⟨false, true⟩
    have found' : marked.gen? c.gen = some gen := (gen?_modifyCursor ..).trans found
    have held' : marked.gateNext c.gen none =
        .answered (.panicked .bodyHeld) (marked.stall c.gen gen.flavor .next) :=
      (gateNext_of_ready found' ready).trans (if_neg held)
    have gate : w.gate (.advance c) = .answered (.panicked .bodyHeld)
        ((marked.stall c.gen gen.flavor .next).modifyCursor c fun _ => ⟨false, false⟩) := by
      rw [gate, gateAdvance_of_unused (unused c rfl), held']
      rfl
    have before : Alike w marked := alike_modifyCursor _
    exact ⟨_, stalls_of_becomes marked found gate before rfl (alike_modifyCursor _) rfl⟩
  | discard c =>
    let marked := w.modifyCursor c fun _ => ⟨false, true⟩
    have found' : marked.gen? c.gen = some gen := (gen?_modifyCursor ..).trans found
    have held' : marked.gateClose c.gen =
        .answered (.panicked .bodyHeld) (marked.stall c.gen gen.flavor .close) :=
      (gateClose_of_ready found' ready).trans (if_neg held)
    have gate : w.gate (.discard c) = .answered (.panicked .bodyHeld)
        ((marked.stall c.gen gen.flavor .close).eraseCursor c) := by
      rw [gate, gateDiscard_of_unused (unused c rfl) found (ready.2 rfl).1, held']
      rfl
    have before : Alike w marked := alike_modifyCursor _
    exact ⟨_, stalls_of_becomes marked found gate before rfl alike_eraseCursor rfl⟩

end Gates

/-! ### Answers at the gates -/

section Answered

variable {w w' : World σ} {r : Request σ} {a : r.Reply}

/-- An answer at the gates leaves a generator as it is or closes it. -/
theorem gen?_of_gate (gate : w.gate r = .answered a w') (g : GenId) :
    w'.gen? g = w.gen? g ∨ ∃ gen, w.gen? g = some gen ∧ w'.gen? g = some gen.start.shut := by
  obtain ⟨ρ, b, v, v', before, gated, after⟩ := gated_of_gate gate
  rw [after.alike.gen? g, ← before.alike.gen? g]
  have becomes {gen : Gen σ} {es : List (Event σ)} (found : v.gen? r.target = some gen)
      (becomes : Becomes r.target gen.start.shut es v v') :
      v'.gen? g = v.gen? g ∨ ∃ gen, v.gen? g = some gen ∧ v'.gen? g = some gen.start.shut := by
    by_cases hg : g = r.target
    · subst hg
      exact .inr ⟨gen, found, becomes.self⟩
    · exact .inl (becomes.of_ne hg)
  cases gated with
  | answered => exact .inl rfl
  | shut found => exact becomes found (becomes_shutNewborn found)
  | stalled found => exact becomes found (becomes_stall found _ _)

end Answered

/-! ### Requests that are not let through -/

/-- Two passages are answered alike, in good order and as a generator says if it is there, and the
first one does nothing but close a newborn generator. -/
def Agree {α : Type} (u : World σ) (found : Option (Gen σ)) (answer : Gen σ → Outcome α)
    (x y : Passage σ (Outcome α)) : Prop :=
  ∃ o w v, x = .answered o w ∧ y = .answered o v ∧ (∀ p, o ≠ .panicked p) ∧
    (∀ gen, found = some gen → o = answer gen) ∧
    ∀ h, w.gen? h = u.gen? h ∨
      ∃ gen, u.gen? h = some gen ∧ gen.newborn = true ∧ w.gen? h = some gen.start.shut

theorem Agree.map {α β : Type} {u u' : World σ} {found : Option (Gen σ)}
    {answer : Gen σ → Outcome α} {x y : Passage σ (Outcome α)} (agree : Agree u found answer x y)
    (alike : Alike u' u) {f : Outcome α × World σ → Outcome β × World σ}
    {reply : Outcome α → Outcome β}
    (fst : ∀ x, (f x).1 = reply x.1) (snd : ∀ x, Alike x.2 (f x).2)
    (orderly : ∀ o, (∀ p, o ≠ .panicked p) → ∀ p, reply o ≠ .panicked p) :
    Agree u' found (fun gen => reply (answer gen)) (x.map f) (y.map f) := by
  obtain ⟨o, w, v, rfl, rfl, ho, said, gens⟩ := agree
  refine ⟨reply o, (f (o, w)).2, (f (o, v)).2, ?_, ?_, orderly o ho, ?_, ?_⟩
  · simp only [Passage.map, fst]
  · simp only [Passage.map, fst]
  · intro gen found
    rw [said gen found]
  · intro h
    rw [(snd (o, w)).gen? h, ← alike.gen? h]
    exact gens h

section Settling

variable {w v : World σ} {g : GenId} {l : Loan}
  (same : v.gen? g = (w.gen? g).map fun gen => { gen with loan := l })

include same

/-- A gate that answers as the generator says answers alike whoever has the body. -/
theorem agree_of_settled {α : Type} {mode : Mode} (gate : World σ → Passage σ (Outcome α))
    (answer : Gen σ → Outcome α) (after : Gen σ → World σ → World σ)
    (gone : ∀ u, u.gen? g = none → gate u = .answered (.refused .gone) u)
    (settled : ∀ u gen, u.gen? g = some gen → ¬ Ready gen mode →
      gate u = .answered (answer gen) (after gen u))
    (regardless : ∀ gen l, answer { gen with loan := l } = answer gen)
    (orderly : ∀ gen p, answer gen ≠ .panicked p)
    (change : ∀ gen, w.gen? g = some gen → ∀ h, (after gen w).gen? h = w.gen? h ∨
      ∃ gen', w.gen? h = some gen' ∧ gen'.newborn = true ∧
        (after gen w).gen? h = some gen'.start.shut)
    (unready : ∀ gen, w.gen? g = some gen → ¬ Ready gen mode) :
    Agree w (w.gen? g) answer (gate w) (gate v) := by
  cases found : w.gen? g with
  | none =>
    have absent : v.gen? g = none := by rw [same, found, Option.map_none]
    exact ⟨_, _, _, gone w found, gone v absent, nofun, nofun, fun _ => .inl rfl⟩
  | some gen =>
    have found' : v.gen? g = some { gen with loan := l } := by rw [same, found, Option.map_some]
    have answered := settled v { gen with loan := l } found' (unready gen found)
    rw [regardless] at answered
    refine ⟨_, _, _, settled w gen found (unready gen found), answered, orderly gen, ?_,
      change gen found⟩
    rintro _ ⟨⟩
    rfl

theorem agree_gateNext {x : Option σ.Value}
    (unready : ∀ gen, w.gen? g = some gen → ¬ Ready gen .next) :
    Agree w (w.gen? g) Gen.answerNext (w.gateNext g x) (v.gateNext g x) := by
  apply agree_of_settled same (gateNext g x) Gen.answerNext fun _ u => u
  · intro u gone
    simp only [gateNext, gone]
  · exact fun u gen => gateNext_of_not_ready
  · exact fun _ _ => rfl
  · intro gen p h
    cases h
  · exact fun _ _ _ => .inl rfl
  · exact unready

theorem agree_gateThrow {x : σ.Thrown}
    (unready : ∀ gen, w.gen? g = some gen → ¬ Ready gen .throw) :
    Agree w (w.gen? g) (·.answer (.throw g x)) (w.gateThrow g x) (v.gateThrow g x) := by
  apply agree_of_settled same (gateThrow g x) (·.answer (.throw g x)) fun _ u => u
  · intro u gone
    simp only [gateThrow, gone]
  · exact fun u gen => gateThrow_of_not_ready
  · exact fun _ _ => rfl
  · intro gen p h
    cases h
  · exact fun _ _ _ => .inl rfl
  · exact unready

theorem agree_gateClose (unready : ∀ gen, w.gen? g = some gen → ¬ Ready gen .close) :
    Agree w (w.gen? g) (·.answer (.close g)) (w.gateClose g) (v.gateClose g) := by
  apply agree_of_settled same (gateClose g) (·.answer (.close g)) fun gen u =>
    if gen.flavor = .legacy ∧ gen.phase ≠ .closed ∧ gen.newborn = true then u.shutNewborn g else u
  · intro u gone
    simp only [gateClose, gone]
  · exact fun u gen => gateClose_of_not_ready
  · exact fun _ _ => rfl
  · intro gen p h
    cases h
  · intro gen found h
    by_cases closing : gen.flavor = .legacy ∧ gen.phase ≠ .closed ∧ gen.newborn = true
    · rw [if_pos closing]
      have becomes := becomes_shutNewborn found
      by_cases hh : h = g
      · subst hh
        exact .inr ⟨gen, found, closing.2.2, becomes.self⟩
      · exact .inl (becomes.of_ne hh)
    · rw [if_neg closing]
      exact .inl rfl
  · exact unready

end Settling

theorem report_orderly {o : Outcome (σ.Answer (Completion σ.Value))} (ho : ∀ p, o ≠ .panicked p)
    (p : Panic) : (Cursor.report o).2 ≠ .panicked p := by
  unfold Cursor.report
  split
  case h_6 q => exact absurd rfl (ho q)
  all_goals nofun

/-- Two worlds answer a request at their gates alike, in the same way as `Agree` says. -/
def AgreeOn (w v : World σ) (r : Request σ) : Prop :=
  ∃ a w₁ v₁, w.gate r = .answered a w₁ ∧ v.gate r = .answered a v₁ ∧ (∀ p, a ≠ r.panicked p) ∧
    ((∀ c, r.cursor? = some c → w.cursor? c = some ⟨false, false⟩) →
      ∀ gen, w.gen? r.target = some gen → a = gen.answer r) ∧
    ∀ h, w₁.gen? h = w.gen? h ∨
      ∃ gen, w.gen? h = some gen ∧ gen.newborn = true ∧ w₁.gen? h = some gen.start.shut

section Settling

variable {w v : World σ} {c : CursorId} {l : Loan}
  (same : v.gen? c.gen = (w.gen? c.gen).map fun gen => { gen with loan := l })
  (cursor : v.cursor? c = w.cursor? c)

include same cursor

theorem agreeOn_advance (unready : w.cursor? c = some ⟨false, false⟩ →
    ∀ gen, w.gen? c.gen = some gen → ¬ Ready gen .next) : AgreeOn w v (.advance c) := by
  by_cases unused : w.cursor? c = some ⟨false, false⟩
  · have marked (u : World σ) : (u.modifyCursor c fun _ => ⟨false, true⟩).gen? c.gen =
        u.gen? c.gen := gen?_modifyCursor ..
    have agree := agree_gateNext (x := none) ((marked v).trans (marked w ▸ same))
      (marked w ▸ unready unused)
    obtain ⟨o, w₁, v₁, gate, gate', orderly, said, gens⟩ :=
      agree.map (alike_modifyCursor _) (f := tell c) (fun _ => rfl) alike_tell
        fun _ => report_orderly
    refine ⟨o, w₁, v₁, (gateAdvance_of_unused unused).trans gate,
      (gateAdvance_of_unused (cursor.trans unused)).trans gate', orderly, ?_, gens⟩
    exact fun _ gen found => said gen ((marked w).trans found)
  · have used : v.cursor? c ≠ some ⟨false, false⟩ := cursor ▸ unused
    have gate := gateAdvance_of_used used
    rw [show v.advanceUsed c = w.advanceUsed c by rw [advanceUsed, cursor, advanceUsed]] at gate
    refine ⟨w.advanceUsed c, w, v, gateAdvance_of_used unused, gate, ?_, ?_, fun _ => .inl rfl⟩
    · intro p
      unfold advanceUsed
      split
      · nofun
      · split <;> nofun
    · exact fun fresh => absurd (fresh c rfl) unused

theorem agreeOn_discard (unready : w.cursor? c = some ⟨false, false⟩ →
    ∀ gen, w.gen? c.gen = some gen → ¬ Ready gen .close) : AgreeOn w v (.discard c) := by
  by_cases unused : w.cursor? c = some ⟨false, false⟩
  · obtain ⟨gen, found⟩ := Option.isSome_iff_exists.mp (isSome_gen?_of_cursor? unused)
    have found' : v.gen? c.gen = some { gen with loan := l } := by
      rw [same, found, Option.map_some]
    have unused' := cursor.trans unused
    cases flavor : gen.flavor with
    | modern =>
      refine ⟨_, _, _, gateDiscard_of_modern unused found flavor,
        gateDiscard_of_modern unused' found' flavor, nofun, fun _ _ _ => rfl, fun h => .inl ?_⟩
      exact ((alike_modifyCursor _).trans alike_eraseCursor).gen? h
    | legacy =>
      have marked (u : World σ) : (u.modifyCursor c fun _ => ⟨false, true⟩).gen? c.gen =
          u.gen? c.gen := gen?_modifyCursor ..
      have agree := agree_gateClose ((marked v).trans (marked w ▸ same))
        (marked w ▸ unready unused)
      have dispose_orderly (o : Outcome (σ.Answer Unit)) (orderly : ∀ p, o ≠ .panicked p)
          (p : Panic) : o.map (fun _ => ()) ≠ .panicked p := by
        cases o with
        | panicked q => exact absurd rfl (orderly q)
        | _ => nofun
      obtain ⟨o, w₁, v₁, gate, gate', orderly, said, gens⟩ :=
        agree.map (alike_modifyCursor _) dispose_fst alike_dispose dispose_orderly
      refine ⟨o, w₁, v₁, (gateDiscard_of_unused unused found flavor).trans gate,
        (gateDiscard_of_unused unused' found' flavor).trans gate', orderly, ?_, gens⟩
      exact fun _ gen found => said gen ((marked w).trans found)
  · have used : v.cursor? c ≠ some ⟨false, false⟩ := cursor ▸ unused
    have gate := gateDiscard_of_used used
    rw [show v.discardUsed c = w.discardUsed c by rw [discardUsed, cursor, discardUsed]] at gate
    refine ⟨w.discardUsed c, _, _, gateDiscard_of_used unused, gate, ?_, ?_, ?_⟩
    · intro p
      unfold discardUsed
      split
      · nofun
      · split <;> nofun
    · exact fun fresh => absurd (fresh c rfl) unused
    · intro h
      split
      · exact .inl (alike_eraseCursor.gen? h)
      · exact .inl rfl

end Settling

section Settling

variable {w : World σ} {r : Request σ}

theorem exists_settles_of_agree
    (agree : ∀ l : Loan, AgreeOn w (w.modifyGen r.target fun gen => { gen with loan := l }) r) :
    ∃ a w', w.Settles r a w' := by
  obtain ⟨a, w₁, v₁, gate, -, orderly, said, gens⟩ := agree .exclusive
  refine ⟨a, _, serve_of_gate_answered gate, orderly, said, ?_, gens⟩
  intro l step
  obtain ⟨b, w₂, v₂, gate', gate'', -⟩ := agree l
  cases gate.symm.trans gate'
  rw [serve_of_gate_answered gate'']

/-- **A request that is not let through is answered by itself.** -/
theorem exists_settles (refused : ¬ w.Admits r) : ∃ a w', w.Settles r a w' := by
  apply exists_settles_of_agree
  intro l
  let v := w.modifyGen r.target fun gen => { gen with loan := l }
  have same : v.gen? r.target = (w.gen? r.target).map fun gen => { gen with loan := l } := by
    rw [gen?_modifyGen, if_pos rfl]
  have unready (unused : ∀ c, r.cursor? = some c → w.cursor? c = some ⟨false, false⟩)
      (gen : Gen σ) (found : w.gen? r.target = some gen) : ¬ Ready gen r.mode :=
    fun ready => refused ⟨⟨gen, found, ready⟩, unused⟩
  cases r with
  | next g x =>
    obtain ⟨o, w₁, v₁, gate, gate', orderly, said, gens⟩ := agree_gateNext same (unready nofun)
    exact ⟨o, w₁, v₁, gate, gate', orderly, fun _ => said, gens⟩
  | throw g x =>
    obtain ⟨o, w₁, v₁, gate, gate', orderly, said, gens⟩ := agree_gateThrow same (unready nofun)
    exact ⟨o, w₁, v₁, gate, gate', orderly, fun _ => said, gens⟩
  | close g =>
    obtain ⟨o, w₁, v₁, gate, gate', orderly, said, gens⟩ := agree_gateClose same (unready nofun)
    exact ⟨o, w₁, v₁, gate, gate', orderly, fun _ => said, gens⟩
  | advance c =>
    refine agreeOn_advance same (cursor?_modifyGen ..) fun hc => unready ?_
    rintro _ ⟨⟩
    exact hc
  | discard c =>
    refine agreeOn_discard same (cursor?_modifyGen ..) fun hc => unready ?_
    rintro _ ⟨⟩
    exact hc

end Settling

end World

end Resumable
