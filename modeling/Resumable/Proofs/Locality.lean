import Resumable.Proofs.Quiet

/-!
# What a request depends on

A request looks at the slot of its generator and at nothing else in the world; it changes that slot
alone, and adds to the history.  To use this for any two worlds that agree on the slot, it is put in
terms of a relation between worlds: one that sees to the agreement, and goes along with changes to
the slot and with events, is local to the generator (`World.LocalAt`).  Every operation on the
generator then comes to the same in worlds that are so related, and leaves them related:
`World.LocalAt.gate` before a step and `World.LocalAt.conclude` after it.
-/

namespace Resumable

variable {σ : Signature} {α ρ ρ' : Type}

/-- The engine, the flavor and the body of a generator. -/
def Gen.makeup (gen : Gen σ) : σ.Kind × Flavor × σ.Body :=
  (gen.kind, gen.flavor, gen.body)

theorem Gen.makeup_of_hold? {gen gen' : Gen σ} (h : gen.hold? = some gen') :
    gen'.makeup = gen.makeup := by
  unfold hold? at h
  split at h <;> cases h
  rfl

theorem Gen.makeup_of_release? {gen gen' : Gen σ} (h : gen.release? = some gen') :
    gen'.makeup = gen.makeup := by
  unfold release? at h
  split at h <;> cases h
  rfl

/-- Two results are the same, with worlds that are related. -/
def Abreast (rel : World σ → World σ → Prop) (x x' : ρ × World σ) : Prop :=
  x'.1 = x.1 ∧ rel x.2 x'.2

/-- Two passages get equally far, with worlds that are related. -/
inductive Passage.Abreast (rel : World σ → World σ → Prop) : Passage σ ρ → Passage σ ρ → Prop
  | answered (a : ρ) {w w' : World σ} (after : rel w w') :
      Abreast rel (.answered a w) (.answered a w')
  | stepping (call : Call σ) {w w' : World σ} (after : rel w w') :
      Abreast rel (.stepping call w) (.stepping call w')

theorem Passage.Abreast.map {rel : World σ → World σ → Prop} {x x' : Passage σ ρ}
    (abreast : x.Abreast rel x') {f : ρ × World σ → ρ' × World σ}
    (commutes : ∀ a w w', rel w w' → Resumable.Abreast rel (f (a, w)) (f (a, w'))) :
    (x.map f).Abreast rel (x'.map f) := by
  cases abreast with
  | answered a after =>
    obtain ⟨same, after⟩ := commutes a _ _ after
    simp only [Passage.map, same]
    exact .answered _ after
  | stepping call after => exact .stepping call after

namespace World

/-- A relation between worlds that agree on the slot of a generator.  It goes along with changes to
the slot; those that touch the body are to put another one of its own in place. -/
structure LocalAt (g : GenId) (own : σ.Body → Prop) (rel : World σ → World σ → Prop) : Prop where
  slot : ∀ {w w'}, rel w w' → w'.slots.get? g = w.slots.get? g
  modify : ∀ {w w'} (f : Slot σ → Slot σ),
    (∀ s, w.slots.get? g = some s → (f s).gen.makeup = s.gen.makeup) → rel w w' →
      rel { w with slots := w.slots.modify g f } { w' with slots := w'.slots.modify g f }
  takeBack : ∀ {w w'} {body : σ.Body}, own body → rel w w' →
    rel (w.modifyGen g (.takeBack body)) (w'.modifyGen g (.takeBack body))
  record : ∀ {w w'} (e : Event σ), rel w w' → rel (w.record e) (w'.record e)

namespace LocalAt

variable {g : GenId} {own : σ.Body → Prop} {rel : World σ → World σ → Prop}
  (here : LocalAt g own rel) {w w' : World σ} {c : CursorId}
include here

/-! ## Single changes -/

theorem gen? (h : rel w w') : w'.gen? g = w.gen? g := by
  unfold World.gen?
  rw [here.slot h]

theorem cursor? (hc : c.gen = g) (h : rel w w') : w'.cursor? c = w.cursor? c := by
  unfold World.cursor?
  rw [hc, here.slot h]

theorem phaseOf (h : rel w w') : w'.phaseOf g = w.phaseOf g := by
  unfold World.phaseOf
  rw [here.gen? h]

theorem modifyGen {f : Gen σ → Gen σ}
    (keeps : ∀ gen, w.gen? g = some gen → (f gen).makeup = gen.makeup) (h : rel w w') :
    rel (w.modifyGen g f) (w'.modifyGen g f) := by
  refine here.modify (fun s => { s with gen := f s.gen }) ?_ h
  intro s hs
  apply keeps
  simp [World.gen?, hs]

theorem modifyCursor (hc : c.gen = g) (f : Cursor → Cursor) (h : rel w w') :
    rel (w.modifyCursor c f) (w'.modifyCursor c f) := by
  subst hc
  exact here.modify (fun s => { s with cursors := s.cursors.modify c.number f })
    (fun _ _ => rfl) h

theorem eraseCursor (hc : c.gen = g) (h : rel w w') : rel (w.eraseCursor c) (w'.eraseCursor c) := by
  subst hc
  exact here.modify (fun s => { s with cursors := s.cursors.erase c.number }) (fun _ _ => rfl) h

/-! ## Without a step -/

theorem iterate (h : rel w w') : Abreast rel (w.iterate g) (w'.iterate g) := by
  unfold World.iterate
  rw [here.slot h]
  cases w.slots.get? g with
  | none => exact ⟨rfl, h⟩
  | some s =>
    have opened := here.modify
      (fun s => { s with cursors := s.cursors.insert ⟨false, false⟩ }) (fun _ _ => rfl) h
    exact ⟨rfl, here.record _ opened⟩

theorem hold (h : rel w w') : Abreast rel (w.hold g) (w'.hold g) := by
  unfold World.hold
  rw [here.gen? h]
  cases held : (w.gen? g).bind (·.hold?) with
  | none => exact ⟨rfl, h⟩
  | some gen =>
    have keeps : ∀ found, w.gen? g = some found → gen.makeup = found.makeup := by
      intro found hf
      rw [hf] at held
      exact Gen.makeup_of_hold? held
    exact ⟨rfl, here.modifyGen (f := fun _ => gen) keeps h⟩

theorem release (h : rel w w') : Abreast rel (w.release g) (w'.release g) := by
  unfold World.release
  rw [here.gen? h]
  cases freed : (w.gen? g).bind (·.release?) with
  | none => exact ⟨rfl, h⟩
  | some gen =>
    have keeps : ∀ found, w.gen? g = some found → gen.makeup = found.makeup := by
      intro found hf
      rw [hf] at freed
      exact Gen.makeup_of_release? freed
    exact ⟨rfl, here.modifyGen (f := fun _ => gen) keeps h⟩

/-! ## Before a step -/

theorem embark (f : Flavor) (input : Input σ.Value σ.Thrown) (mode : Mode) (h : rel w w') :
    rel (w.embark g f input mode) (w'.embark g f input mode) := by
  have started := here.record (.logged g (.resume f mode))
    (here.modifyGen (f := .start) (fun _ _ => rfl) h)
  have entered := here.modifyGen (f := .enter) (fun _ _ => rfl) started
  exact here.record _ (here.modifyGen (f := .lend) (fun _ _ => rfl) entered)

theorem stall (f : Flavor) (mode : Mode) (h : rel w w') :
    rel (w.stall g f mode) (w'.stall g f mode) := by
  have started := here.record (.logged g (.resume f mode))
    (here.modifyGen (f := .start) (fun _ _ => rfl) h)
  have entered := here.modifyGen (f := .enter) (fun _ _ => rfl) started
  exact here.modifyGen (f := .leave .closed) (fun _ _ => rfl) (here.record (.conflict g) entered)

theorem shutNewborn (h : rel w w') : rel (w.shutNewborn g) (w'.shutNewborn g) :=
  here.modifyGen (f := fun gen => gen.start.shut) (fun _ _ => rfl)
    (here.record (.logged g .closeNewborn) h)

theorem depart (gen : Gen σ) (input : Input σ.Value σ.Thrown) (mode : Mode) (h : rel w w') :
    (World.depart (α := α) g gen input mode w).Abreast rel (World.depart g gen input mode w') := by
  unfold World.depart
  split
  · exact .stepping _ (here.embark _ _ _ h)
  · exact .answered _ (here.stall _ _ h)

theorem gateNext (v : Option σ.Value) (h : rel w w') :
    (w.gateNext g v).Abreast rel (w'.gateNext g v) := by
  unfold World.gateNext
  rw [here.gen? h]
  cases w.gen? g with
  | none => exact .answered _ h
  | some gen =>
    dsimp only
    cases gen.phase with
    | suspended => exact here.depart gen _ _ h
    | _ => exact .answered _ h

theorem gateThrow (e : σ.Thrown) (h : rel w w') :
    (w.gateThrow g e).Abreast rel (w'.gateThrow g e) := by
  unfold World.gateThrow
  rw [here.gen? h]
  cases w.gen? g with
  | none => exact .answered _ h
  | some gen =>
    dsimp only
    cases gen.phase with
    | suspended => exact here.depart gen _ _ h
    | _ => exact .answered _ h

theorem gateClose (h : rel w w') : (w.gateClose g).Abreast rel (w'.gateClose g) := by
  unfold World.gateClose
  rw [here.gen? h]
  cases w.gen? g with
  | none => exact .answered _ h
  | some gen =>
    dsimp only
    cases gen.flavor with
    | modern => exact .answered _ h
    | legacy =>
      cases gen.phase <;> cases gen.newborn
      case suspended.false => exact here.depart gen _ _ h
      case suspended.true | running.true => exact .answered _ (here.shutNewborn h)
      all_goals exact .answered _ h

theorem tell (hc : c.gen = g) (a : Outcome (σ.Answer (Completion σ.Value))) (h : rel w w') :
    Abreast rel (tell c (a, w)) (World.tell c (a, w')) :=
  ⟨rfl, here.modifyCursor hc _ h⟩

theorem dispose (hc : c.gen = g) (a : Outcome (σ.Answer Unit)) (h : rel w w') :
    Abreast rel (dispose c (a, w)) (World.dispose c (a, w')) := by
  rcases a with (_ | _) | _ | _
  · exact ⟨rfl, here.eraseCursor hc (here.record (.logged c.gen .closeFailed) h)⟩
  all_goals exact ⟨rfl, here.eraseCursor hc h⟩

theorem gateAdvance (hc : c.gen = g) (h : rel w w') :
    (w.gateAdvance c).Abreast rel (w'.gateAdvance c) := by
  unfold World.gateAdvance
  rw [here.cursor? hc h]
  cases w.cursor? c with
  | none => exact .answered _ h
  | some cur =>
    dsimp only
    split
    · exact .answered _ h
    split
    · exact .answered _ h
    have marked := here.modifyCursor hc (fun _ => ⟨false, true⟩) h
    rw [hc]
    exact (here.gateNext none marked).map fun a _ _ => here.tell hc a

theorem gateDiscard (hc : c.gen = g) (h : rel w w') :
    (w.gateDiscard c).Abreast rel (w'.gateDiscard c) := by
  unfold World.gateDiscard
  rw [here.cursor? hc h, hc, here.gen? h]
  cases w.cursor? c with
  | none => exact .answered _ h
  | some cur =>
    cases w.gen? g with
    | none => exact .answered _ h
    | some gen =>
      dsimp only
      split
      · exact .answered _ h
      split
      · exact .answered _ (here.eraseCursor hc h)
      have marked := here.modifyCursor hc (fun _ => ⟨false, true⟩) h
      cases gen.flavor with
      | modern => exact .answered _ (here.eraseCursor hc marked)
      | legacy => exact (here.gateClose marked).map fun a _ _ => here.dispose hc a

/-! ## After a step -/

theorem settle (e : Ending σ.Value σ.Thrown) (h : rel w w') :
    Abreast rel (World.settle g e w) (World.settle g e w') := by
  have left (exit : Phase) : rel (w.modifyGen g (.leave exit)) (w'.modifyGen g (.leave exit)) :=
    here.modifyGen (fun _ _ => rfl) h
  -- the report names the phase that is found then, which is the same in both worlds
  have reported (exit : Phase) (r : Phase → Record) :
      rel ((w.modifyGen g (.leave exit)).log g (r ((w.modifyGen g (.leave exit)).phaseOf g)))
        ((w'.modifyGen g (.leave exit)).log g (r ((w'.modifyGen g (.leave exit)).phaseOf g))) := by
    rw [here.phaseOf (left exit)]
    exact here.record _ (left exit)
  cases e with
  | yielded v => exact ⟨rfl, reported .suspended .stepDone⟩
  | returned v => exact ⟨rfl, reported .closed .stepDone⟩
  | raised x => exact ⟨rfl, reported .closed .stepRaised⟩
  | panicked p => exact ⟨rfl, left .closed⟩

end LocalAt

section Landing

variable {own : σ.Body → Prop} {rel : World σ → World σ → Prop} {w w' : World σ} {call : Call σ}
  {e : σ.StepEnd} (there : LocalAt call.gen own rel) (owned : own e.2) (h : rel w w')
include there owned h

namespace LocalAt

theorem land : Abreast rel (World.land call e w) (World.land call e w') :=
  there.settle e.1 (there.record _ (there.takeBack owned h))

theorem landResumed : Abreast rel (World.landResumed call e w) (World.landResumed call e w') := by
  have landed := there.land owned h
  unfold World.landResumed
  rcases hl : World.land call e w with ⟨o, v⟩
  rcases hl' : World.land call e w' with ⟨o', v'⟩
  rw [hl, hl'] at landed
  obtain rfl : o' = o := landed.1
  exact ⟨rfl, landed.2⟩

theorem landClosed : Abreast rel (World.landClosed call e w) (World.landClosed call e w') := by
  have landed := there.land owned h
  unfold World.landClosed
  rcases hl : World.land call e w with ⟨o, v⟩
  rcases hl' : World.land call e w' with ⟨o', v'⟩
  rw [hl, hl'] at landed
  obtain rfl : o' = o := landed.1
  have after : rel v v' := landed.2
  cases o' with
  | returned r =>
    dsimp only
    rw [there.phaseOf after]
    split
    · exact ⟨rfl, after⟩
    · have forced := there.record (.logged call.gen .forceClose) after
      exact ⟨rfl, there.modifyGen (f := .shut) (fun _ _ => rfl) forced⟩
  | panicked p => exact ⟨rfl, after⟩
  | refused r => exact ⟨rfl, after⟩

end LocalAt

end Landing

/-! ## Whole requests -/

section Requests

variable {own own' : σ.Body → Prop} {rel : World σ → World σ → Prop} {w w' : World σ}
  {r : Request σ}

/-- **The gates make the same of a request wherever its generator looks the same.** -/
theorem LocalAt.gate (here : LocalAt r.target own rel) (h : rel w w') :
    (w.gate r).Abreast rel (w'.gate r) := by
  cases r with
  | next g v => exact here.gateNext v h
  | throw g e => exact here.gateThrow e h
  | close g => exact here.gateClose h
  | advance c => exact here.gateAdvance rfl h
  | discard c => exact here.gateDiscard rfl h

/-- **So does the end of a step of the request.** -/
theorem LocalAt.conclude (here : LocalAt r.target own rel) {call : Call σ}
    (there : LocalAt call.gen own' rel) {e : σ.StepEnd} (owned : own' e.2) (h : rel w w') :
    Abreast rel (w.conclude r call e) (w'.conclude r call e) := by
  cases r with
  | next g v => exact there.landResumed owned h
  | throw g x => exact there.landResumed owned h
  | close g => exact there.landClosed owned h
  | advance c =>
    have landed := there.landResumed owned h
    simp only [World.conclude]
    rcases hl : World.landResumed call e w with ⟨o, v⟩
    rcases hl' : World.landResumed call e w' with ⟨o', v'⟩
    rw [hl, hl'] at landed
    obtain rfl : o' = o := landed.1
    exact here.tell rfl o' landed.2
  | discard c =>
    have landed := there.landClosed owned h
    simp only [World.conclude]
    rcases hl : World.landClosed call e w with ⟨o, v⟩
    rcases hl' : World.landClosed call e w' with ⟨o', v'⟩
    rw [hl, hl'] at landed
    obtain rfl : o' = o := landed.1
    exact here.dispose rfl o' landed.2

end Requests

end World

end Resumable
