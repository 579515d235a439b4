import Resumable.Proofs.Locality

/-!
# The past of a world

A world only adds to its history and never asks it anything.  So what it does with a request or a
command is the same whatever had happened before: worlds that differ in their pasts alone
(`World.UpTo`) are changed in the same way, as the past is no matter of any slot.  Bodies do not ask
either, so whole runs come to the same in them (`Program.run_upTo`).  In particular a run commutes
with setting another past under the history (`World.onto`, `Program.run_onto`).
-/

namespace Resumable

variable {σ : Signature} {ρ α : Type}

/-! ## Worlds that differ in their pasts -/

/-- Two worlds are the same now, and their pasts are related. -/
structure World.UpTo (H : List (Event σ) → List (Event σ) → Prop) (w w' : World σ) : Prop where
  slots : w'.slots = w.slots
  shared : w'.shared = w.shared
  past : H w.history w'.history

namespace World.UpTo

variable {H : List (Event σ) → List (Event σ) → Prop} {w w' : World σ} (upTo : w.UpTo H w')
  (cons : ∀ (e : Event σ) {es es'}, H es es' → H (e :: es) (e :: es'))
include upTo cons

theorem record (e : Event σ) : (w.record e).UpTo H (w'.record e) :=
  ⟨upTo.slots, upTo.shared, cons e upTo.past⟩

omit upTo in
/-- The past is no matter of any slot. -/
theorem localAt (g : GenId) : World.LocalAt g (fun _ => True) (World.UpTo H) where
  slot upTo := congrArg (fun r => r.get? g) upTo.slots
  modify f _ upTo := ⟨congrArg (fun r => r.modify g f) upTo.slots, upTo.shared, upTo.past⟩
  takeBack {_ _ body} _ upTo :=
    ⟨congrArg (fun r => r.modify g fun s => { s with gen := s.gen.takeBack body }) upTo.slots,
      upTo.shared, upTo.past⟩
  record e upTo := upTo.record cons e

theorem gate (r : Request σ) : (w.gate r).Abreast (World.UpTo H) (w'.gate r) :=
  (localAt cons r.target).gate upTo

theorem conclude (r : Request σ) (call : Call σ) (e : σ.StepEnd) :
    Abreast (World.UpTo H) (w.conclude r call e) (w'.conclude r call e) :=
  (localAt cons r.target).conclude (localAt cons call.gen) trivial upTo

theorem serve {c : Command σ} (plain : ∀ r, c ≠ .request r) (step step' : Stepper σ) :
    Abreast (World.UpTo H) (w.serve step c) (w'.serve step' c) := by
  cases c with
  | request r => exact absurd rfl (plain r)
  | iterate g => exact (localAt cons g).iterate upTo
  | watch c => exact ⟨(localAt cons c.gen).cursor? rfl upTo, upTo⟩
  | spawn flavor kind body =>
    have slots := congrArg (fun r => r.insert ⟨.fresh flavor kind body, .empty⟩) upTo.slots
    exact ⟨congrArg Registry.nextKey upTo.slots, slots, upTo.shared, upTo.past⟩
  | look g => exact ⟨congrArg (Option.map _) ((localAt cons g).gen? upTo), upTo⟩
  | hold g => exact (localAt cons g).hold upTo
  | release g => exact (localAt cons g).release upTo
  | consume g =>
    simp only [World.serve, World.consume]
    rw [upTo.slots]
    cases w.slots.get? g with
    | none => exact ⟨rfl, upTo⟩
    | some s =>
      dsimp only
      split
      · exact ⟨rfl, rfl, upTo.shared, upTo.past⟩
      · exact ⟨rfl, upTo⟩
  | announce g mode flavor => exact ⟨rfl, upTo.record cons _⟩
  | read => exact ⟨upTo.shared, upTo⟩
  | write s => exact ⟨rfl, upTo.slots, rfl, upTo.past⟩
  | note n => exact ⟨rfl, upTo.record cons _⟩

end World.UpTo

/-- Stepping a body comes to the same in worlds that differ in their pasts. -/
def Stepper.UpTo (H : List (Event σ) → List (Event σ) → Prop) (step step' : Stepper σ) : Prop :=
  ∀ g body input mode w w', w.UpTo H w' →
    Abreast (World.UpTo H) (step g body input mode w) (step' g body input mode w')

section Stepping

variable {H : List (Event σ) → List (Event σ) → Prop} {step step' : Stepper σ}
  (steps : step.UpTo H step') (cons : ∀ (e : Event σ) {es es'}, H es es' → H (e :: es) (e :: es'))
include steps cons

namespace World.UpTo

variable {w w' : World σ}

theorem perform (upTo : w.UpTo H w') (r : Request σ) :
    Abreast (World.UpTo H) (w.perform step r) (w'.perform step' r) := by
  have gated := upTo.gate cons r
  rw [World.perform_eq_through, World.perform_eq_through]
  generalize w.gate r = x at gated
  generalize w'.gate r = x' at gated
  cases gated with
  | answered a after => exact ⟨rfl, after⟩
  | stepping call after =>
    have stepped := steps call.gen call.body call.input call.mode _ _ after
    simp only [Passage.through, stepped.1]
    exact stepped.2.conclude cons r call _

theorem command (upTo : w.UpTo H w') (c : Command σ) :
    Abreast (World.UpTo H) (w.serve step c) (w'.serve step' c) := by
  cases c with
  | request r =>
    have performed := upTo.perform steps cons r
    simp only [World.serve, performed.1]
    exact ⟨rfl, performed.2.record cons _⟩
  | _ => exact upTo.serve cons (by simp) step step'

end World.UpTo

/-- **A program does the same whatever happened before.** -/
theorem Program.run_upTo (p : Program σ α) {w w' : World σ} (upTo : w.UpTo H w') :
    Abreast (World.UpTo H) (p.run step w) (p.run step' w') := by
  induction p generalizing w w' with
  | done a => exact ⟨rfl, upTo⟩
  | issue c k ih =>
    have served := upTo.command steps cons c
    simp only [Program.run, served.1]
    exact ih _ served.2

end Stepping

/-- Nor do the bodies of an engine ask. -/
theorem Engine.upTo {H : List (Event σ) → List (Event σ) → Prop}
    (cons : ∀ (e : Event σ) {es es'}, H es es' → H (e :: es) (e :: es')) (engine : Engine σ)
    (d : Nat) : (engine.stepper d).UpTo H (engine.stepper d) := by
  induction d with
  | zero => exact fun _ _ _ _ _ _ upTo => ⟨rfl, upTo⟩
  | succ d ih => exact fun _ _ _ _ _ _ upTo => Program.run_upTo ih cons _ upTo

/-! ## Setting another past under the history -/

/-- The world with more that happened before. -/
def World.onto (past : List (Event σ)) (w : World σ) : World σ :=
  { w with history := w.history ++ past }

/-- An answer with more that happened before. -/
def landedOnto (past : List (Event σ)) (x : ρ × World σ) : ρ × World σ :=
  (x.1, x.2.onto past)

/-- A history with more that happened before. -/
def Event.Onto (past es es' : List (Event σ)) : Prop :=
  es' = es ++ past

section Onto

variable (past : List (Event σ)) (w : World σ)

theorem Event.Onto.cons (e : Event σ) {es es' : List (Event σ)} (h : Onto past es es') :
    Onto past (e :: es) (e :: es') :=
  congrArg (e :: ·) h

theorem World.upTo_onto : w.UpTo (Event.Onto past) (w.onto past) :=
  ⟨rfl, rfl, rfl⟩

variable {past}

theorem World.UpTo.eq_onto {w w' : World σ} (upTo : w.UpTo (Event.Onto past) w') :
    w' = w.onto past := by
  obtain ⟨slots, shared, history⟩ := w'
  obtain ⟨rfl, rfl, rfl⟩ := upTo
  rfl

theorem Abreast.eq_landedOnto {x x' : ρ × World σ}
    (abreast : Abreast (World.UpTo (Event.Onto past)) x x') : x' = landedOnto past x :=
  Prod.ext abreast.1 abreast.2.eq_onto

end Onto

/-! ## Whole runs -/

/-- Stepping a body never asks what happened before. -/
def Stepper.Forgetful (step : Stepper σ) : Prop :=
  ∀ g body input mode past w,
    step g body input mode (w.onto past) = landedOnto past (step g body input mode w)

theorem Stepper.Forgetful.upTo {step : Stepper σ} (forgetful : step.Forgetful)
    (past : List (Event σ)) : step.UpTo (Event.Onto past) step := by
  intro g body input mode w w' upTo
  rw [upTo.eq_onto, forgetful]
  exact ⟨rfl, World.upTo_onto past _⟩

theorem Program.run_onto {step : Stepper σ} (forgetful : step.Forgetful) (past : List (Event σ))
    (p : Program σ α) (w : World σ) :
    p.run step (w.onto past) = landedOnto past (p.run step w) :=
  (p.run_upTo (forgetful.upTo past) (Event.Onto.cons past) (w.upTo_onto past)).eq_landedOnto

theorem Engine.forgetful (engine : Engine σ) (d : Nat) : (engine.stepper d).Forgetful := by
  induction d with
  | zero => exact fun _ _ _ _ _ _ => rfl
  | succ d ih => exact fun _ _ _ _ past w => Program.run_onto ih past _ w

end Resumable
