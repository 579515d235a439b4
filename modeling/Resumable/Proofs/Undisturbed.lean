import Resumable.Proofs.Answers

/-!
# What a program leaves alone

A program that runs inside a step, at any depth, leaves the generators of the steps in progress as
they are, and adds nothing to their courses (`World.Undisturbed`): their bodies are out, so they
turn away whatever is asked of them.  For a step this means that it comes back to the generator that
it left, and `Coherent.stepped` says at once what became of a generator that was stepped.
-/

namespace Resumable

variable {σ : Signature} {α : Type}

/-- The steps in progress fit the second world too, and nothing has happened to their generators. -/
structure World.Undisturbed (ps : List (Pending σ)) (w w' : World σ) : Prop where
  coherent : Coherent ps w'
  gen? : ∀ g ∈ ps.map (·.call.gen), w'.gen? g = w.gen? g
  course : ∀ g ∈ ps.map (·.call.gen), w'.course g = w.course g

section Undisturbed

variable {ps : List (Pending σ)} {pd : Pending σ} {w v w' : World σ}

theorem World.Undisturbed.refl (coherent : Coherent ps w) : w.Undisturbed ps w :=
  ⟨coherent, fun _ _ => rfl, fun _ _ => rfl⟩

theorem World.Undisturbed.trans (first : w.Undisturbed ps v)
    (second : v.Undisturbed ps w') : w.Undisturbed ps w' :=
  ⟨second.coherent, fun g hg => (second.gen? g hg).trans (first.gen? g hg),
    fun g hg => (second.course g hg).trans (first.course g hg)⟩

/-- Without a step, nothing happens to a generator that is being stepped. -/
theorem Coherent.undisturbed_of_quiet (coherent : Coherent ps w) (quiet : w.Quiet w') :
    w.Undisturbed ps w' := by
  have same (g : GenId) (hg : g ∈ ps.map (·.call.gen)) :
      w'.gen? g = w.gen? g ∧ w'.course g = w.course g := by
    obtain ⟨pd, hpd, rfl⟩ := List.mem_map.mp hg
    obtain ⟨gen, found, running, -⟩ := (coherent.attends pd hpd).running
    obtain ⟨found', course⟩ := coherent.eq_of_idle found running (quiet.idle pd.call.gen)
    exact ⟨found'.trans found.symm, course⟩
  exact ⟨coherent.quiet quiet, fun g hg => (same g hg).1, fun g hg => (same g hg).2⟩

/-- A step inside others that comes back undisturbed disturbs none of the others. -/
theorem World.Undisturbed.leave {r : Request σ} {call : Call σ} {w₁ w₂ : World σ}
    (within : w₁.Undisturbed (⟨r, call⟩ :: ps) w₂) (gate : w.gate r = .stepping call w₁)
    (e : σ.StepEnd) :
    w.Undisturbed ps (Pending.conclude ⟨r, call⟩ e w₂).2 := by
  obtain ⟨gen, departs⟩ := World.departs_of_gate gate
  obtain ⟨gen', -, -, lands⟩ := within.coherent.lands e
  have distinct : call.gen ∉ ps.map (·.call.gen) :=
    (List.nodup_cons.mp within.coherent.nodup).1
  have other (g : GenId) (hg : g ∈ ps.map (·.call.gen)) : call.gen ≠ g :=
    fun same => distinct (same ▸ hg)
  refine ⟨within.coherent.leave e, ?_, ?_⟩
  · intro g hg
    rw [(lands.of_ne (other g hg)).1, within.gen? g (List.mem_cons_of_mem _ hg),
      (departs.of_ne (other g hg)).1]
  · intro g hg
    rw [(lands.of_ne (other g hg)).2, within.course g (List.mem_cons_of_mem _ hg),
      (departs.of_ne (other g hg)).2]

end Undisturbed

/-! ## Steps, commands and programs -/

/-- Stepping a body disturbs none of the steps in progress, the one that it is itself included. -/
def Stepper.Discreet (step : Stepper σ) : Prop :=
  ∀ pd ps w, Coherent (pd :: ps) w → w.Undisturbed (pd :: ps)
    (step pd.call.gen pd.call.body pd.call.input pd.call.mode w).2

section Discreet

variable {step : Stepper σ} {ps : List (Pending σ)} {w : World σ}

theorem Coherent.serve (coherent : Coherent ps w) (discreet : step.Discreet) (c : Command σ) :
    w.Undisturbed ps (w.serve step c).2 := by
  have plain (hc : ∀ r, c ≠ .request r) (same : w.serve step c = w.serve Stepper.never c) :
      w.Undisturbed ps (w.serve step c).2 := by
    rw [same]
    exact coherent.undisturbed_of_quiet (World.quiet_of_serve w hc)
  cases c with
  | request r =>
    cases gate : w.gate r with
    | answered a v =>
      rw [World.serve_of_gate_answered gate]
      exact coherent.undisturbed_of_quiet ((World.quiet_of_gate gate).record_answered r a)
    | stepping call v =>
      rw [(World.enters_of_gate gate).serve]
      have entered : Coherent (⟨r, call⟩ :: ps) v := coherent.move (.enter gate)
      exact (discreet _ _ _ entered).leave gate _
  | _ => exact plain (by simp) rfl

theorem Coherent.run (coherent : Coherent ps w) (discreet : step.Discreet) (p : Program σ α) :
    w.Undisturbed ps (p.run step w).2 := by
  induction p generalizing w with
  | done a => exact .refl coherent
  | issue c k ih =>
    have served := coherent.serve discreet c
    exact served.trans (ih _ served.coherent)

/-- **Whatever bodies do, they disturb none of the steps in progress.** -/
theorem Engine.discreet (engine : Engine σ) (d : Nat) : (engine.stepper d).Discreet := by
  induction d with
  | zero => exact fun _ _ _ coherent => .refl coherent
  | succ d ih => exact fun pd _ _ coherent => coherent.run ih _

end Discreet

/-- **What becomes of a generator that is stepped.**  It answers as its step ended, whatever went on
in the meantime, and its course says no more than that. -/
theorem Coherent.stepped {ps : List (Pending σ)} {w v : World σ} {r : Request σ} {call : Call σ}
    (coherent : Coherent ps w) (gate : w.gate r = .stepping call v) (engine : Engine σ) (d : Nat) :
    ∃ gen, World.Departs r call gen w v ∧
      let e := (engine.stepper d call.gen call.body call.input call.mode v).1
      let x := w.serve (engine.stepper d) (.request r)
      x.1 = r.reply call.flavor e.1 ∧
      x.2.gen? call.gen =
        some { gen with
          newborn := false, phase := e.1.exit call.mode, body := e.2, loan := .shared 0 } ∧
      x.2.course call.gen =
        (e.1.reports call.mode).map (.logged call.gen) ++ .ended call.gen e.1 ::
          .began call.gen call.input call.mode :: .logged call.gen (.resume gen.flavor call.mode) ::
            w.course call.gen := by
  obtain ⟨gen, departs⟩ := World.departs_of_gate gate
  have entered : Coherent (⟨r, call⟩ :: ps) v := coherent.move (.enter gate)
  have within := engine.discreet d _ _ _ entered
  rw [(World.enters_of_gate gate).serve]
  dsimp only at within ⊢
  generalize engine.stepper d call.gen call.body call.input call.mode v = y at within ⊢
  obtain ⟨gen', found, -, lands⟩ := within.coherent.lands y.1
  rw [within.gen? _ List.mem_cons_self, departs.self] at found
  cases found
  refine ⟨gen, departs, World.reply_conclude _ _ _, lands.self, ?_⟩
  rw [lands.course, if_pos rfl, within.course _ List.mem_cons_self, departs.course, if_pos rfl]

end Resumable
