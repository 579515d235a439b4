import Resumable.Proofs.Nesting

/-!
# The lifetime of a generator

What moves do to one generator, whatever happens to the others: besides what moves that step no body
may do, it enters a step or leaves one (`World.Change`).  So what is true of a generator for the
rest of a run is shown by a case for each of these: its course only grows, it keeps its flavor
(`World.Known`), and once it is closed it stays as it is (`World.Retired`).
-/

namespace Resumable

variable {σ : Signature}

namespace World

/-- What a generator and its course may be after a move. -/
inductive Change (w : World σ) (g : GenId) : Option (Gen σ) → List (Event σ) → Prop
  | idle {o : Option (Gen σ)} {es : List (Event σ)} (idle : Idle w g o es) : Change w g o es
  | entered {gen : Gen σ} (found : w.gen? g = some gen) {mode : Mode} (ready : Ready gen mode)
      (input : Input σ.Value σ.Thrown) :
      Change w g (some gen.start.enter.lend)
        (.began g input mode :: .logged g (.resume gen.flavor mode) :: w.course g)
  | landed {gen : Gen σ} (found : w.gen? g = some gen) (running : gen.phase = .running)
      (e : σ.StepEnd) (mode : Mode) :
      Change w g (some (gen.landed e.2 (e.1.exit mode)))
        ((e.1.reports mode).map (.logged g) ++ .ended g e.1 :: w.course g)

end World

/-- Every move changes every generator in one of these ways. -/
theorem Coherent.change {ps ps' : List (Pending σ)} {w w' : World σ} (coherent : Coherent ps w)
    (move : Move ps w ps' w') (g : GenId) : w.Change g (w'.gen? g) (w'.course g) := by
  cases move with
  | serve c hc => exact .idle ((World.quiet_of_serve w hc).idle g)
  | answer h => exact .idle (((World.quiet_of_gate h).record_answered _ _).idle g)
  | enter h =>
    obtain ⟨gen, departs⟩ := World.departs_of_gate h
    rw [departs.gen?, departs.course]
    split
    · next he =>
      subst he
      exact .entered departs.found departs.ready _
    · exact .idle .same
  | leave pd e =>
    obtain ⟨gen, found, running, lands⟩ := coherent.lands e
    rw [lands.gen?, lands.course]
    split
    · next he =>
      subst he
      exact .landed found running e _
    · exact .idle .same

theorem Move.nextKey_le {ps ps' : List (Pending σ)} {w w' : World σ} (coherent : Coherent ps w)
    (move : Move ps w ps' w') : w.slots.nextKey ≤ w'.slots.nextKey := by
  cases move with
  | serve c hc => exact (World.quiet_of_serve w hc).nextKey_le
  | answer h => exact (World.quiet_of_gate h).nextKey_le
  | enter h =>
    obtain ⟨gen, departs⟩ := World.departs_of_gate h
    exact Nat.le_of_eq departs.nextKey.symm
  | leave pd e =>
    obtain ⟨gen, -, -, lands⟩ := coherent.lands e
    exact Nat.le_of_eq lands.nextKey.symm

/-- **What every move keeps from a coherent moment on holds at every later moment.** -/
theorem Leads.keeps {α : Type} {engine : Engine σ} {limit : Nat} {m m' : Moment σ α}
    {P : World σ → Prop}
    (keep : ∀ {ps w ps' w'}, Coherent ps w → Move ps w ps' w' → P w → P w')
    (h : Leads engine limit m m') (coherent : Coherent m.pending m.world) (hm : P m.world) :
    P m'.world :=
  (h.invariant (P := fun ps w => Coherent ps w ∧ P w)
    (fun move hp => ⟨hp.1.move move, keep hp.1 move hp.2⟩) ⟨coherent, hm⟩).2

/-! ## The course grows -/

theorem World.Change.course_suffix {w : World σ} {g : GenId} {o : Option (Gen σ)}
    {es : List (Event σ)} (change : w.Change g o es) : w.course g <:+ es := by
  cases change with
  | idle idle =>
    cases idle with
    | same | spawned | consumed | read => exact List.suffix_refl _
    | stalled => exact ⟨[_, _], rfl⟩
    | shut => exact ⟨[_], rfl⟩
  | entered => exact ⟨[_, _], rfl⟩
  | landed found running e mode => exact ⟨_ ++ [_], List.append_assoc _ _ _⟩

theorem course_suffix_of_leads {α : Type} {engine : Engine σ} {limit : Nat} {m m' : Moment σ α}
    (coherent : Coherent m.pending m.world) (later : Leads engine limit m m') (g : GenId) :
    m.world.course g <:+ m'.world.course g :=
  later.keeps (P := fun w => m.world.course g <:+ w.course g)
    (fun coherent move grown => grown.trans (coherent.change move g).course_suffix)
    coherent (List.suffix_refl _)

/-! ## Every course is lawful -/

theorem Coherent.lawful {ps ps' : List (Pending σ)} {w w' : World σ} {g : GenId}
    (coherent : Coherent ps w) (move : Move ps w ps' w')
    (lawful : ∃ f ph n, Course g f ph n (w.course g)) :
    ∃ f ph n, Course g f ph n (w'.course g) := by
  cases found : w'.gen? g with
  | some gen => exact ⟨_, _, _, ((coherent.move move).settled g gen found).course⟩
  | none =>
    -- what has just gone was consumed, with its course as it was
    have change := coherent.change move g
    generalize w'.gen? g = o at change found
    generalize w'.course g = es at change ⊢
    cases change with
    | idle idle =>
      cases idle with
      | same | spawned | consumed | read => exact lawful
      | stalled | shut => cases found
    | entered | landed => cases found

/-- Every generator has had a lawful course, also one that is no more. -/
theorem lawful_of_leads {α : Type} {engine : Engine σ} {limit : Nat} {p : Program σ α}
    {s : σ.Shared} {m : Moment σ α} (h : Leads engine limit (.atTop p (.initial s)) m)
    (g : GenId) : ∃ f ph n, Course g f ph n (m.world.course g) :=
  h.keeps (fun coherent move => coherent.lawful move) (Coherent.start s)
    ⟨.modern, .suspended, false, .fresh⟩

namespace World

variable {ps ps' : List (Pending σ)} {w w' : World σ} {g : GenId} {f : Flavor} {gen : Gen σ}
  {es : List (Event σ)}

/-! ## The flavor stays -/

/-- A generator of a flavor is there, or it was consumed after a lawful course. -/
def Known (g : GenId) (f : Flavor) (w : World σ) : Prop :=
  g < w.slots.nextKey ∧
    match w.gen? g with
    | some gen => gen.flavor = f
    | none => ∃ ph n, Course g f ph n (w.course g)

theorem known_of_gen? (found : w.gen? g = some gen) : w.Known g gen.flavor := by
  refine ⟨lt_nextKey_of_gen? found, ?_⟩
  rw [found]

theorem Known.course (known : w.Known g f) (coherent : Coherent ps w) :
    ∃ ph n, Course g f ph n (w.course g) := by
  obtain ⟨-, known⟩ := known
  cases found : w.gen? g with
  | none => simpa only [found] using known
  | some gen =>
    rw [found] at known
    exact ⟨_, _, known ▸ (coherent.settled g gen found).course⟩

theorem Known.move (coherent : Coherent ps w) (move : Move ps w ps' w') (known : w.Known g f) :
    w'.Known g f := by
  have course := known.course coherent
  obtain ⟨lt, known⟩ := known
  refine ⟨Nat.lt_of_lt_of_le lt (move.nextKey_le coherent), ?_⟩
  have change := coherent.change move g
  generalize w'.gen? g = o at change
  generalize w'.course g = es at change
  cases change with
  | idle idle =>
    cases idle with
    | same => exact known
    | spawned hg => exact absurd hg (Nat.ne_of_lt lt)
    | consumed => exact course
    | read hg => rw [hg] at known; exact known
    | stalled hg => rw [hg] at known; exact known
    | shut hg => rw [hg] at known; exact known
  | entered hg => rw [hg] at known; exact known
  | landed hg => rw [hg] at known; exact known

theorem known_of_leads {α : Type} {engine : Engine σ} {limit : Nat} {m m' : Moment σ α}
    (coherent : Coherent m.pending m.world) (found : m.world.gen? g = some gen)
    (later : Leads engine limit m m') : m'.world.Known g gen.flavor :=
  later.keeps Known.move coherent (known_of_gen? found)

/-! ## Closed for good -/

/-- A generator was closed after a course; if it was not consumed it is as it was, up to readers. -/
structure Retired (g : GenId) (gen : Gen σ) (es : List (Event σ)) (w : World σ) : Prop where
  closed : gen.phase = .closed
  lt_nextKey : g < w.slots.nextKey
  course : w.course g = es
  gen? : ∀ gen', w.gen? g = some gen' → ∃ n, gen' = { gen with loan := .shared n }

theorem retired_of_closed (coherent : Coherent ps w) (found : w.gen? g = some gen)
    (closed : gen.phase = .closed) : w.Retired g gen (w.course g) := by
  refine ⟨closed, lt_nextKey_of_gen? found, rfl, ?_⟩
  intro gen' found'
  cases found.symm.trans found'
  cases hl : gen.loan with
  | shared n => exact ⟨n, by rw [← hl]⟩
  | exclusive =>
    have running := (coherent.settled g gen found).loan.mp hl
    rw [closed] at running
    cases running

theorem Retired.move (coherent : Coherent ps w) (move : Move ps w ps' w')
    (retired : w.Retired g gen es) : w'.Retired g gen es := by
  obtain ⟨closed, lt, course, same⟩ := retired
  have stays {gen' : Gen σ} (found : w.gen? g = some gen') : gen'.phase = .closed := by
    obtain ⟨n, rfl⟩ := same gen' found
    exact closed
  have change := coherent.change move g
  have lt' := Nat.lt_of_lt_of_le lt (move.nextKey_le coherent)
  suffices w'.course g = es ∧
      ∀ gen', w'.gen? g = some gen' → ∃ n, gen' = { gen with loan := .shared n } from
    ⟨closed, lt', this.1, this.2⟩
  generalize w'.gen? g = o at change ⊢
  generalize w'.course g = es' at change ⊢
  cases change with
  | idle idle =>
    cases idle with
    | same => exact ⟨course, same⟩
    | spawned hg => exact absurd hg (Nat.ne_of_lt lt)
    | consumed => exact ⟨course, nofun⟩
    | read found hl n =>
      obtain ⟨m, rfl⟩ := same _ found
      exact ⟨course, fun gen' h => ⟨n, by cases h; rfl⟩⟩
    | stalled found ready => exact absurd (ready.1.symm.trans (stays found)) nofun
    | shut found _ open_ => exact absurd (stays found) open_
  | entered found ready => exact absurd (ready.1.symm.trans (stays found)) nofun
  | landed found running => exact absurd (running.symm.trans (stays found)) nofun

end World

end Resumable
