import Mathlib.Data.List.Nodup
import Resumable.Proofs.Crossing

/-!
# How steps nest

`Coherent` says how the steps in progress and the generators of a world fit together: the steps
belong to pairwise distinct generators, and these are the running ones, with their bodies out; every
generator has had a lawful course; and an iterator in use is one that a step in progress was asked
for through.  Every move keeps it, so it holds at every moment of every run
(`coherent_of_leads`), whatever the bodies do.  `running_iff_stepped`: a generator is running
exactly while one step of it is in progress.
-/

namespace Resumable

variable {σ : Signature}

/-- A step in progress fits the world. -/
structure Pending.Attends (pd : Pending σ) (w : World σ) : Prop where
  target : pd.request.target = pd.call.gen
  mode : pd.request.mode = pd.call.mode
  running : ∃ gen, w.gen? pd.call.gen = some gen ∧ gen.phase = .running ∧
    gen.flavor = pd.call.flavor
  /-- The last that happened to the generator is that this step began. -/
  begun : ∃ es, w.course pd.call.gen = .began pd.call.gen pd.call.input pd.call.mode :: es

/-- Only its own generator matters to a step in progress. -/
theorem Pending.Attends.congr {pd : Pending σ} {w w' : World σ} (attends : pd.Attends w)
    (gen? : w'.gen? pd.call.gen = w.gen? pd.call.gen)
    (course : w'.course pd.call.gen = w.course pd.call.gen) : pd.Attends w' :=
  ⟨attends.target, attends.mode, gen? ▸ attends.running, course ▸ attends.begun⟩

/-- A generator fits the generators that are being stepped and its course. -/
structure Gen.Settled (gen : Gen σ) (active : List GenId) (g : GenId) (es : List (Event σ)) :
    Prop where
  active : gen.phase = .running → g ∈ active
  loan : gen.loan = .exclusive ↔ gen.phase = .running
  course : Course g gen.flavor gen.phase gen.newborn es

/-- The steps in progress, innermost first, fit the world. -/
structure Coherent (ps : List (Pending σ)) (w : World σ) : Prop where
  nodup : (ps.map (·.call.gen)).Nodup
  attends : ∀ pd ∈ ps, pd.Attends w
  settled : ∀ g gen, w.gen? g = some gen → gen.Settled (ps.map (·.call.gen)) g (w.course g)
  busy : ∀ c, w.Busy c ↔ ∃ pd ∈ ps, pd.request.cursor? = some c
  /-- Nothing has happened under a name that is not yet given. -/
  unused : ∀ g, w.slots.nextKey ≤ g → w.course g = []

namespace Coherent

variable {ps : List (Pending σ)} {pd : Pending σ} {w w' : World σ} {g : GenId} {gen : Gen σ}
  {o : Option (Gen σ)} {es : List (Event σ)}

/-- Steps below the innermost one belong to other generators. -/
theorem distinct (coherent : Coherent (pd :: ps) w) {pd' : Pending σ} (hpd : pd' ∈ ps) :
    pd.call.gen ≠ pd'.call.gen := by
  intro same
  apply (List.nodup_cons.mp coherent.nodup).1
  exact List.mem_map.mpr ⟨pd', hpd, same.symm⟩

theorem start (s : σ.Shared) : Coherent [] (World.initial s) where
  nodup := List.nodup_nil
  attends := nofun
  settled := nofun
  busy _ := iff_of_false (fun ⟨_, found, _⟩ => (nomatch found)) nofun
  unused _ _ := rfl

/-! ## Moves that step no body -/

/-- A generator that is being stepped is out of reach. -/
theorem eq_of_idle (coherent : Coherent ps w) (found : w.gen? g = some gen)
    (running : gen.phase = .running) (idle : w.Idle g o es) : o = some gen ∧ es = w.course g := by
  have settled := coherent.settled g gen found
  cases idle with
  | same => exact ⟨found, rfl⟩
  | spawned hg => exact absurd hg (Nat.ne_of_lt (World.lt_nextKey_of_gen? found))
  | consumed hg hp =>
    cases found.symm.trans hg
    exact absurd running hp
  | read hg hl =>
    cases found.symm.trans hg
    rw [settled.loan.mpr running] at hl
    cases hl
  | stalled hg hr =>
    cases found.symm.trans hg
    rw [hr.1] at running
    cases running
  | shut hg _ _ hn =>
    cases found.symm.trans hg
    have course := settled.course
    rw [hn, running] at course
    cases course.of_newborn.2.1

theorem settled_of_idle (coherent : Coherent ps w) (idle : w.Idle g (some gen) es) :
    gen.Settled (ps.map (·.call.gen)) g es := by
  generalize ho : some gen = o at idle
  cases idle with
  | same => exact coherent.settled g gen ho.symm
  | spawned hg f k b =>
    cases ho
    rw [coherent.unused g (Nat.le_of_eq hg.symm)]
    exact ⟨nofun, ⟨nofun, nofun⟩, .fresh⟩
  | consumed => cases ho
  | @read gen₀ hg m hl n =>
    cases ho
    obtain ⟨active, loan, course⟩ := coherent.settled g gen₀ hg
    refine ⟨active, ⟨nofun, ?_⟩, course⟩
    intro running
    have exclusive := loan.mpr running
    rw [hl] at exclusive
    cases exclusive
  | @stalled gen₀ hg mode hr hl =>
    cases ho
    obtain ⟨-, loan, course⟩ := coherent.settled g gen₀ hg
    rw [hr.1] at loan course
    exact ⟨nofun, ⟨fun h => (nomatch loan.mp h), nofun⟩, course.stall mode⟩
  | @shut gen₀ hg hf hp hn =>
    cases ho
    obtain ⟨-, loan, course⟩ := coherent.settled g gen₀ hg
    rw [hn] at course
    obtain ⟨-, suspended, -⟩ := course.of_newborn
    rw [suspended] at loan course
    exact ⟨nofun, ⟨fun h => (nomatch loan.mp h), nofun⟩, course.shut⟩

theorem quiet (quiet : w.Quiet w') (coherent : Coherent ps w) : Coherent ps w' where
  nodup := coherent.nodup
  attends pd hpd := by
    obtain ⟨gen, found, running, -⟩ := (coherent.attends pd hpd).running
    obtain ⟨found', course⟩ := coherent.eq_of_idle found running (quiet.idle pd.call.gen)
    exact (coherent.attends pd hpd).congr (found'.trans found.symm) course
  settled g gen found := coherent.settled_of_idle (found ▸ quiet.idle g)
  busy c := (quiet.busy c).trans (coherent.busy c)
  unused g hg := by
    -- what adds to a course takes a generator, and there is none
    have hle : w.slots.nextKey ≤ g := Nat.le_trans quiet.nextKey_le hg
    have absent (gen : Gen σ) (found : w.gen? g = some gen) : False :=
      Nat.not_lt.mpr hle (World.lt_nextKey_of_gen? found)
    have idle := quiet.idle g
    generalize w'.gen? g = o at idle
    generalize w'.course g = es at idle
    cases idle with
    | same | spawned | consumed | read => exact coherent.unused g hle
    | stalled hg => exact (absent _ hg).elim
    | shut hg => exact (absent _ hg).elim

/-! ## Moves into a step and out of it -/

theorem enter {r : Request σ} {call : Call σ} (departs : w.Departs r call gen w')
    (coherent : Coherent ps w) : Coherent (⟨r, call⟩ :: ps) w' := by
  obtain ⟨-, -, course⟩ := coherent.settled call.gen gen departs.found
  obtain ⟨suspended, closable⟩ := departs.ready
  -- the steps in progress belong to running generators
  have fresh : call.gen ∉ ps.map (·.call.gen) := by
    intro mem
    obtain ⟨pd, hpd, same⟩ := List.mem_map.mp mem
    obtain ⟨gen', found, running, -⟩ := (coherent.attends pd hpd).running
    cases (same ▸ found).symm.trans departs.found
    cases running.symm.trans suspended
  have begun := departs.course call.gen
  rw [if_pos rfl] at begun
  refine ⟨List.nodup_cons.mpr ⟨fresh, coherent.nodup⟩, ?_, ?_, ?_, ?_⟩
  · intro pd hpd
    rcases List.mem_cons.mp hpd with rfl | hpd
    · exact ⟨departs.target, departs.mode, ⟨_, departs.self, rfl, departs.flavor.symm⟩, _, begun⟩
    · have hne : call.gen ≠ pd.call.gen := by
        intro same
        exact fresh (same ▸ List.mem_map_of_mem hpd)
      exact (coherent.attends pd hpd).congr (departs.of_ne hne).1 (departs.of_ne hne).2
  · intro g gen' found
    by_cases hne : call.gen = g
    · subst hne
      cases departs.self.symm.trans found
      rw [suspended] at course
      rw [begun]
      exact ⟨fun _ => List.mem_cons_self, ⟨fun _ => rfl, fun _ => rfl⟩,
        course.enter departs.suits closable⟩
    · obtain ⟨found', course'⟩ := departs.of_ne hne
      obtain ⟨active, loan, course⟩ := coherent.settled g gen' (found'.symm.trans found)
      exact ⟨fun h => List.mem_cons_of_mem _ (active h), loan, course' ▸ course⟩
  · intro c
    have cursor := departs.cursor? c
    by_cases hc : r.cursor? = some c
    · rw [if_pos hc] at cursor
      exact iff_of_true ⟨_, cursor, rfl⟩ ⟨_, List.mem_cons_self, hc⟩
    · rw [if_neg hc] at cursor
      rw [World.busy_congr cursor, coherent.busy]
      simp [hc]
  · intro g hg
    rw [departs.nextKey] at hg
    have hne : call.gen ≠ g :=
      Nat.ne_of_lt (Nat.lt_of_lt_of_le (World.lt_nextKey_of_gen? departs.found) hg)
    exact (departs.of_ne hne).2.trans (coherent.unused g hg)

/-- The end of the innermost step finds its generator running. -/
theorem lands (coherent : Coherent (pd :: ps) w) (e : σ.StepEnd) :
    ∃ gen, w.gen? pd.call.gen = some gen ∧ gen.phase = .running ∧
      World.Lands pd e gen w (pd.conclude e w).2 := by
  obtain ⟨target, mode, ⟨gen, found, running, -⟩, -⟩ := coherent.attends pd List.mem_cons_self
  exact ⟨gen, found, running, World.lands_conclude found running target mode e⟩

theorem leave (coherent : Coherent (pd :: ps) w) (e : σ.StepEnd) :
    Coherent ps (pd.conclude e w).2 := by
  obtain ⟨gen, found, running, lands⟩ := coherent.lands e
  obtain ⟨es, begun⟩ := (coherent.attends pd List.mem_cons_self).begun
  obtain ⟨-, -, course⟩ := coherent.settled pd.call.gen gen found
  rw [running] at course
  have exit := e.1.exit_ne_running pd.call.mode
  refine ⟨(List.nodup_cons.mp coherent.nodup).2, ?_, ?_, ?_, ?_⟩
  · intro pd' hpd
    have hne := coherent.distinct hpd
    exact (coherent.attends pd' (List.mem_cons_of_mem _ hpd)).congr (lands.of_ne hne).1
      (lands.of_ne hne).2
  · intro g gen' found
    by_cases hne : pd.call.gen = g
    · subst hne
      cases lands.self.symm.trans found
      rw [lands.course, if_pos rfl]
      refine ⟨fun h => absurd h exit, ⟨nofun, fun h => absurd h exit⟩, ?_⟩
      have started := course.started
      rw [begun, started] at course
      rw [begun]
      simpa only [Gen.landed, started] using course.leave e.1
    · obtain ⟨found', course'⟩ := lands.of_ne hne
      obtain ⟨active, loan, course⟩ := coherent.settled g gen' (found'.symm.trans found)
      refine ⟨?_, loan, course' ▸ course⟩
      intro running
      exact (List.mem_cons.mp (active running)).resolve_left (Ne.symm hne)
  · intro c
    by_cases hc : pd.request.cursor? = some c
    · apply iff_of_false (lands.idle c hc)
      -- another step asked for through the iterator would be of the same generator
      rintro ⟨pd', hpd, hc'⟩
      have target := (coherent.attends pd' (List.mem_cons_of_mem _ hpd)).target
      apply coherent.distinct hpd
      rw [← target, ← Request.gen_of_cursor? hc', Request.gen_of_cursor? hc]
      exact (coherent.attends pd List.mem_cons_self).target.symm
    · rw [World.busy_congr (lands.cursor? c hc), coherent.busy]
      simp [hc]
  · intro g hg
    rw [lands.nextKey] at hg
    have hne : pd.call.gen ≠ g :=
      Nat.ne_of_lt (Nat.lt_of_lt_of_le (World.lt_nextKey_of_gen? found) hg)
    exact (lands.of_ne hne).2.trans (coherent.unused g hg)

/-- Every move keeps the steps and the world fitting each other. -/
theorem move {ps' : List (Pending σ)} (move : Move ps w ps' w') (coherent : Coherent ps w) :
    Coherent ps' w' := by
  cases move with
  | serve c hc => exact coherent.quiet (World.quiet_of_serve w hc)
  | answer h => exact coherent.quiet ((World.quiet_of_gate h).record_answered _ _)
  | enter h =>
    obtain ⟨gen, departs⟩ := World.departs_of_gate h
    exact coherent.enter departs
  | leave pd e => exact coherent.leave e

end Coherent

/-- A step is entered by a suspended generator. -/
theorem Move.suspended_of_enter {ps ps' : List (Pending σ)} {w w' : World σ} {g : GenId}
    (move : Move ps w ps' w') (enters : ps'.map (·.call.gen) = g :: ps.map (·.call.gen)) :
    ∃ gen, w.gen? g = some gen ∧ gen.phase = .suspended := by
  have longer := congrArg List.length enters
  simp only [List.length_map, List.length_cons] at longer
  cases move with
  | serve => omega
  | answer => omega
  | leave =>
    rw [List.length_cons] at longer
    omega
  | enter h =>
    obtain ⟨gen, departs⟩ := World.departs_of_gate h
    obtain rfl : _ = g := (List.cons.inj enters).1
    exact ⟨gen, departs.found, departs.ready.1⟩

namespace Coherent

variable {ps : List (Pending σ)} {w : World σ}

/-- What can be seen from outside. -/
theorem look_eq_running_iff (coherent : Coherent ps w) (g : GenId) :
    (w.look g).map (·.phase) = some .running ↔ g ∈ ps.map (·.call.gen) := by
  have seen : (w.look g).map (·.phase) = (w.gen? g).map (·.phase) := by
    rw [World.look, Option.map_map]
    rfl
  rw [seen]
  constructor
  · intro running
    obtain ⟨gen, found, running⟩ := Option.map_eq_some_iff.mp running
    exact (coherent.settled g gen found).active running
  · intro mem
    obtain ⟨pd, hpd, rfl⟩ := List.mem_map.mp mem
    obtain ⟨gen, found, running, -⟩ := (coherent.attends pd hpd).running
    rw [found, Option.map_some, running]

end Coherent

section Runs

variable {α : Type} {engine : Engine σ} {limit : Nat} {p : Program σ α} {s : σ.Shared}
  {m : Moment σ α}

/-- **The steps in progress fit the world at every moment of every run.** -/
theorem coherent_of_leads (h : Leads engine limit (.atTop p (.initial s)) m) :
    Coherent m.pending m.world :=
  h.invariant Coherent.move (Coherent.start s)

/-- **A generator is running exactly while one step of it is in progress.**  At every moment of
every run the steps in progress belong to pairwise distinct generators, and a generator looks
running just if one of them is its own; so a step is entered only by a generator that is suspended
and not being stepped, a body that acts sees its own generator running, and the top level, also
after the last operation, sees none. -/
theorem running_iff_stepped (h : Leads engine limit (.atTop p (.initial s)) m) :
    m.active.Nodup ∧
    (∀ g, (m.world.look g).map (·.phase) = some .running ↔ m.active.count g = 1) ∧
    (∀ m' g, m.next? engine limit = some m' → m'.active = g :: m.active →
      g ∉ m.active ∧ (m.world.look g).map (·.phase) = some .suspended) ∧
    (∀ st q w, m = .inStep st q w →
      ∃ g, m.active.head? = some g ∧ (w.look g).map (·.phase) = some .running) ∧
    (∀ q w, m = .atTop q w → ∀ g, (w.look g).map (·.phase) ≠ some .running) ∧
    ∀ g, ((engine.run limit p (.initial s)).2.look g).map (·.phase) ≠ some .running := by
  have coherent := coherent_of_leads h
  have seen := coherent.look_eq_running_iff
  refine ⟨coherent.nodup, ?_, ?_, ?_, ?_, ?_⟩
  · intro g
    rw [seen]
    constructor
    · exact List.count_eq_one_of_mem coherent.nodup
    · intro once
      apply List.count_pos_iff.mp
      exact Nat.lt_of_lt_of_eq Nat.zero_lt_one once.symm
  · intro m' g next enters
    constructor
    · have later := (coherent_of_leads (h.trans (.head next .refl))).nodup
      rw [show m'.pending.map (·.call.gen) = _ from enters] at later
      exact (List.nodup_cons.mp later).1
    · obtain ⟨gen, found, suspended⟩ := (move_of_next? next).suspended_of_enter enters
      simp [World.look, found, Gen.view, suspended]
  · rintro st q w rfl
    cases st with
    | base f => exact ⟨f.call.gen, rfl, (seen _).mpr List.mem_cons_self⟩
    | push f st => exact ⟨f.call.gen, rfl, (seen _).mpr List.mem_cons_self⟩
  · rintro q w rfl g running
    cases (seen g).mp running
  · intro g running
    have last := coherent_of_leads (leads_run engine limit p (.initial s))
    cases (last.look_eq_running_iff g).mp running

end Runs

/-! ## Errands -/

/-- What a small body does in every step. -/
inductive Errand where
  | panics
  | yields
  | raises
  /-- Resumes a generator and passes a panic on. -/
  | asks (g : GenId)
  /-- Resumes a generator and catches a panic. -/
  | guards (g : GenId)
  /-- Closes a generator and passes a panic on. -/
  | closes (g : GenId)
  /-- Draws an item of a generator and passes a panic on, dropping the iterator on the way. -/
  | draws (g : GenId)

/-- Generators of small bodies. -/
abbrev errand : Signature where
  Value := Nat
  Thrown := Nat
  Body := Errand
  Kind := Unit
  Shared := Unit
  Note := Unit

/-- The end of an errand that asked another generator, with panics passed on. -/
def Errand.passOn {α : Type} (body : Errand) : Outcome α → Program errand errand.StepEnd
  | .panicked p => .done (.panicked p, body)
  | _ => .done (.yielded 1, body)

/-- The end of an errand that drew an item, with the iterator dropped after a panic. -/
def Errand.dropAndPassOn {α : Type} (body : Errand) (c : CursorId) :
    Outcome α → Program errand errand.StepEnd
  | .panicked p => .issue (.request (.discard c)) fun _ => .done (.panicked p, body)
  | _ => .done (.yielded 3, body)

/-- The engine of small bodies. -/
def errands : Engine errand := fun _ body _ _ =>
  match body with
  | .panics => .done (.panicked (.body "lost"), body)
  | .yields => .done (.yielded 0, body)
  | .raises => .done (.raised 0, body)
  | .asks g => .issue (.request (.next g none)) body.passOn
  | .guards g => .issue (.request (.next g none)) fun _ => .done (.yielded 2, body)
  | .closes g => .issue (.request (.close g)) body.passOn
  | .draws g => .issue (.iterate g) fun
    | none => .done (.returned 0, body)
    | some c => .issue (.request (.advance c)) (body.dropAndPassOn c)

/-- Makes generators of bodies, and goes on. -/
def Program.spawnAll (bodies : List (Flavor × Errand)) (p : Program errand Unit) :
    Program errand Unit :=
  bodies.foldr (fun x p => .issue (.spawn x.1 () x.2) fun _ => p) p

/-- Resumes a generator and ends. -/
def Program.resume (g : GenId) : Program errand Unit :=
  .issue (.request (.next g none)) fun _ => .done ()

/-- A moment in a ring of three generators, each of which resumes the next one. -/
def ringMoment : Moment errand Unit :=
  (Moment.atTop (.spawnAll [(.modern, .asks 1), (.legacy, .guards 2), (.modern, .asks 0)]
    (.resume 0)) (.initial ())).after errands 9 6

theorem running_iff_stepped_ring :
    ringMoment.active = [2, 1, 0] ∧ ringMoment.active.Nodup ∧
    (ringMoment.world.look 0).map (·.phase) = some .running := by
  obtain ⟨nodup, seen, -⟩ := running_iff_stepped (m := ringMoment) (.after 6)
  have active : ringMoment.active = [2, 1, 0] := rfl
  exact ⟨active, nodup, (seen 0).mpr (active ▸ rfl)⟩

end Resumable
