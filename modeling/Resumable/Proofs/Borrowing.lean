import Resumable.Proofs.Answers
import Resumable.Proofs.Lifetime
import Resumable.Proofs.Trail

/-!
# Readers and steps

A body is read or stepped, never both.  The readers of a body at a moment are those who were let at
it and have not left (`Trail.readers`), so whether a request stalls can be told from what was done
before: it stalls just when the gates let it through and someone is reading.  Nothing else makes an
operation panic by itself: what is taken for granted of a generator on the way into a step always
holds.
-/

namespace Resumable

variable {σ : Signature} {α : Type}

/-! ## Readers -/

namespace World

/-- How many readers hold the body of a generator. -/
def readers (w : World σ) (g : GenId) : Nat :=
  ((w.look g).map (·.readers)).getD 0

variable {w w' : World σ} {g : GenId} {gen : Gen σ}

theorem readers_eq (found : w.gen? g = some gen) : w.readers g = gen.view.readers := by
  simp [readers, look, found]

theorem readers_congr (same : w'.gen? g = w.gen? g) : w'.readers g = w.readers g := by
  simp [readers, look, same]

theorem readers_of_shared {n : Nat} (found : w.gen? g = some gen) (shared : gen.loan = .shared n) :
    w.readers g = n := by
  simp [readers_eq found, Gen.view, shared]

theorem readers_of_exclusive (found : w.gen? g = some gen) (exclusive : gen.loan = .exclusive) :
    w.readers g = 0 := by
  simp [readers_eq found, Gen.view, exclusive]

theorem readers_of_gone (gone : w.gen? g = none) : w.readers g = 0 := by
  simp [readers, look, gone]

/-- A reader is let at the body, or the body is out. -/
theorem readers_hold (w : World σ) (h g : GenId) :
    (w.hold h).2.readers g = w.readers g + if h = g ∧ (w.hold h).1 = true then 1 else 0 := by
  unfold hold
  cases hh : (w.gen? h).bind (·.hold?) with
  | none => simp
  | some gen =>
    obtain ⟨gen₀, found, held⟩ := Option.bind_eq_some_iff.mp hh
    unfold Gen.hold? at held
    split at held
    · next n shared =>
      cases held
      by_cases he : h = g
      · subst he
        have found' := (gen?_modifyGen w h (fun _ => { gen₀ with loan := .shared (n + 1) }) h).trans
          (by rw [if_pos rfl, found, Option.map_some])
        simp [readers_of_shared found' rfl, readers_of_shared found shared]
      · have same : (w.modifyGen h fun _ => { gen₀ with loan := .shared (n + 1) }).gen? g =
            w.gen? g := by
          rw [gen?_modifyGen, if_neg he]
        simp [readers_congr same, he]
    · cases held

/-- A reader leaves, if there is one. -/
theorem readers_release (w : World σ) (h g : GenId) :
    (w.release h).2.readers g + (if h = g ∧ (w.release h).1 = true then 1 else 0) =
      w.readers g := by
  unfold release
  cases hh : (w.gen? h).bind (·.release?) with
  | none => simp
  | some gen =>
    obtain ⟨gen₀, found, released⟩ := Option.bind_eq_some_iff.mp hh
    unfold Gen.release? at released
    split at released
    · next n shared =>
      cases released
      by_cases he : h = g
      · subst he
        have found' := (gen?_modifyGen w h (fun _ => { gen₀ with loan := .shared n }) h).trans
          (by rw [if_pos rfl, found, Option.map_some])
        simp [readers_of_shared found' rfl, readers_of_shared found shared]
      · have same : (w.modifyGen h fun _ => { gen₀ with loan := .shared n }).gen? g = w.gen? g := by
          rw [gen?_modifyGen, if_neg he]
        simp [readers_congr same, he]
    · cases released

theorem readers_spawn (w : World σ) (flavor : Flavor) (kind : σ.Kind) (body : σ.Body)
    (g : GenId) : (w.spawn flavor kind body).2.readers g = w.readers g := by
  have made := gen?_spawn w flavor kind body g
  split at made
  · next hg =>
    have gone : w.gen? g = none := by
      cases found : w.gen? g with
      | none => rfl
      | some gen => exact absurd hg (Nat.ne_of_lt (lt_nextKey_of_gen? found))
    rw [readers_of_gone gone, readers_of_shared made rfl]
  · exact readers_congr made

theorem readers_consume (w : World σ) (h g : GenId) :
    (w.consume h).2.readers g = w.readers g := by
  rcases w.gen?_consume h g with same | ⟨rfl, gone, gen, found, -, free⟩
  · exact readers_congr same
  · rw [readers_of_gone gone, readers_of_shared found free]

end World

/-! ## Who has taken a hold -/

namespace Moment

/-- A reader is let at the body of a generator. -/
def borrows (g : GenId) (m : Moment σ α) : Bool :=
  match m.act? with
  | some (.issue (.hold h)) => h = g ∧ (m.world.hold h).1 = true
  | _ => false

/-- A reader leaves the body of a generator. -/
def givesBack (g : GenId) (m : Moment σ α) : Bool :=
  match m.act? with
  | some (.issue (.release h)) => h = g ∧ (m.world.release h).1 = true
  | _ => false

/-- The holds of a body that have been taken and not given back. -/
def outstanding (g : GenId) (ms : List (Moment σ α)) : Nat :=
  ms.countP (·.borrows g) - ms.countP (·.givesBack g)

/-- Readers come and go by holds and releases alone. -/
theorem Turn.readers {m m' : Moment σ α} (turn : m.Turn m') (coherent : Coherent m.pending m.world)
    (g : GenId) :
    m'.world.readers g + (if m.givesBack g then 1 else 0) =
      m.world.readers g + if m.borrows g then 1 else 0 := by
  have unmoved (same : m'.world.readers g = m.world.readers g) (here : m.borrows g = false)
      (back : m.givesBack g = false) :
      m'.world.readers g + (if m.givesBack g then 1 else 0) =
        m.world.readers g + if m.borrows g then 1 else 0 := by
    rw [same, here, back]
  cases turn with
  | @serve c act plain pending world =>
    cases c with
    | request r => exact absurd rfl (plain r)
    | hold h =>
      rw [world]
      simp [borrows, givesBack, act, World.serve, World.readers_hold]
    | release h =>
      rw [world]
      simp [borrows, givesBack, act, World.serve, World.readers_release]
    | spawn flavor kind body =>
      have same := World.readers_spawn m.world flavor kind body g
      exact unmoved (world ▸ same) (by simp [borrows, act]) (by simp [givesBack, act])
    | consume h =>
      have same := World.readers_consume m.world h g
      exact unmoved (world ▸ same) (by simp [borrows, act]) (by simp [givesBack, act])
    | iterate h =>
      have same := World.readers_congr (m.world.gen?_iterate h g)
      exact unmoved (world ▸ same) (by simp [borrows, act]) (by simp [givesBack, act])
    | _ => exact unmoved (world ▸ rfl) (by simp [borrows, act]) (by simp [givesBack, act])
  | @answer r a w act gate pending world =>
    refine unmoved ?_ (by simp [borrows, act]) (by simp [givesBack, act])
    rw [world, World.readers_congr (World.gen?_record w (.answered r a) g)]
    rcases World.gen?_of_gate gate g with same | ⟨gen, found, shut⟩
    · exact World.readers_congr same
    · rw [World.readers_eq found, World.readers_eq shut]
      rfl
  | @enter r call act gate pending =>
    refine unmoved ?_ (by simp [borrows, act]) (by simp [givesBack, act])
    obtain ⟨gen, departs⟩ := World.departs_of_gate gate
    by_cases hg : call.gen = g
    · subst hg
      rw [World.readers_of_exclusive departs.self rfl,
        World.readers_of_shared departs.found departs.free]
    · exact World.readers_congr (departs.of_ne hg).1
  | @leave pd e act pending world =>
    refine unmoved ?_ (by simp [borrows, act]) (by simp [givesBack, act])
    rw [pending] at coherent
    obtain ⟨gen, found, running, lands⟩ := coherent.lands e
    have exclusive := (coherent.settled _ _ found).loan.mpr running
    rw [world]
    by_cases hg : pd.call.gen = g
    · subst hg
      rw [World.readers_of_shared lands.self rfl, World.readers_of_exclusive found exclusive]
    · exact World.readers_congr (lands.of_ne hg).1

end Moment

section Runs

variable {engine : Engine σ} {limit : Nat} {p : Program σ α} {s : σ.Shared} {m : Moment σ α}
  {ms : List (Moment σ α)}

theorem Trail.balance (trail : Trail engine limit (.atTop p (.initial s)) ms m) (g : GenId) :
    m.world.readers g + ms.countP (·.givesBack g) = ms.countP (·.borrows g) := by
  induction trail with
  | start => rfl
  | move trail next ih =>
    have turned := (Moment.turn_of_next? next).readers (coherent_of_leads trail.leads) g
    rw [List.countP_cons, List.countP_cons]
    omega

/-- The readers are those who took a hold and have not given it back. -/
theorem Trail.readers (trail : Trail engine limit (.atTop p (.initial s)) ms m) (g : GenId) :
    m.world.readers g = Moment.outstanding g ms := by
  have balance := trail.balance g
  unfold Moment.outstanding
  omega

/-! ## What is taken for granted -/

theorem World.Change.unbroken {w : World σ} {g : GenId} {o : Option (Gen σ)}
    {es : List (Event σ)} (change : w.Change g o es) {a : Assertion}
    (unbroken : .broke g a ∉ w.course g) : .broke g a ∉ es := by
  cases change with
  | idle idle => cases idle <;> simpa using unbroken
  | entered => simpa using unbroken
  | landed => simpa using unbroken

/-- What is taken for granted holds whenever it matters. -/
theorem unbroken_of_leads (h : Leads engine limit (.atTop p (.initial s)) m) (g : GenId)
    (a : Assertion) : .broke g a ∉ m.world.history := by
  have unbroken : .broke g a ∉ m.world.course g :=
    h.keeps (P := fun w => .broke g a ∉ w.course g)
      (fun coherent move unbroken => (coherent.change move g).unbroken unbroken)
      (Coherent.start s) nofun
  rwa [World.mem_course rfl] at unbroken

/-- The body of a generator cannot be read exactly while the generator is running. -/
theorem Coherent.hold_refused_iff {ps : List (Pending σ)} {w : World σ} {g : GenId} {gen : Gen σ}
    (coherent : Coherent ps w) (found : w.gen? g = some gen) :
    (w.hold g).1 = false ↔ gen.phase = .running := by
  rw [← (coherent.settled g gen found).loan]
  simp only [World.hold, found, Option.bind_some, Gen.hold?]
  cases gen.loan <;> simp

/-! ## Who panics -/

/-- **Operations panic by themselves only for readers.**  At every moment of every run a request
stalls just when the gates let it through and a hold of the body is outstanding; then nobody is
stepped, and the generator is closed.  If there is no such hold, a request that is let through steps
the body and panics just as the body does, and one that is not let through is answered in good order
and the same way whoever holds the body.  Nothing that is taken for granted ever fails, and a body
cannot be read just while its generator is running. -/
theorem panics_only_for_readers (h : Trail engine limit (.atTop p (.initial s)) ms m) :
    (∀ g a, .broke g a ∉ m.world.history ∧
      .broke g a ∉ (engine.run limit p (.initial s)).2.history) ∧
    (∀ g gen, m.world.gen? g = some gen → ((m.world.hold g).1 = false ↔ gen.phase = .running)) ∧
    ∀ r : Request σ,
      ((∃ w', m.world.Stalls r w') ↔
        m.world.Admits r ∧ 0 < Moment.outstanding r.target ms) ∧
      (m.world.Admits r → Moment.outstanding r.target ms = 0 →
        ∃ call w', m.world.Enters r call w') ∧
      (¬ m.world.Admits r → ∃ a w', m.world.Settles r a w') := by
  have coherent := coherent_of_leads h.leads
  refine ⟨?_, fun g gen => coherent.hold_refused_iff, ?_⟩
  · intro g a
    exact ⟨unbroken_of_leads h.leads g a, unbroken_of_leads (leads_run engine limit p _) g a⟩
  intro r
  -- a generator that is let through has its body at home
  have shared (admits : m.world.Admits r) : ∃ gen, m.world.gen? r.target = some gen ∧
      gen.loan = .shared (Moment.outstanding r.target ms) := by
    obtain ⟨⟨gen, found, suspended, -⟩, -⟩ := admits
    refine ⟨gen, found, ?_⟩
    rw [← h.readers]
    cases loan : gen.loan with
    | shared n => rw [World.readers_of_shared found loan]
    | exclusive =>
      have running := (coherent.settled _ _ found).loan.mp loan
      cases suspended.symm.trans running
  have enters (admits : m.world.Admits r) (free : Moment.outstanding r.target ms = 0) :
      ∃ call w', m.world.Enters r call w' := by
    obtain ⟨gen, found, loan⟩ := shared admits
    rw [free] at loan
    obtain ⟨call, w', gate⟩ := World.exists_gate_stepping admits found loan
    exact ⟨call, w', World.enters_of_gate gate⟩
  refine ⟨⟨?_, ?_⟩, enters, World.exists_settles⟩
  · rintro ⟨w', stalls⟩
    have admits : m.world.Admits r := by
      by_contra refused
      obtain ⟨a, w'', settles⟩ := World.exists_settles refused
      have same := (settles.serve Stepper.never).symm.trans (stalls.serve Stepper.never)
      exact settles.orderly _ (congrArg Prod.fst same)
    refine ⟨admits, Nat.pos_of_ne_zero ?_⟩
    -- a body that panics in its own way would be heard
    intro free
    obtain ⟨call, w'', enters⟩ := enters admits free
    have same := (enters.serve Stepper.never).symm.trans (stalls.serve Stepper.never)
    have heard := (enters.panics _ _ _).mp (congrArg Prod.fst same)
    cases heard
  · rintro ⟨admits, held⟩
    obtain ⟨gen, found, loan⟩ := shared admits
    refine World.exists_stalls admits found ?_
    intro free
    have none_left : Moment.outstanding r.target ms = 0 := by
      injection loan.symm.trans free
    omega

end Runs

/-- Two readers are let at a body and one of them leaves before it is resumed. -/
def twoReaders : Moment errand Unit :=
  .atTop (.spawnAll [(.legacy, .yields)] (.issue (.hold 0) fun _ => .issue (.hold 0) fun _ =>
    .issue (.release 0) fun _ => .resume 0)) (.initial ())

theorem panics_only_for_readers_left :
    ∃ ms, Trail errands 9 twoReaders ms (twoReaders.after errands 9 4) ∧
      Moment.outstanding 0 ms = 1 ∧
      ∃ w', (twoReaders.after errands 9 4).world.Stalls (.next 0 none) w' := by
  have trail : Trail errands 9 twoReaders
      [twoReaders.after errands 9 3, twoReaders.after errands 9 2, twoReaders.after errands 9 1,
        twoReaders] (twoReaders.after errands 9 4) :=
    .move (.move (.move (.move .start rfl) rfl) rfl) rfl
  have admits : (twoReaders.after errands 9 4).world.Admits (.next 0 none) :=
    ⟨⟨_, rfl, rfl, nofun⟩, nofun⟩
  obtain ⟨-, -, requests⟩ := panics_only_for_readers trail
  exact ⟨_, trail, rfl, (requests (.next 0 none)).1.mpr ⟨admits, Nat.one_pos⟩⟩

end Resumable
