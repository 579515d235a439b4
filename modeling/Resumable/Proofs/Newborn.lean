import Resumable.Proofs.Gates
import Resumable.Proofs.Receivers
import Resumable.Proofs.StepSequence
import Resumable.Proofs.Trail

/-!
# Newborn generators

A legacy generator is newborn until a request on it gets past the gates for the first time
(`Moment.Passes`), and never again.  In terms of what is on record, it is newborn as long as its
course is empty; so the flag follows from the course (`Course.newborn_iff`), and what is left to
show is which moments add the first event to a course (`Moment.Turn.course_eq_nil_iff`).
-/

namespace Resumable

variable {σ : Signature} {α : Type}

/-! ## Empty courses -/

namespace Course

variable {g : GenId} {f : Flavor} {ph : Phase} {n : Bool} {es : List (Event σ)}

theorem newborn_iff (h : Course g f ph n es) : n = true ↔ f = .legacy ∧ es = [] := by
  constructor
  · rintro rfl
    obtain ⟨legacy, -, nothing⟩ := h.of_newborn
    exact ⟨legacy, nothing⟩
  · rintro ⟨rfl, rfl⟩
    generalize none : [] = es at h
    cases h with
    | fresh => rfl
    | leave => simp at none
    | _ => cases none

/-- A course opens with a step announced or with a close without a step. -/
theorem entered_of_ne_nil (h : Course g f ph n es) (some : es ≠ []) :
    (∃ mode, .logged g (.resume f mode) ∈ es) ∨ .logged g .closeNewborn ∈ es := by
  induction h with
  | fresh => exact absurd rfl some
  | @enter _ _ _ _ mode => exact .inl ⟨mode, by simp⟩
  | leave h e ih =>
    rcases ih nofun with ⟨mode, announced⟩ | shut
    · exact .inl ⟨mode, List.mem_append_right _ (List.mem_cons_of_mem _ announced)⟩
    · exact .inr (List.mem_append_right _ (List.mem_cons_of_mem _ shut))
  | stall h mode => exact .inl ⟨mode, by simp⟩
  | shut => exact .inr (by simp)

end Course

/-! ## Requests that pass -/

namespace World

variable {w v : World σ} {r : Request σ} {g : GenId} {gen : Gen σ}

theorem Passes.of_departs {call : Call σ} (departs : w.Departs r call gen v) : w.Passes r := by
  obtain ⟨suspended, closable⟩ := departs.ready
  refine ⟨⟨gen, departs.target ▸ departs.found, suspended, ?_⟩, departs.idle⟩
  rw [departs.mode]
  exact fun closing => (closable closing).1

/-- Where a request halts, it is on record in the course of its generator just if it passed. -/
theorem Halts.course {ps : List (Pending σ)} (coherent : Coherent ps w) (halts : Halts r w v)
    (g : GenId) : v.course g = [] ↔ w.course g = [] ∧ ¬ (r.target = g ∧ w.Passes r) := by
  have passed (es : List (Event σ)) {e : Event σ} (passes : w.Passes r)
      (history : v.history = e :: es ++ w.history) (owner : e.owner? = some r.target)
      (own : ∀ e ∈ es, e.owner? = some r.target) :
      v.course g = [] ↔ w.course g = [] ∧ ¬ (r.target = g ∧ w.Passes r) := by
    rw [course_append history]
    by_cases here : r.target = g
    · subst here
      simp [owner, passes]
    · have others : es.filter (fun e => e.owner? = some g) = [] :=
        List.filter_eq_nil_iff.mpr fun e he => by simp [own e he, here]
      simp [owner, here, others]
  cases halts with
  | refused refused alike =>
    rw [alike.course g]
    exact (and_iff_left fun passes => refused passes.2).symm
  | @shut gen found legacy newborn unused history =>
    have settled := (coherent.settled _ gen found).course
    rw [newborn] at settled
    have passes : w.Passes r := ⟨⟨gen, found, settled.of_newborn.2.1, fun _ => legacy⟩, unused⟩
    exact passed [] passes history rfl nofun
  | @stalled gen found ready unused history =>
    obtain ⟨suspended, closable⟩ := ready
    have passes : w.Passes r :=
      ⟨⟨gen, found, suspended, fun closing => (closable closing).1⟩, unused⟩
    exact passed [_] passes history rfl (by simp [Event.owner?])

end World

namespace Moment

/-- A request on a generator is made and gets past the gates. -/
def Passes (m : Moment σ α) (g : GenId) : Prop :=
  ∃ r, m.act? = some (.issue (.request r)) ∧ r.target = g ∧ m.world.Passes r

/-- **A course stays empty until a request on its generator gets past the gates.** -/
theorem Turn.course_eq_nil_iff {m m' : Moment σ α} (turn : m.Turn m')
    (coherent : Coherent m.pending m.world) (g : GenId) :
    m'.world.course g = [] ↔ m.world.course g = [] ∧ ¬ m.Passes g := by
  cases turn with
  | serve act plain pending world =>
    rw [world, World.course_serve plain]
    refine (and_iff_left ?_).symm
    rintro ⟨r, act', -⟩
    cases act.symm.trans act'
    exact plain r rfl
  | @answer r a w act gate pending world =>
    have passes : m.Passes g ↔ r.target = g ∧ m.world.Passes r := by
      constructor
      · rintro ⟨r', act', target, passes⟩
        cases act.symm.trans act'
        exact ⟨target, passes⟩
      · rintro ⟨target, passes⟩
        exact ⟨r, act, target, passes⟩
    rw [world, passes, ← (World.halts_of_gate gate).course coherent g]
    rfl
  | @enter r call act gate pending =>
    obtain ⟨gen, departs⟩ := World.departs_of_gate gate
    rw [departs.course]
    by_cases here : call.gen = g
    · have passes : m.Passes g := ⟨r, act, departs.target.trans here, .of_departs departs⟩
      simp [here, passes]
    · have others : ¬ m.Passes g := by
        rintro ⟨r', act', target, -⟩
        cases act.symm.trans act'
        exact here (departs.target.symm.trans target)
      simp [here, others]
  | @leave pd e act pending world =>
    have none : ¬ m.Passes g := by
      rintro ⟨r, act', -⟩
      cases act.symm.trans act'
    rw [pending] at coherent
    obtain ⟨gen, -, -, lands⟩ := coherent.lands e
    rw [world, lands.course]
    by_cases here : pd.call.gen = g
    · obtain ⟨es, begun⟩ := (coherent.attends pd List.mem_cons_self).begun
      rw [here] at begun
      simp [here, begun]
    · simp [here, none]

end Moment

section Runs

variable {engine : Engine σ} {limit : Nat} {p : Program σ α} {s : σ.Shared}
  {ms : List (Moment σ α)} {m m' : Moment σ α} {g : GenId} {gen gen' : Gen σ}

theorem Trail.course_eq_nil_iff (trail : Trail engine limit (.atTop p (.initial s)) ms m)
    (g : GenId) : m.world.course g = [] ↔ ∀ m₁ ∈ ms, ¬ m₁.Passes g := by
  induction trail with
  | start => exact iff_of_true rfl nofun
  | move trail next ih =>
    have coherent := coherent_of_leads trail.leads
    rw [(Moment.turn_of_next? next).course_eq_nil_iff coherent g, ih, List.forall_mem_cons,
      and_comm]

/-- What is on record of a generator is in its course. -/
theorem course_eq_nil_iff_unrecorded {ps : List (Pending σ)} {w : World σ}
    (coherent : Coherent ps w) (found : w.gen? g = some gen) :
    w.course g = [] ↔
      (∀ f mode, .logged g (.resume f mode) ∉ w.history) ∧ .logged g .closeNewborn ∉ w.history := by
  constructor
  · intro nothing
    have unowned (e : Event σ) (owner : e.owner? = some g) : e ∉ w.history := by
      rw [← World.mem_course owner, nothing]
      exact List.not_mem_nil
    exact ⟨fun _ _ => unowned _ rfl, unowned _ rfl⟩
  · rintro ⟨unannounced, unshut⟩
    by_contra some
    rcases (coherent.settled g gen found).course.entered_of_ne_nil some with ⟨mode, mem⟩ | mem
    · exact unannounced gen.flavor mode ((World.mem_course rfl).mp mem)
    · exact unshut ((World.mem_course rfl).mp mem)

theorem flavor_eq_of_leads (coherent : Coherent m.pending m.world)
    (found : m.world.gen? g = some gen) (later : Leads engine limit m m')
    (found' : m'.world.gen? g = some gen') : gen'.flavor = gen.flavor := by
  have known := World.known_of_leads coherent found later
  simpa only [found'] using known.2

/-- **A generator is newborn just if it is legacy and no request on it has got past the gates.**
At every moment of every run: no step of it was announced and it was not closed newborn, it is
suspended, and its body has not been stepped through it.  The next moment finds it newborn still
just if what is done in between is no request on it that gets past the gates: any other command
leaves the flag as it is, and so does a method call of a host that finds no target.  Every request
on a newborn generator gets past the gates, whoever holds its body, unless it is made of an iterator
that is in use or finished.  A generator that is newborn no longer never is again. -/
theorem newborn_iff_never_passed (trail : Trail engine limit (.atTop p (.initial s)) ms m)
    (found : m.world.gen? g = some gen) :
    (gen.newborn = true ↔ gen.flavor = .legacy ∧ ∀ m₁ ∈ ms, ¬ m₁.Passes g) ∧
    (gen.newborn = true ↔ gen.flavor = .legacy ∧
      (∀ f mode, .logged g (.resume f mode) ∉ m.world.history) ∧
        .logged g .closeNewborn ∉ m.world.history) ∧
    (gen.newborn = true → gen.phase = .suspended ∧ m.world.stepsOf g = []) ∧
    (∀ m' gen', m.next? engine limit = some m' → m'.world.gen? g = some gen' →
      (m.Passes g → gen'.newborn = false) ∧
      (¬ m.Passes g → gen'.newborn = gen.newborn) ∧
      ∀ c, m.act? = some (.issue c) → (∀ r, c = .request r → r.target ≠ g) →
        gen'.newborn = gen.newborn) ∧
    (∀ (kind : σ.Kind) receiver expected call find d,
      Host.target kind expected m.world find receiver = .missing →
        ((Host.call kind receiver expected call (Host.unwrapping kind fun o => .done (find o))).run
          (engine.stepper d) m.world).2 = m.world) ∧
    (gen.newborn = true → ∀ r : Request σ, r.target = g →
      (∀ c, r.cursor? = some c → m.world.cursor? c = some ⟨false, false⟩) → m.world.Passes r) ∧
    ∀ m' gen', Leads engine limit m m' → m'.world.gen? g = some gen' →
      gen.newborn = false → gen'.newborn = false := by
  have coherent := coherent_of_leads trail.leads
  have flag : gen.newborn = true ↔ gen.flavor = .legacy ∧ m.world.course g = [] :=
    (coherent.settled g gen found).course.newborn_iff
  refine ⟨?_, ?_, ?_, ?_, fun _ _ _ _ _ _ missing => ?_, ?_, ?_⟩
  · rw [flag, trail.course_eq_nil_iff]
  · rw [flag, course_eq_nil_iff_unrecorded coherent found]
  · intro newborn
    have course := (coherent.settled g gen found).course
    rw [newborn] at course
    obtain ⟨-, suspended, nothing⟩ := course.of_newborn
    exact ⟨suspended, by rw [World.stepsOf, nothing]; rfl⟩
  · intro m' gen' next found'
    have later : Leads engine limit m m' := .head next .refl
    have coherent' := coherent_of_leads (trail.leads.trans later)
    have flavor := flavor_eq_of_leads coherent found later found'
    have goesOn : gen'.newborn = true ↔ gen.newborn = true ∧ ¬ m.Passes g := by
      rw [(coherent'.settled g gen' found').course.newborn_iff, flag, flavor, and_assoc,
        (Moment.turn_of_next? next).course_eq_nil_iff coherent g]
    have kept (stopped : ¬ m.Passes g) : gen'.newborn = gen.newborn :=
      Bool.eq_iff_iff.mpr (goesOn.trans (and_iff_left stopped))
    refine ⟨?_, kept, ?_⟩
    · intro passes
      exact Bool.eq_false_iff.mpr fun newborn => (goesOn.mp newborn).2 passes
    · intro c act other
      apply kept
      rintro ⟨r, act', target, -⟩
      cases act.symm.trans act'
      exact other r rfl target
  · rw [Host.run_call_of_missing missing]
  · intro newborn r target unused
    have course := (coherent.settled g gen found).course
    rw [newborn] at course
    obtain ⟨legacy, suspended, -⟩ := course.of_newborn
    exact ⟨⟨gen, target ▸ found, suspended, fun _ => legacy⟩, unused⟩
  · intro m' gen' later found' started
    have coherent' := coherent_of_leads (trail.leads.trans later)
    apply Bool.eq_false_iff.mpr
    intro newborn
    obtain ⟨legacy, nothing⟩ := (coherent'.settled g gen' found').course.newborn_iff.mp newborn
    have grown := course_suffix_of_leads coherent later g
    rw [nothing, List.suffix_nil] at grown
    rw [flavor_eq_of_leads coherent found later found'] at legacy
    have still := flag.mpr ⟨legacy, grown⟩
    rw [started] at still
    cases still

end Runs

/-- A newborn generator with an iterator, held by a reader, is about to be resumed. -/
def heldNewborn : Moment errand Unit :=
  .atTop (.spawnAll [(.legacy, .yields), (.modern, .yields)] (.issue (.iterate 0) fun _ =>
    .issue (.request (.next 1 none)) fun _ => .issue (.hold 0) fun _ => .resume 0)) (.initial ())

theorem newborn_iff_never_passed_held :
    ∃ ms, Trail errands 9 heldNewborn ms (heldNewborn.after errands 9 6) ∧
      (∀ m₁ ∈ ms, ¬ m₁.Passes 0) ∧ (heldNewborn.after errands 9 6).world.stepsOf 0 = [] ∧
      (heldNewborn.after errands 9 6).Passes 0 ∧
      (heldNewborn.after errands 9 7).world.gen? 0 =
        some ⟨.closed, false, .legacy, (), .yields, .shared 1⟩ := by
  have later : Leads errands 9 heldNewborn (heldNewborn.after errands 9 6) := .after 6
  obtain ⟨ms, trail⟩ := later.trail
  have found : (heldNewborn.after errands 9 6).world.gen? 0 =
    some ⟨.suspended, true, .legacy, (), .yields, .shared 1⟩ := rfl
  obtain ⟨never, -, unstepped, -, -, passes, -⟩ := newborn_iff_never_passed trail found
  refine ⟨ms, trail, (never.mp rfl).2, (unstepped rfl).2, ?_, rfl⟩
  exact ⟨.next 0 none, rfl, rfl, passes rfl (.next 0 none) rfl nofun⟩

end Resumable
