import Resumable.Proofs.Quiet

/-!
# Moves into a step and out of it

A request that gets past the gates takes a suspended generator whose body is at home into a step
(`World.Departs`), and the end of the innermost step takes its generator out again, closed or
suspended as the step ended (`World.Lands`).  Either move changes a single generator, adds to its
course alone, and touches no iterator but the one that the request is made of.
-/

namespace Resumable

variable {σ : Signature}

namespace World

/-! ## Into a step -/

/-- A request that takes a generator into a step. -/
structure Departs (r : Request σ) (call : Call σ) (gen : Gen σ) (w w' : World σ) : Prop where
  found : w.gen? call.gen = some gen
  ready : Ready gen call.mode
  free : gen.loan = .shared 0
  flavor : call.flavor = gen.flavor
  body : call.body = gen.body
  target : r.target = call.gen
  mode : r.mode = call.mode
  suits : call.input.Suits call.mode
  gen? : ∀ g, w'.gen? g = if call.gen = g then some gen.start.enter.lend else w.gen? g
  history : w'.history =
    .began call.gen call.input call.mode :: .logged call.gen (.resume gen.flavor call.mode) ::
      w.history
  nextKey : w'.slots.nextKey = w.slots.nextKey
  /-- The iterator of the request was idle and unfinished. -/
  idle : ∀ c, r.cursor? = some c → w.cursor? c = some ⟨false, false⟩
  cursor? : ∀ c, w'.cursor? c = if r.cursor? = some c then some ⟨false, true⟩ else w.cursor? c

namespace Departs

variable {r : Request σ} {call : Call σ} {gen : Gen σ} {w w' : World σ}

theorem course (departs : Departs r call gen w w') (g : GenId) :
    w'.course g =
      if call.gen = g then
        .began g call.input call.mode :: .logged g (.resume gen.flavor call.mode) :: w.course g
      else w.course g := by
  unfold World.course
  rw [departs.history]
  split
  · next he => simp [Event.owner?, he]
  · next he => simp [Event.owner?, he]

theorem self (departs : Departs r call gen w w') :
    w'.gen? call.gen = some gen.start.enter.lend := by
  rw [departs.gen?, if_pos rfl]

theorem of_ne (departs : Departs r call gen w w') {g : GenId} (hg : call.gen ≠ g) :
    w'.gen? g = w.gen? g ∧ w'.course g = w.course g := by
  rw [departs.gen?, departs.course, if_neg hg, if_neg hg]
  exact ⟨rfl, rfl⟩

end Departs

section Departing

variable {w w' : World σ} {r : Request σ} {call : Call σ} {ρ : Type}

/-- A step let in by the gates of a generator, for a request that is made of no iterator. -/
theorem Gated.departs (gated : Gated r.target r.mode w (.stepping call w' : Passage σ ρ))
    (direct : r.cursor? = none) : ∃ gen, Departs r call gen w w' := by
  generalize target : r.target = g at gated
  generalize hm : r.mode = mode at gated
  cases gated with
  | @stepping gen found ready free input suits =>
    have becomes := becomes_embark found gen.flavor input mode
    exact ⟨gen, found, ready, free, rfl, rfl, target, hm, suits, becomes.gen?, becomes.history,
      becomes.nextKey, by simp [direct], by simp [direct, becomes.cursor?]⟩

/-- A step let in while the iterator of the request is marked. -/
theorem Gated.departs_marked {c : CursorId} (hc : w.cursor? c = some ⟨false, false⟩)
    (gated : Gated r.target r.mode (w.modifyCursor c fun _ => ⟨false, true⟩)
      (.stepping call w' : Passage σ ρ))
    (hr : r.cursor? = some c) : ∃ gen, Departs r call gen w w' := by
  generalize target : r.target = g at gated
  generalize hm : r.mode = mode at gated
  cases gated with
  | @stepping gen found ready free input suits =>
    have becomes := becomes_embark found gen.flavor input mode
    refine ⟨gen, by simpa using found, ready, free, rfl, rfl, target, hm, suits, ?_,
      becomes.history, by simp [becomes.nextKey], ?_, ?_⟩
    · intro h
      simpa using becomes.gen? h
    · intro d hd
      rw [hr] at hd
      cases hd
      exact hc
    · intro d
      rw [becomes.cursor?, cursor?_modifyCursor, hr]
      by_cases hd : c = d
      · subst hd
        simp [hc]
      · simp [hd]

theorem cursor_eq_of_idle {cur : Cursor} (idle : ¬ cur.busy = true)
    (unfinished : ¬ cur.finished = true) : cur = ⟨false, false⟩ := by
  rcases cur with ⟨_ | _, _ | _⟩ <;> simp_all

/-- **A request that gets past the gates takes its generator into a step.** -/
theorem departs_of_gate (h : w.gate r = .stepping call w') : ∃ gen, Departs r call gen w w' := by
  have direct (hr : r.cursor? = none) : ∃ gen, Departs r call gen w w' := by
    have gated := gated_gate (w := w) hr
    rw [h] at gated
    exact gated.departs hr
  cases r with
  | advance c =>
    simp only [gate, gateAdvance] at h
    cases hc : w.cursor? c with
    | none => rw [hc] at h; cases h
    | some cur =>
      simp only [hc] at h
      split at h
      · cases h
      split at h
      · cases h
      next hb hf =>
      rw [cursor_eq_of_idle hb hf] at hc
      have stepping := Passage.map_eq_stepping h
      exact Gated.departs_marked (r := .advance c) hc (stepping ▸ gated_gateNext none) rfl
  | discard c =>
    simp only [gate, gateDiscard] at h
    cases hc : w.cursor? c with
    | none => rw [hc] at h; cases h
    | some cur =>
      obtain ⟨gen, found⟩ := Option.isSome_iff_exists.mp (isSome_gen?_of_cursor? hc)
      simp only [hc, found] at h
      split at h
      · cases h
      split at h
      · cases h
      next hb hf =>
      rw [cursor_eq_of_idle hb hf] at hc
      cases flavor : gen.flavor with
      | modern => simp only [flavor] at h; cases h
      | legacy =>
        simp only [flavor] at h
        have stepping := Passage.map_eq_stepping h
        exact Gated.departs_marked (r := .discard c) hc (stepping ▸ gated_gateClose) rfl
  | _ => exact direct rfl

end Departing

/-! ## Out of a step -/

end World

/-- A generator after a step that leaves it in a phase. -/
def Gen.landed (gen : Gen σ) (body : σ.Body) (exit : Phase) : Gen σ :=
  { gen with phase := exit, body := body, loan := .shared 0 }

theorem Gen.leave_takeBack {gen : Gen σ} (running : gen.phase = .running) (body : σ.Body)
    (exit : Phase) : (gen.takeBack body).leave exit = gen.landed body exit := by
  simp [Gen.leave, Gen.takeBack, Gen.landed, running]

/-- What the step of an ending answers. -/
def Ending.outcome : Ending σ.Value σ.Thrown → Outcome (σ.Answer (StepResult σ.Value))
  | .yielded v => .returned (.ok (.yielded v))
  | .returned v => .returned (.ok (.returned v))
  | .raised e => .returned (.error (.raised e))
  | .panicked p => .panicked p

/-- What a request itself reports when its step has ended: an iterator that is given up says that
its generator failed to close. -/
def Request.reports : Request σ → Ending σ.Value σ.Thrown → List Record
  | .discard _, .raised _ => [.closeFailed]
  | _, _ => []

/-- The reply of a request whose step panicked. -/
def Request.panicked (p : Panic) : (r : Request σ) → r.Reply
  | .next _ _ => .panicked p
  | .throw _ _ => .panicked p
  | .close _ => .panicked p
  | .advance _ => .panicked p
  | .discard _ => .panicked p

namespace World

section Landing

variable {w : World σ} {call : Call σ} {gen : Gen σ}

theorem land_becomes (found : w.gen? call.gen = some gen) (running : gen.phase = .running)
    (e : σ.StepEnd) :
    (land call e w).1 = e.1.outcome ∧
      Becomes call.gen (gen.landed e.2 e.1.phase)
        (e.1.record?.toList.map (.logged call.gen) ++ [.ended call.gen e.1]) w
        (land call e w).2 := by
  obtain ⟨ending, body⟩ := e
  let v := ((w.modifyGen call.gen (.takeBack body)).record (.ended call.gen ending)).modifyGen
    call.gen (.leave ending.phase)
  have left : Becomes call.gen (gen.landed body ending.phase) [.ended call.gen ending] w v := by
    rw [← Gen.leave_takeBack running]
    exact (((Becomes.refl found).modify _).record _).modify _
  have reported (r : Phase → Record) :
      Becomes call.gen (gen.landed body ending.phase)
        [.logged call.gen (r ending.phase), .ended call.gen ending] w
        (v.log call.gen (r (v.phaseOf call.gen))) := by
    rw [left.phaseOf]
    exact left.record _
  cases ending with
  | yielded x => exact ⟨rfl, reported .stepDone⟩
  | returned x => exact ⟨rfl, reported .stepDone⟩
  | raised x => exact ⟨rfl, reported .stepRaised⟩
  | panicked p => exact ⟨rfl, left⟩

theorem landResumed_becomes (found : w.gen? call.gen = some gen) (running : gen.phase = .running)
    (resuming : call.mode ≠ .close) (e : σ.StepEnd) :
    Becomes call.gen (gen.landed e.2 (e.1.exit call.mode))
      ((e.1.reports call.mode).map (.logged call.gen) ++ [.ended call.gen e.1]) w
      (landResumed call e w).2 := by
  have becomes := (land_becomes found running e).2
  have exit : e.1.exit call.mode = e.1.phase := by simp [Ending.exit, resuming]
  have reports : e.1.reports call.mode = e.1.record?.toList := by simp [Ending.reports, resuming]
  rw [exit, reports]
  exact becomes

/-- A step that was to close its generator leaves it closed, by force if need be. -/
theorem landClosed_becomes (found : w.gen? call.gen = some gen) (running : gen.phase = .running)
    (closing : call.mode = .close) (e : σ.StepEnd) :
    (landClosed call e w).1 = e.1.outcome.map (·.map fun _ => ()) ∧
      Becomes call.gen (gen.landed e.2 (e.1.exit call.mode))
        ((e.1.reports call.mode).map (.logged call.gen) ++ [.ended call.gen e.1]) w
        (landClosed call e w).2 := by
  obtain ⟨outcome, becomes⟩ := land_becomes found running e
  obtain ⟨ending, body⟩ := e
  have phase := becomes.phaseOf
  unfold landClosed
  rcases hl : land call (ending, body) w with ⟨o, v⟩
  rw [hl] at outcome becomes phase
  obtain rfl : o = ending.outcome := outcome
  rw [closing]
  cases ending with
  | yielded x =>
    have hne : v.phaseOf call.gen ≠ .closed := by rw [phase]; nofun
    simp only [Ending.outcome, if_neg hne]
    exact ⟨rfl, (becomes.record (.logged call.gen .forceClose)).modify .shut⟩
  | returned x => simpa only [Ending.outcome, phase] using ⟨rfl, becomes⟩
  | raised x => simpa only [Ending.outcome, phase] using ⟨rfl, becomes⟩
  | panicked p => exact ⟨rfl, becomes⟩

end Landing

/-- The end of the innermost step, whose generator is running. -/
structure Lands (pd : Pending σ) (e : σ.StepEnd) (gen : Gen σ) (w w' : World σ) : Prop where
  gen? : ∀ g, w'.gen? g =
    if pd.call.gen = g then some (gen.landed e.2 (e.1.exit pd.call.mode)) else w.gen? g
  history : ∃ a, w'.history = .answered pd.request a ::
    ((pd.request.reports e.1 ++ e.1.reports pd.call.mode).map (.logged pd.call.gen) ++
      .ended pd.call.gen e.1 :: w.history)
  nextKey : w'.slots.nextKey = w.slots.nextKey
  cursor? : ∀ c, pd.request.cursor? ≠ some c → w'.cursor? c = w.cursor? c
  /-- The iterator of the request is idle again, or gone. -/
  idle : ∀ c, pd.request.cursor? = some c → ¬ w'.Busy c

section Lands

variable {w v v' : World σ} {pd : Pending σ} {e : σ.StepEnd} {gen : Gen σ}

/-- What a request does besides landing is to report and to put its iterator back. -/
theorem lands_of_becomes
    (becomes : Becomes pd.call.gen (gen.landed e.2 (e.1.exit pd.call.mode))
      ((e.1.reports pd.call.mode).map (.logged pd.call.gen) ++ [.ended pd.call.gen e.1]) w v)
    (alike : Alike v v')
    (history : v'.history = (pd.request.reports e.1).map (.logged pd.call.gen) ++ v.history)
    (cursors : ∀ c, pd.request.cursor? ≠ some c → v'.cursor? c = v.cursor? c)
    (idle : ∀ c, pd.request.cursor? = some c → ¬ v'.Busy c) (a : pd.request.Reply) :
    Lands pd e gen w (v'.record (.answered pd.request a)) where
  gen? g := (alike.gen? g).trans (becomes.gen? g)
  history := ⟨a, by simp [history, becomes.history]⟩
  nextKey := alike.nextKey.trans becomes.nextKey
  cursor? c hc := (cursors c hc).trans (becomes.cursor? c)
  idle := idle

theorem history_dispose {c : CursorId} {o : Outcome (σ.Answer (StepResult σ.Value))} :
    (dispose c (o.map (·.map fun _ => ()), v)).2.history =
      match o with
      | .returned (.error _) => .logged c.gen .closeFailed :: v.history
      | _ => v.history := by
  rcases o with (_ | _) | _ | _ <;> rfl

theorem cursor?_dispose {c d : CursorId} (hd : c ≠ d) (x : Outcome (σ.Answer Unit) × World σ) :
    (dispose c x).2.cursor? d = x.2.cursor? d := by
  obtain ⟨o, w⟩ := x
  rcases o with (_ | _) | _ | _ <;> simp [dispose, cursor?_eraseCursor, hd]

/-- **The end of a step takes its generator out of the step.** -/
theorem lands_conclude (found : w.gen? pd.call.gen = some gen) (running : gen.phase = .running)
    (target : pd.request.target = pd.call.gen) (mode : pd.request.mode = pd.call.mode)
    (e : σ.StepEnd) : Lands pd e gen w (pd.conclude e w).2 := by
  obtain ⟨r, call⟩ := pd
  have resumed (h : r.mode ≠ .close) := landResumed_becomes found running (mode ▸ h) e
  have closed (h : r.mode = .close) := landClosed_becomes found running (mode ▸ h) e
  cases r with
  | next g x => exact lands_of_becomes (resumed nofun) .refl rfl (fun _ _ => rfl) nofun _
  | throw g x => exact lands_of_becomes (resumed nofun) .refl rfl (fun _ _ => rfl) nofun _
  | close g => exact lands_of_becomes (closed rfl).2 .refl rfl (fun _ _ => rfl) nofun _
  | advance c =>
    refine lands_of_becomes (resumed nofun) (alike_tell _) rfl ?_ ?_ _
    · intro d hd
      have hne : c ≠ d := fun h => hd (h ▸ rfl)
      simp [tell, cursor?_modifyCursor, hne]
    · intro d hd busy
      cases hd
      exact ((busy_tell _).mp busy).1 rfl
  | discard c =>
    obtain ⟨outcome, becomes⟩ := closed rfl
    refine lands_of_becomes becomes (alike_dispose _) ?_ ?_ ?_ _
    · have gen : c.gen = call.gen := target
      rcases hl : landClosed call e w with ⟨o, v⟩
      rw [hl] at outcome
      obtain rfl : o = _ := outcome
      obtain ⟨_ | _ | _ | _, _⟩ := e <;>
        simp [history_dispose, Ending.outcome, Request.reports, gen]
    · intro d hd
      have hne : c ≠ d := fun h => hd (h ▸ rfl)
      exact cursor?_dispose hne _
    · intro d hd busy
      cases hd
      exact ((busy_dispose _).mp busy).1 rfl

/-- A panic of the step is the reply to the request. -/
theorem reply_conclude_panicked (pd : Pending σ) (p : Panic) (body : σ.Body) :
    (pd.conclude (.panicked p, body) w).1 = pd.request.panicked p := by
  obtain ⟨r, call⟩ := pd
  cases r <;> rfl

/-- What a step reports belongs to the course of its generator. -/
theorem owner?_of_mem_reports {mode : Mode} {x : Event σ}
    (hx : x ∈ (e.1.reports mode).map (.logged pd.call.gen)) : x.owner? = some pd.call.gen := by
  obtain ⟨r, hr, rfl⟩ := List.mem_map.mp hx
  obtain ⟨_ | _ | _ | _, _⟩ := e <;> cases mode <;>
    simp_all [Ending.reports, Ending.record?, Ending.phase] <;> rcases hr with rfl | rfl <;> rfl

/-- What the request reports does not. -/
theorem owner?_of_mem_request_reports {x : Event σ}
    (hx : x ∈ (pd.request.reports e.1).map (.logged pd.call.gen)) : x.owner? = none := by
  obtain ⟨r, hr, rfl⟩ := List.mem_map.mp hx
  obtain ⟨_ | _ | _ | _ | _, _⟩ := pd <;> obtain ⟨_ | _ | _ | _, _⟩ := e <;>
    simp_all [Request.reports, Event.owner?]

theorem Lands.course {w' : World σ} (lands : Lands pd e gen w w') (g : GenId) :
    w'.course g =
      if pd.call.gen = g then
        (e.1.reports pd.call.mode).map (.logged g) ++ .ended g e.1 :: w.course g
      else w.course g := by
  obtain ⟨a, history⟩ := lands.history
  have silent : ((pd.request.reports e.1).map (.logged pd.call.gen)).filter
      (fun x : Event σ => x.owner? = some g) = [] := by
    apply List.filter_eq_nil_iff.mpr
    intro x hx
    simp [owner?_of_mem_request_reports hx]
  by_cases he : pd.call.gen = g
  · subst he
    have own : ((e.1.reports pd.call.mode).map (.logged pd.call.gen)).filter
        (fun x : Event σ => x.owner? = some pd.call.gen) =
          (e.1.reports pd.call.mode).map (.logged pd.call.gen) :=
      List.filter_eq_self.mpr fun x hx => by simp [owner?_of_mem_reports hx]
    simp only [World.course, history, List.map_append, List.append_assoc, List.filter_cons,
      List.filter_append, silent, own]
    simp [Event.owner?]
  · have other : ((e.1.reports pd.call.mode).map (.logged pd.call.gen)).filter
        (fun x : Event σ => x.owner? = some g) = [] :=
      List.filter_eq_nil_iff.mpr fun x hx => by simp [owner?_of_mem_reports hx, he]
    simp only [World.course, history, List.map_append, List.append_assoc, List.filter_cons,
      List.filter_append, silent, other]
    simp [Event.owner?, he]

theorem Lands.self {w' : World σ} (lands : Lands pd e gen w w') :
    w'.gen? pd.call.gen = some (gen.landed e.2 (e.1.exit pd.call.mode)) := by
  rw [lands.gen?, if_pos rfl]

theorem Lands.of_ne {w' : World σ} (lands : Lands pd e gen w w') {g : GenId}
    (hg : pd.call.gen ≠ g) : w'.gen? g = w.gen? g ∧ w'.course g = w.course g := by
  rw [lands.gen?, lands.course, if_neg hg, if_neg hg]
  exact ⟨rfl, rfl⟩

end Lands

end World

end Resumable
