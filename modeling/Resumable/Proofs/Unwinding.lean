import Resumable.Proofs.Closed

/-!
# Unwinding

A panic ends the innermost step, and then every step whose body passes it on, until a program goes
on with something else (`Caught`).  A body that drove the step through an iterator of its own drops
that iterator on the way.  `Caught.leads` follows the panic by induction on the steps that it
unwinds: each leaves its generator closed with the body at home, and nothing else happens
(`World.Unwound`).  `unwinding_of_panic` adds that the steps around are not affected and come to an
end of their own.
-/

namespace Resumable

variable {σ : Signature} {α β : Type}

/-! ## Catching a panic -/

/-- What the program that asked for a step goes on with after a panic of the step: at once, or when
it has dropped the iterator through which it drove the step. -/
inductive Frame.Resumes (f : Frame σ β) (p : Panic) (q : Program σ β) : Prop
  | atOnce (goesOn : f.resume (f.request.panicked p) = q)
  | dropping {c : CursorId} (advancing : f.request = .advance c)
      {k : (Command.request (.discard c) : Command σ).Reply → Program σ β}
      (drops : f.resume (f.request.panicked p) = .issue (.request (.discard c)) k)
      (goesOn : k (.returned ()) = q)

/-- A panic of the innermost step unwinds steps, innermost first, and is caught where the run goes
on from a moment. -/
inductive Caught (p : Panic) : Stack σ α → List (Pending σ) → (World σ → Moment σ α) → Prop
  /-- The top level catches it. -/
  | atTop {f : Frame σ α} {q : Program σ α} (resumes : f.Resumes p q) :
      Caught p (.base f) [f.toPending] (.atTop q)
  /-- The body around catches it. -/
  | inStep {f : Frame σ σ.StepEnd} {st : Stack σ α} {q : Program σ σ.StepEnd}
      (resumes : f.Resumes p q) : Caught p (.push f st) [f.toPending] (.inStep st q)
  /-- The body around passes it on. -/
  | passedOn {f : Frame σ σ.StepEnd} {st : Stack σ α} {us : List (Pending σ)}
      {m : World σ → Moment σ α} {body : σ.Body}
      (resumes : f.Resumes p (.done (.panicked p, body))) (caught : Caught p st us m) :
      Caught p (.push f st) (f.toPending :: us) m

namespace Caught

variable {p : Panic} {st : Stack σ α} {us : List (Pending σ)} {m : World σ → Moment σ α}

theorem pending (caught : Caught p st us m) (w : World σ) : st.pending = us ++ (m w).pending := by
  induction caught with
  | atTop => rfl
  | inStep => rfl
  | passedOn _ _ ih => exact congrArg (_ :: ·) ih

theorem world (caught : Caught p st us m) (w : World σ) : (m w).world = w := by
  induction caught with
  | atTop => rfl
  | inStep => rfl
  | passedOn _ _ ih => exact ih

end Caught

/-! ## What unwinding does -/

/-- Steps have been unwound, and nothing else has happened. -/
structure World.Unwound (p : Panic) (us : List (Pending σ)) (w w' : World σ) : Prop where
  closed : ∀ pd ∈ us, ∃ gen, w'.gen? pd.call.gen = some gen ∧ gen.phase = .closed ∧
    gen.newborn = false ∧ gen.loan = .shared 0
  course : ∀ pd ∈ us, ∃ es, w'.course pd.call.gen =
    .ended pd.call.gen (.panicked p) :: .began pd.call.gen pd.call.input pd.call.mode :: es
  others : ∀ g, (∀ pd ∈ us, pd.call.gen ≠ g) → w'.gen? g = w.gen? g
  history : ∃ es, w'.history = es ++ w.history ∧ ∀ e ∈ es,
    (∃ pd ∈ us, e = .ended pd.call.gen (.panicked p)) ∨ ∃ r a, e = .answered r a

namespace World

variable {p : Panic} {pd : Pending σ} {ps us : List (Pending σ)} {w w₁ w' : World σ} {g : GenId}

/-- The courses of the other generators do not go on. -/
theorem Unwound.course_of_ne (unwound : Unwound p us w w') (other : ∀ pd ∈ us, pd.call.gen ≠ g) :
    w'.course g = w.course g := by
  obtain ⟨es, history, events⟩ := unwound.history
  rw [course_append history, List.filter_eq_nil_iff.mpr, List.nil_append]
  intro e he
  rcases events e he with ⟨pd, hpd, rfl⟩ | ⟨r, a, rfl⟩
  · simp [Event.owner?, other pd hpd]
  · simp [Event.owner?]

/-- An answer on the way changes nothing. -/
theorem Unwound.answered (unwound : Unwound p us w w₁) {r : Request σ} {a : r.Reply}
    (gen? : ∀ g, w'.gen? g = w₁.gen? g) (history : w'.history = .answered r a :: w₁.history) :
    Unwound p us w w' := by
  have course (g : GenId) : w'.course g = w₁.course g := by
    rw [course_append (show w'.history = [.answered r a] ++ w₁.history from history)]
    rfl
  refine ⟨?_, ?_, ?_, ?_⟩
  · intro pd hpd
    rw [gen?]
    exact unwound.closed pd hpd
  · intro pd hpd
    rw [course]
    exact unwound.course pd hpd
  · intro g other
    rw [gen?]
    exact unwound.others g other
  · obtain ⟨es, history₁, events⟩ := unwound.history
    refine ⟨.answered r a :: es, by rw [history, history₁]; rfl, ?_⟩
    intro e he
    rcases List.mem_cons.mp he with rfl | he
    · exact .inr ⟨r, a, rfl⟩
    · exact events e he

/-- Unwinding one step and then the ones around it. -/
theorem Unwound.cons (first : Unwound p [pd] w w₁) (rest : Unwound p us w₁ w')
    (fresh : ∀ pd' ∈ us, pd'.call.gen ≠ pd.call.gen) : Unwound p (pd :: us) w w' := by
  refine ⟨?_, ?_, ?_, ?_⟩
  · intro pd' hpd
    rcases List.mem_cons.mp hpd with rfl | hpd
    · rw [rest.others _ fresh]
      exact first.closed _ List.mem_cons_self
    · exact rest.closed pd' hpd
  · intro pd' hpd
    rcases List.mem_cons.mp hpd with rfl | hpd
    · rw [rest.course_of_ne fresh]
      exact first.course _ List.mem_cons_self
    · exact rest.course pd' hpd
  · intro g other
    obtain ⟨self, others⟩ := List.forall_mem_cons.mp other
    rw [rest.others g others]
    exact first.others g (List.forall_mem_singleton.mpr self)
  · obtain ⟨es, history, events⟩ := first.history
    obtain ⟨es', history', events'⟩ := rest.history
    refine ⟨es' ++ es, by rw [history', history, List.append_assoc], ?_⟩
    intro e he
    rcases List.mem_append.mp he with he | he
    · rcases events' e he with ⟨pd', hpd, rfl⟩ | answered
      · exact .inl ⟨pd', List.mem_cons_of_mem _ hpd, rfl⟩
      · exact .inr answered
    · rcases events e he with ⟨pd', hpd, rfl⟩ | answered
      · exact .inl ⟨pd', List.mem_cons.mpr (.inl (List.mem_singleton.mp hpd)), rfl⟩
      · exact .inr answered

/-- The end of a single step by a panic. -/
theorem unwound_conclude (coherent : Coherent (pd :: ps) w) (body : σ.Body) :
    Unwound p [pd] w (pd.conclude (.panicked p, body) w).2 := by
  obtain ⟨gen, found, running, lands⟩ := coherent.lands (.panicked p, body)
  obtain ⟨es, begun⟩ := (coherent.attends pd List.mem_cons_self).begun
  have course := (coherent.settled pd.call.gen gen found).course
  rw [running] at course
  have exit : (Ending.panicked p : Ending σ.Value σ.Thrown).exit pd.call.mode = .closed :=
    ite_self _
  have silent : (Ending.panicked p : Ending σ.Value σ.Thrown).reports pd.call.mode = [] := by
    simp [Ending.reports, Ending.phase, Ending.record?]
  have quiet : pd.request.reports (.panicked p) = [] := by
    cases pd.request <;> rfl
  refine ⟨List.forall_mem_singleton.mpr ?_, List.forall_mem_singleton.mpr ?_, ?_, ?_⟩
  · exact ⟨gen.landed body .closed, exit ▸ lands.self, rfl, course.started, rfl⟩
  · refine ⟨es, ?_⟩
    rw [lands.course, if_pos rfl, silent, begun]
    rfl
  · intro g other
    exact (lands.of_ne (other pd List.mem_cons_self)).1
  · obtain ⟨a, history⟩ := lands.history
    refine ⟨[.answered pd.request a, .ended pd.call.gen (.panicked p)], ?_, ?_⟩
    · rw [history, silent, quiet]
      rfl
    · intro e he
      rcases List.mem_cons.mp he with rfl | he
      · exact .inr ⟨_, _, rfl⟩
      · exact .inl ⟨pd, List.mem_cons_self, List.mem_singleton.mp he⟩

/-- An iterator through which a step was driven is still there after the step. -/
theorem cursor?_conclude_advance {c : CursorId} {cur : Cursor} {call : Call σ} {gen : Gen σ}
    (found : w.gen? call.gen = some gen) (running : gen.phase = .running)
    (resuming : call.mode ≠ .close) (hc : w.cursor? c = some cur) (e : σ.StepEnd) :
    ∃ cur', (Pending.conclude ⟨.advance c, call⟩ e w).2.cursor? c = some cur' := by
  have landed := (landResumed_becomes found running resuming e).cursor? c
  refine ⟨⟨(Cursor.report (landResumed call e w).1).1, false⟩, ?_⟩
  simp only [Pending.conclude, conclude, tell, cursor?_record, cursor?_modifyCursor, if_true,
    landed, hc, Option.map_some]

/-- The iterator through which a step was driven can be dropped after a panic of the step. -/
theorem discard_after_panic {c : CursorId} {call : Call σ}
    (coherent : Coherent (⟨.advance c, call⟩ :: ps) w) (p : Panic) (body : σ.Body) :
    let v := (Pending.conclude ⟨.advance c, call⟩ (.panicked p, body) w).2
    v.AnsweredAtOnce (.discard c) (.returned ()) ∧
      ∃ gen, v.gen? c.gen = some gen ∧ gen.phase = .closed := by
  intro v
  obtain ⟨target, mode, ⟨gen, found, running, -⟩, -⟩ := coherent.attends _ List.mem_cons_self
  obtain ⟨cur, hc, -⟩ := (coherent.busy c).mpr ⟨_, List.mem_cons_self, rfl⟩
  obtain ⟨gen', found', closed, -⟩ :=
    (unwound_conclude (p := p) coherent body).closed _ List.mem_cons_self
  have resuming : call.mode ≠ .close := fun h => nomatch mode.trans h
  obtain ⟨cur', hc'⟩ := cursor?_conclude_advance found running resuming hc (.panicked p, body)
  rw [← target] at found'
  have landed : Coherent ps v := coherent.leave (.panicked p, body)
  have idle : cur'.busy = false :=
    Bool.eq_false_iff.mpr fun hb => landed.not_busy_of_closed found' closed ⟨cur', hc', hb⟩
  exact ⟨discard_of_closed found' closed hc' idle, gen', found', closed⟩

end World

section Runs

variable {engine : Engine σ} {limit : Nat}

/-- A panic gets past one step, and past the iterator that drove it. -/
theorem leads_resumes (here : Program σ β → World σ → Moment σ α)
    (under : Frame σ β → Stack σ α)
    (hnext : ∀ c k w, (here (.issue c k) w).next? engine limit =
      some (.react engine limit here under (w.react c k)))
    (hleave : ∀ f e w,
      (under f).leave e w = here (f.resume (f.conclude e w).1) (f.conclude e w).2)
    {f : Frame σ β} {p : Panic} {q : Program σ β} {ps : List (Pending σ)} {w : World σ}
    (resumes : f.Resumes p q) (coherent : Coherent (f.toPending :: ps) w) (body : σ.Body) :
    ∃ w', Leads engine limit (.inStep (under f) (.done (.panicked p, body)) w) (here q w') ∧
      w.Unwound p [f.toPending] w' ∧ Coherent ps w' := by
  have unwound := World.unwound_conclude (p := p) coherent body
  have landed := coherent.leave (.panicked p, body)
  have left : Leads engine limit (.inStep (under f) (.done (.panicked p, body)) w)
      (here (f.resume (f.request.panicked p)) (f.conclude (.panicked p, body) w).2) := by
    rw [← World.reply_conclude_panicked f.toPending p body, ← hleave]
    exact .head rfl .refl
  cases resumes with
  | atOnce goesOn => exact ⟨_, goesOn ▸ left, unwound, landed⟩
  | @dropping c advancing k drops goesOn =>
    obtain ⟨⟨r, call⟩, resume⟩ := f
    obtain rfl : r = .advance c := advancing
    obtain ⟨dropped, gen, found, closed⟩ := World.discard_after_panic coherent p body
    rw [drops] at left
    generalize (Pending.conclude ⟨.advance c, call⟩ (.panicked p, body) w).2 = v
      at unwound landed left dropped found
    have next := hnext (.request (.discard c)) k v
    have move := move_of_react ps v (.request (.discard c)) k
    rw [dropped.react found closed k, goesOn] at next move
    exact ⟨_, left.trans (.head next .refl),
      unwound.answered (dropped.gen? _) (dropped.history _), landed.move move⟩

variable (engine limit) in
/-- **A panic unwinds steps up to where it is caught, and does nothing else.** -/
theorem Caught.leads {p : Panic} {st : Stack σ α} {us : List (Pending σ)}
    {m : World σ → Moment σ α} (caught : Caught p st us m) {w : World σ}
    (coherent : Coherent st.pending w) (body : σ.Body) :
    ∃ w', Leads engine limit (.inStep st (.done (.panicked p, body)) w) (m w') ∧
      w.Unwound p us w' := by
  induction caught generalizing w body with
  | atTop resumes =>
    obtain ⟨w', leads, unwound, -⟩ := leads_resumes .atTop .base (fun _ _ _ => rfl)
      (fun _ _ _ => rfl) resumes coherent body
    exact ⟨w', leads, unwound⟩
  | @inStep f st q resumes =>
    obtain ⟨w', leads, unwound, -⟩ := leads_resumes (.inStep st) (.push · st) (fun _ _ _ => rfl)
      (fun _ _ _ => rfl) resumes coherent body
    exact ⟨w', leads, unwound⟩
  | @passedOn f st us m body' resumes caught ih =>
    obtain ⟨w₁, first, unwound, coherent'⟩ := leads_resumes (.inStep st) (.push · st)
      (fun _ _ _ => rfl) (fun _ _ _ => rfl) resumes coherent body
    obtain ⟨w', rest, unwound'⟩ := ih coherent' body'
    refine ⟨w', first.trans rest, unwound.cons unwound' ?_⟩
    -- the steps around are of other generators, so they leave this one as the panic left it
    intro pd hpd
    have mem : pd ∈ st.pending := by
      rw [caught.pending w]
      exact List.mem_append_left _ hpd
    exact (coherent.distinct mem).symm

/-! ## The steps around -/

variable (engine limit) in
/-- A step comes to an end later in the run and leaves its generator as it ends. -/
def Moment.Completes (m : Moment σ α) (pd : Pending σ) : Prop :=
  ∃ st e w gen es, Leads engine limit m (.inStep st (.done e) w) ∧ st.pending.head? = some pd ∧
    (st.leave e w).world.gen? pd.call.gen = some gen ∧ gen.phase = e.1.exit pd.call.mode ∧
    (st.leave e w).world.course pd.call.gen =
      (e.1.reports pd.call.mode).map (.logged pd.call.gen) ++ .ended pd.call.gen e.1 ::
        .began pd.call.gen pd.call.input pd.call.mode :: es

theorem Moment.completes_of_done {m : Moment σ α} {st : Stack σ α} {e : σ.StepEnd} {w : World σ}
    {pd : Pending σ} {ps : List (Pending σ)} (leads : Leads engine limit m (.inStep st (.done e) w))
    (innermost : st.pending = pd :: ps) (coherent : Coherent st.pending w)
    (leave : (st.leave e w).world = (pd.conclude e w).2) : m.Completes engine limit pd := by
  rw [innermost] at coherent
  obtain ⟨gen, found, running, lands⟩ := coherent.lands e
  obtain ⟨es, begun⟩ := (coherent.attends pd List.mem_cons_self).begun
  refine ⟨st, e, w, gen.landed e.2 (e.1.exit pd.call.mode), es, leads, by rw [innermost]; rfl,
    leave ▸ lands.self, rfl, ?_⟩
  rw [leave, lands.course, if_pos rfl, begun]

theorem Moment.Completes.of_leads {m m' : Moment σ α} {pd : Pending σ}
    (h : Leads engine limit m m') (completes : m'.Completes engine limit pd) :
    m.Completes engine limit pd := by
  obtain ⟨st, e, w, gen, es, leads, rest⟩ := completes
  exact ⟨st, e, w, gen, es, h.trans leads, rest⟩

/-- **Every step in progress comes to an end of its own.** -/
theorem completes_of_mem_pending {st : Stack σ α} {q : Program σ σ.StepEnd} {w : World σ}
    {pd : Pending σ} (coherent : Coherent st.pending w) (hpd : pd ∈ st.pending) :
    (Moment.inStep st q w).Completes engine limit pd := by
  induction st generalizing q w with
  | base f =>
    obtain rfl := List.mem_singleton.mp hpd
    have ends := leads_run_inStep engine limit (.base f) q w
    exact Moment.completes_of_done ends rfl (ends.invariant Coherent.move coherent) rfl
  | push f st ih =>
    obtain ⟨e, w₁, ends⟩ : ∃ e w₁,
        Leads engine limit (.inStep (.push f st) q w) (.inStep (.push f st) (.done e) w₁) :=
      ⟨_, _, leads_run_inStep engine limit (.push f st) q w⟩
    rcases List.mem_cons.mp hpd with rfl | hpd
    · exact Moment.completes_of_done ends rfl (ends.invariant Coherent.move coherent) rfl
    · have left : Leads engine limit (.inStep (.push f st) q w)
          (.inStep st (f.resume (f.conclude e w₁).1) (f.conclude e w₁).2) :=
        ends.trans (.head rfl .refl)
      exact (ih (left.invariant Coherent.move coherent) hpd).of_leads left

variable (engine limit) in
theorem Moment.completes_of_mem {m : Moment σ α} {pd : Pending σ}
    (coherent : Coherent m.pending m.world) (hpd : pd ∈ m.pending) :
    m.Completes engine limit pd := by
  cases m with
  | atTop q w => cases hpd
  | inStep st q w => exact completes_of_mem_pending coherent hpd

/-- **A panic closes what it unwinds and touches nothing else.**  Wherever it is caught, at any
depth, the generators of the unwound steps are closed, not newborn, and free to be read, and nothing
was reported of these steps but that they began; the steps around are in progress still and end as
they end; no other generator has changed; and no step has begun and nothing was logged on the way.
-/
theorem unwinding_of_panic {q : Program σ α} {s : σ.Shared} {st : Stack σ α} {p : Panic}
    {body : σ.Body} {w : World σ} {us : List (Pending σ)} {m : World σ → Moment σ α}
    (h : Leads engine limit (.atTop q (.initial s)) (.inStep st (.done (.panicked p, body)) w))
    (caught : Caught p st us m) :
    ∃ w', Leads engine limit (.inStep st (.done (.panicked p, body)) w) (m w') ∧
      (m w').world = w' ∧ st.pending = us ++ (m w').pending ∧
      (∀ pd ∈ us,
        (∃ gen, w'.gen? pd.call.gen = some gen ∧ gen.phase = .closed ∧ gen.newborn = false ∧
          gen.loan = .shared 0) ∧
        (w'.hold pd.call.gen).1 = true ∧
        ∃ es, w'.course pd.call.gen = .ended pd.call.gen (.panicked p) ::
          .began pd.call.gen pd.call.input pd.call.mode :: es) ∧
      (∀ pd ∈ (m w').pending,
        (w'.look pd.call.gen).map (·.phase) = some .running ∧
        (m w').Completes engine limit pd) ∧
      (∀ g, (∀ pd ∈ us, pd.call.gen ≠ g) → w'.gen? g = w.gen? g) ∧
      ∃ es, w'.history = es ++ w.history ∧ ∀ e ∈ es,
        (∃ pd ∈ us, e = .ended pd.call.gen (.panicked p)) ∨ ∃ r a, e = .answered r a := by
  have coherent : Coherent st.pending w := coherent_of_leads h
  obtain ⟨w', leads, unwound⟩ := caught.leads engine limit coherent body
  have coherent' := leads.invariant Coherent.move coherent
  have world := caught.world w'
  refine ⟨w', leads, world, caught.pending w', ?_, ?_, unwound.others, unwound.history⟩
  · intro pd hpd
    refine ⟨unwound.closed pd hpd, ?_, unwound.course pd hpd⟩
    obtain ⟨gen, found, -, -, free⟩ := unwound.closed pd hpd
    simp [World.hold, found, Gen.hold?, free]
  · intro pd hpd
    constructor
    · rw [world] at coherent'
      exact (coherent'.look_eq_running_iff _).mpr (List.mem_map_of_mem hpd)
    · exact Moment.completes_of_mem engine limit coherent' hpd

end Runs

/-- Four steps inside each other: the first one catches panics, the second one drives the third one
through an iterator, and the innermost one is lost. -/
def nested : Stack errand Unit :=
  .push ⟨⟨.next 3 none, ⟨3, .modern, .panics, .value none, .next⟩⟩, Errand.passOn (.asks 3)⟩ <|
  .push ⟨⟨.advance ⟨2, 0⟩, ⟨2, .legacy, .asks 3, .value none, .next⟩⟩,
    Errand.dropAndPassOn (.draws 2) ⟨2, 0⟩⟩ <|
  .push ⟨⟨.next 1 none, ⟨1, .modern, .draws 2, .value none, .next⟩⟩,
    fun _ => .done (.yielded 2, .guards 1)⟩ <|
  .base ⟨⟨.next 0 none, ⟨0, .legacy, .guards 1, .value none, .next⟩⟩, fun _ => .done ()⟩

/-- The moment at which the innermost step is lost. -/
def lost : Moment errand Unit :=
  (Moment.atTop (.spawnAll [(.legacy, .guards 1), (.modern, .draws 2), (.legacy, .asks 3),
    (.modern, .panics)] (.resume 0)) (.initial ())).after errands 9 9

theorem unwinding_of_panic_nested :
    lost = .inStep nested (.done (.panicked (.body "lost"), .panics)) lost.world ∧
    ∃ m' : Moment errand Unit, Leads errands 9 lost m' ∧ m'.active = [0] ∧
      (∀ g ∈ [3, 2, 1], ∃ gen, m'.world.gen? g = some gen ∧ gen.phase = .closed) ∧
      (m'.world.look 0).map (·.phase) = some .running := by
  have innermost : lost = .inStep nested (.done (.panicked (.body "lost"), .panics)) lost.world :=
    rfl
  have reached : Leads errands 9 (.atTop _ (.initial ())) lost := .after 9
  have caught : Caught (.body "lost") nested (nested.pending.take 3) (.inStep (.base
      ⟨⟨.next 0 none, ⟨0, .legacy, .guards 1, .value none, .next⟩⟩, fun _ => .done ()⟩)
        (.done (.yielded 2, .guards 1))) :=
    .passedOn (.atOnce rfl) (.passedOn (.dropping rfl rfl rfl) (.inStep (.atOnce rfl)))
  obtain ⟨w', leads, world, pending, unwound, outer, -⟩ :=
    unwinding_of_panic (innermost ▸ reached) caught
  refine ⟨innermost, _, innermost ▸ leads, rfl, ?_, ?_⟩
  · intro g hg
    rw [world]
    obtain ⟨pd, hpd, rfl⟩ : ∃ pd ∈ nested.pending.take 3, pd.call.gen = g := by
      simpa [nested, Stack.pending, eq_comm] using hg
    obtain ⟨⟨gen, found, closed, -⟩, -⟩ := unwound pd hpd
    exact ⟨gen, found, closed⟩
  · rw [world]
    exact (outer _ List.mem_cons_self).1

end Resumable
