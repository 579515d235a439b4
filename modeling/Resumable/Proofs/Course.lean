import Resumable.Program.Run

/-!
# The course of a generator

Of the events in the history some belong to the course of a single generator: that a step of it was
announced in the log, began, ended and was reported, that its body was found held, and that it was
closed without a step.  `World.course` lists them, newest first.

`Course` is the theory of a single generator, told by its events alone: it starts out suspended,
each step begins when it is suspended and leaves it suspended or closed, and once closed it has no
more events.  Whatever is true of a generator's steps over its whole life follows from `Course` by
induction, with no world and no program in sight.
-/

namespace Resumable

variable {σ : Signature}

/-! ## A generator's own events -/

/-- The generator whose course an event belongs to.  That a call was forwarded, and that an iterator
could not close its generator, are reports of others. -/
def Event.owner? : Event σ → Option GenId
  | .logged _ (.forward _ _) => none
  | .logged _ .closeFailed => none
  | .logged g _ => some g
  | .began g _ _ => some g
  | .ended g _ => some g
  | .conflict g => some g
  | .broke g _ => some g
  | _ => none

namespace World

/-- The events of a generator, newest first. -/
def course (w : World σ) (g : GenId) : List (Event σ) :=
  w.history.filter fun e => e.owner? = some g

theorem course_record (w : World σ) (e : Event σ) (g : GenId) :
    (w.record e).course g = if e.owner? = some g then e :: w.course g else w.course g := by
  simp [course, List.filter_cons]

@[simp] theorem course_modifyGen (w : World σ) (h : GenId) (f : Gen σ → Gen σ) (g : GenId) :
    (w.modifyGen h f).course g = w.course g := rfl

@[simp] theorem course_modifyCursor (w : World σ) (c : CursorId) (f : Cursor → Cursor)
    (g : GenId) : (w.modifyCursor c f).course g = w.course g := rfl

@[simp] theorem course_eraseCursor (w : World σ) (c : CursorId) (g : GenId) :
    (w.eraseCursor c).course g = w.course g := rfl

theorem mem_course {w : World σ} {e : Event σ} {g : GenId} (owner : e.owner? = some g) :
    e ∈ w.course g ↔ e ∈ w.history := by
  simp [course, owner]

theorem course_congr {w w' : World σ} (h : w'.history = w.history) (g : GenId) :
    w'.course g = w.course g := by
  unfold course
  rw [h]

theorem course_append {w w' : World σ} {es : List (Event σ)} (h : w'.history = es ++ w.history)
    (g : GenId) : w'.course g = (es.filter fun e => e.owner? = some g) ++ w.course g := by
  unfold course
  rw [h, List.filter_append]

end World

/-! ## Inputs and endings of steps -/

/-- The input that goes with a mode: a value, an error, or nothing. -/
def Input.Suits {V E : Type} : Input V E → Mode → Prop
  | .value _, .next => True
  | .error _, .throw => True
  | .empty, .close => True
  | _, _ => False

namespace Ending

variable {V E : Type}

/-- Where a step leaves its generator by itself. -/
def phase : Ending V E → Phase
  | .yielded _ => .suspended
  | _ => .closed

/-- Where a generator stands after a step in a mode: after a close it is closed however it went. -/
def exit (mode : Mode) (e : Ending V E) : Phase :=
  if mode = .close then .closed else e.phase

/-- The report that closes a step, if it came to an orderly end. -/
def record? : Ending V E → Option Record
  | .yielded _ => some (.stepDone .suspended)
  | .returned _ => some (.stepDone .closed)
  | .raised _ => some (.stepRaised .closed)
  | .panicked _ => none

/-- The reports after a step, newest first. -/
def reports (mode : Mode) (e : Ending V E) : List Record :=
  (if mode = .close ∧ e.phase = .suspended then [.forceClose] else []) ++ e.record?.toList

theorem phase_eq_suspended_iff {e : Ending V E} : e.phase = .suspended ↔ ∃ v, e = .yielded v := by
  cases e <;> simp [phase]

theorem exit_ne_running (mode : Mode) (e : Ending V E) : e.exit mode ≠ .running := by
  cases e <;> cases mode <;> simp [exit, phase]

end Ending

/-! ## Lawful courses -/

/-- The lawful courses of a generator of a given flavor, with the phase that they leave it in and
whether it is still newborn. -/
inductive Course (g : GenId) (f : Flavor) : Phase → Bool → List (Event σ) → Prop
  | fresh : Course g f .suspended (f = .legacy) []
  /-- A step is announced and begins.  Only a legacy generator that was stepped before is stepped to
  be closed. -/
  | enter {n : Bool} {es : List (Event σ)} (h : Course g f .suspended n es)
      {input : Input σ.Value σ.Thrown} {mode : Mode} (hi : input.Suits mode)
      (hc : mode = .close → f = .legacy ∧ n = false) :
      Course g f .running false (.began g input mode :: .logged g (.resume f mode) :: es)
  /-- A step ends and is reported. -/
  | leave {es : List (Event σ)} {input : Input σ.Value σ.Thrown} {mode : Mode}
      (h : Course g f .running false (.began g input mode :: es))
      (e : Ending σ.Value σ.Thrown) :
      Course g f (e.exit mode) false
        ((e.reports mode).map (.logged g) ++ .ended g e :: .began g input mode :: es)
  /-- A step is announced, but the body is held by readers. -/
  | stall {n : Bool} {es : List (Event σ)} (h : Course g f .suspended n es) (mode : Mode) :
      Course g f .closed false (.conflict g :: .logged g (.resume f mode) :: es)
  /-- A newborn generator is closed without a step. -/
  | shut {es : List (Event σ)} (h : Course g f .suspended true es) :
      Course g f .closed false (.logged g .closeNewborn :: es)

namespace Course

variable {g : GenId} {f : Flavor} {n : Bool} {ph : Phase} {es : List (Event σ)}

/-- A newborn generator is a legacy one to which nothing has happened. -/
theorem of_newborn (h : Course g f ph true es) : f = .legacy ∧ ph = .suspended ∧ es = [] := by
  generalize hn : true = n at h
  cases h with
  | fresh => exact ⟨by simpa using hn.symm, rfl, rfl⟩
  | _ => cases hn

/-- A generator that is running has been stepped. -/
theorem started (h : Course g f .running n es) : n = false := by
  cases n with
  | false => rfl
  | true => cases h.of_newborn.2.1

end Course

end Resumable
