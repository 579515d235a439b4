import Resumable.Proofs.Answers

/-!
# Programs inside a region

A region of a world is a set of generators, with a part of the shared state, and with the bodies,
values and errors that refer to nothing outside.  A program keeps to a region (`Program.Within`) if
it issues commands on members alone and with arguments of the region, as long as the replies are of
the region, neither makes nor consumes generators, and leaves the other part of the shared state as
it finds it.  Such a program goes on in the same way whatever there is outside, so the notion is
about two copies of it, run side by side in worlds that differ there (`Program.Abreast`).  All the
operations on a member are programs of this kind, calls on a receiver among them whose target is a
member.
-/

namespace Resumable

variable {σ : Signature} {A B α β : Type}

/-! ## Regions -/

/-- What never changes about a generator: its engine and its flavor. -/
abbrev Signature.Tag (σ : Signature) : Type :=
  σ.Kind × Flavor

def Gen.tag (gen : Gen σ) : σ.Tag :=
  (gen.kind, gen.flavor)

def View.tag (v : View σ) : σ.Tag :=
  (v.kind, v.flavor)

def World.tag? (w : World σ) (g : GenId) : Option σ.Tag :=
  (w.gen? g).map (·.tag)

/-- Some of the generators of a world, and what refers to no others. -/
structure Region (σ : Signature) (A B : Type) where
  inside : GenId → Prop
  /-- The tags that may be asked for, of whatever generators.  A host call on a receiver outside
  asks for one, to find that the receiver does not fit. -/
  known : GenId → Option σ.Tag
  /-- The bodies that a member may have. -/
  body : GenId → σ.Body → Prop
  value : σ.Value → Prop
  error : σ.Thrown → Prop
  /-- The part of the shared state that belongs to the region, and the rest of it. -/
  inner : σ.Shared → A
  outer : σ.Shared → B
  whole : ∀ {s s' : σ.Shared}, inner s = inner s' → outer s = outer s' → s = s'
  /-- What the part that belongs to the region may be. -/
  state : A → Prop

namespace Region

variable (R : Region σ A B)

/-- Whether a check for an engine and a flavor may be made of a generator. -/
def Admits (kind : σ.Kind) (expected : Flavor) (g : GenId) : Prop :=
  R.inside g ∨ ∃ t, R.known g = some t ∧ t ≠ (kind, expected)

/-! What comes in and goes out is of the region if the values and the errors that it carries are. -/

def Input : Input σ.Value σ.Thrown → Prop
  | .value v => ∀ x, v = some x → R.value x
  | .error e => R.error e
  | .empty => True

def Ending : Ending σ.Value σ.Thrown → Prop
  | .yielded v => R.value v
  | .returned v => R.value v
  | .raised e => R.error e
  | .panicked _ => True

def Fault (f : σ.Fault) : Prop :=
  ∀ e, f.raised? = some e → R.error e

def Completed : Outcome (σ.Answer (Completion σ.Value)) → Prop
  | .returned (.ok c) => ∀ v, c.value? = some v → R.value v
  | .returned (.error f) => R.Fault f
  | _ => True

/-- Requests to members, with arguments of the region. -/
def Asks (r : Request σ) : Prop :=
  R.inside r.target ∧
    match r with
    | .next _ v => R.Input (.value v)
    | .throw _ e => R.error e
    | _ => True

def Reply : (r : Request σ) → r.Reply → Prop
  | .next _ _, a => R.Completed a
  | .throw _ _, a => R.Completed a
  | .close _, (a : Outcome (σ.Answer Unit)) => ∀ f, a = .returned (.error f) → R.Fault f
  | .advance _, (a : Outcome (Option σ.Item)) =>
    (∀ v, a = .returned (some (.ok v)) → R.value v) ∧
      ∀ f, a = .returned (some (.error f)) → R.Fault f
  | .discard _, _ => True

/-- Commands that stay in the region. -/
def Issues : Command σ → Prop
  | .request r => R.Asks r
  | .iterate g => R.inside g
  | .watch c => R.inside c.gen
  | .look g => R.inside g
  | .hold g => R.inside g
  | .release g => R.inside g
  | .announce g _ _ => R.inside g
  | .note _ => True
  | _ => False

/-- Replies that come from inside. -/
def Gets : (c : Command σ) → c.Reply → Prop
  | .request r, a => R.Reply r a
  | .iterate g, (a : Option CursorId) => ∀ c, a = some c → c.gen = g
  | .look g, (a : Option (View σ)) => ∀ v b, a = some v → v.body = some b → R.body g b
  | _, _ => True

end Region

/-! ## Replies of members -/

/-- What holds of an answer at the gates, and of a step that is about to run. -/
def Passage.All {ρ : Type} (P : ρ → Prop) (Q : Call σ → Prop) : Passage σ ρ → Prop
  | .answered a _ => P a
  | .stepping call _ => Q call

theorem Passage.All.map {ρ ρ' : Type} {P : ρ → Prop} {P' : ρ' → Prop} {Q : Call σ → Prop}
    {x : Passage σ ρ} (all : x.All P Q) {f : ρ × World σ → ρ' × World σ}
    (carries : ∀ a w, P a → P' (f (a, w)).1) : (x.map f).All P' Q := by
  cases x with
  | answered a w => exact carries a w all
  | stepping call w => exact all

namespace Region

variable {R : Region σ A B} {w : World σ} {g : GenId} {gen : Gen σ} {c : CursorId}

theorem all_depart {P : Outcome α → Prop} {input : Resumable.Input σ.Value σ.Thrown} {mode : Mode}
    (fair : R.Input input) (panics : P (.panicked .bodyHeld)) :
    (World.depart g gen input mode w).All P fun call => R.Input call.input := by
  unfold World.depart
  split
  · exact fair
  · exact panics

theorem all_gateNext {v : Option σ.Value} (fair : R.Input (.value v)) :
    (w.gateNext g v).All R.Completed fun call => R.Input call.input := by
  unfold World.gateNext
  cases w.gen? g with
  | none => trivial
  | some gen =>
    dsimp only
    cases gen.phase with
    | suspended => exact all_depart fair trivial
    | running => exact nofun
    | closed =>
      cases gen.flavor with
      | modern => exact nofun
      | legacy => exact nofun

theorem all_gateThrow {e : σ.Thrown} (fair : R.error e) :
    (w.gateThrow g e).All R.Completed fun call => R.Input call.input := by
  unfold World.gateThrow
  cases w.gen? g with
  | none => trivial
  | some gen =>
    dsimp only
    cases gen.phase with
    | suspended => exact all_depart fair trivial
    | running => exact nofun
    | closed =>
      intro x hx
      cases hx
      exact fair

theorem all_gateClose :
    (w.gateClose g).All (R.Reply (.close g)) fun call => R.Input call.input := by
  unfold World.gateClose
  cases w.gen? g with
  | none => exact nofun
  | some gen =>
    dsimp only
    cases gen.flavor with
    | modern =>
      rintro f ⟨⟩
      exact nofun
    | legacy =>
      cases gen.phase <;> cases gen.newborn
      case suspended.false => exact all_depart trivial nofun
      case running.false =>
        rintro f ⟨⟩
        exact nofun
      all_goals exact nofun

theorem reply_report {a : Outcome (σ.Answer (Completion σ.Value))} (fair : R.Completed a) :
    R.Reply (.advance c) (Cursor.report a).2 := by
  rcases a with (f | ⟨⟨v, _ | _⟩⟩ | v) | p | r
  · cases f with
    | finished => exact ⟨nofun, nofun⟩
    | _ =>
      refine ⟨nofun, ?_⟩
      rintro f ⟨⟩
      exact fair
  · cases v with
    | none => exact ⟨nofun, nofun⟩
    | some v =>
      refine ⟨?_, nofun⟩
      rintro v ⟨⟩
      exact fair v rfl
  · exact ⟨nofun, nofun⟩
  · refine ⟨?_, nofun⟩
    rintro v ⟨⟩
    exact fair v rfl
  · exact ⟨nofun, nofun⟩
  · exact ⟨nofun, nofun⟩

theorem all_gateAdvance :
    (w.gateAdvance c).All (R.Reply (.advance c)) fun call => R.Input call.input := by
  by_cases unused : w.cursor? c = some ⟨false, false⟩
  · rw [World.gateAdvance_of_unused unused]
    have nothing : R.Input (.value none) := fun x hx => nomatch hx
    exact (all_gateNext nothing).map fun a v fair => reply_report fair
  · rw [World.gateAdvance_of_used unused]
    unfold World.advanceUsed
    rcases w.cursor? c with _ | ⟨_, _ | _⟩ <;> exact ⟨nofun, nofun⟩

theorem all_gateDiscard :
    (w.gateDiscard c).All (R.Reply (.discard c)) fun call => R.Input call.input := by
  unfold World.gateDiscard
  split
  · split
    · trivial
    split
    · trivial
    dsimp only
    split
    · trivial
    · exact all_gateClose.map fun a v fair => trivial
  · trivial

/-- **What the gates let through is of the region, and so is what they answer.** -/
theorem all_gate {r : Request σ} (asks : R.Asks r) :
    (w.gate r).All (R.Reply r) fun call => R.Input call.input := by
  cases r with
  | next g v => exact all_gateNext asks.2
  | throw g e => exact all_gateThrow asks.2
  | close g => exact all_gateClose
  | advance c => exact all_gateAdvance
  | discard c => exact all_gateDiscard

/-- **After a step that ended in the region, the answer is of the region.** -/
theorem reply_of_ending {r : Request σ} {f : Flavor} {e : Resumable.Ending σ.Value σ.Thrown}
    (fair : R.Ending e) : R.Reply r (r.reply f e) := by
  have completed : R.Completed (e.outcome.map (·.map (·.complete f))) := by
    cases e with
    | yielded v | returned v =>
      intro x hx
      simp only [StepResult.value?_complete] at hx
      cases hx
      exact fair
    | raised e =>
      rintro x ⟨⟩
      exact fair
    | panicked p => trivial
  cases r with
  | next g v => exact completed
  | throw g x => exact completed
  | close g =>
    intro x hx
    cases e <;> cases hx
    rintro y ⟨⟩
    exact fair
  | advance c => exact reply_report completed
  | discard c => trivial

end Region

/-! ## Programs inside a region -/

/-- Two programs that keep to a region and do the same there, whatever they find elsewhere.  They
may read the shared state, where they see their own part of it and the other part that is there, and
write their own part only. -/
inductive Program.Abreast (R : Region σ A B) (post : α → Prop) (o o' : B) :
    Program σ α → Program σ α → Prop
  | done {a : α} (ok : post a) : Abreast R post o o' (.done a) (.done a)
  | issue {c : Command σ} (issues : R.Issues c) {k k' : c.Reply → Program σ α}
      (goOn : ∀ a, R.Gets c a → Abreast R post o o' (k a) (k' a)) :
      Abreast R post o o' (.issue c k) (.issue c k')
  | ask {g : GenId} {t : σ.Tag} (known : R.known g = some t)
      {k k' : Option (View σ) → Program σ α}
      (goOn : ∀ v v', v.tag = t → v'.tag = t → Abreast R post o o' (k (some v)) (k' (some v'))) :
      Abreast R post o o' (.issue (.look g) k) (.issue (.look g) k')
  | read {k k' : σ.Shared → Program σ α}
      (goOn : ∀ s s', R.state (R.inner s) → R.inner s' = R.inner s → R.outer s = o →
        R.outer s' = o' → Abreast R post o o' (k s) (k' s')) :
      Abreast R post o o' (.issue .read k) (.issue .read k')
  | write {s s' : σ.Shared} (fair : R.state (R.inner s)) (same : R.inner s' = R.inner s)
      (keeps : R.outer s = o) (keeps' : R.outer s' = o') {k k' : Unit → Program σ α}
      (goOn : Abreast R post o o' (k ()) (k' ())) :
      Abreast R post o o' (.issue (.write s) k) (.issue (.write s') k')

theorem Program.Abreast.bind {R : Region σ A B} {post : α → Prop} {post' : β → Prop} {o o' : B}
    {p p' : Program σ α} (first : p.Abreast R post o o' p') {f f' : α → Program σ β}
    (second : ∀ a, post a → (f a).Abreast R post' o o' (f' a)) :
    (p.bind f).Abreast R post' o o' (p'.bind f') := by
  induction first with
  | done ok => exact second _ ok
  | issue issues _ ih => exact .issue issues ih
  | ask known _ ih => exact .ask known ih
  | read _ ih => exact .read ih
  | write fair same keeps keeps' _ ih => exact .write fair same keeps keeps' ih

/-- A program that keeps to a region: it does the same there whatever it finds elsewhere. -/
def Program.Within (R : Region σ A B) (post : α → Prop) (p : Program σ α) : Prop :=
  ∀ o o', p.Abreast R post o o' p

namespace Program.Within

variable {R : Region σ A B} {post : α → Prop} {post' : β → Prop}

theorem done {a : α} (ok : post a) : (Program.done a : Program σ α).Within R post :=
  fun _ _ => .done ok

theorem issue {c : Command σ} (issues : R.Issues c) {k : c.Reply → Program σ α}
    (goOn : ∀ a, R.Gets c a → (k a).Within R post) : (Program.issue c k).Within R post :=
  fun o o' => .issue issues fun a gets => goOn a gets o o'

theorem bind {p : Program σ α} (first : p.Within R post) {f : α → Program σ β}
    (second : ∀ a, post a → (f a).Within R post') : (p.bind f).Within R post' :=
  fun o o' => (first o o').bind fun a ok => second a ok o o'

theorem command {c : Command σ} (issues : R.Issues c) : (Program.command c).Within R (R.Gets c) :=
  .issue issues fun _ gets => .done gets

theorem invoke {g : GenId} (inside : R.inside g) {m : Method σ.Value σ.Thrown}
    (fair : R.Input m.input) : (Program.invoke g m).Within R fun _ => True := by
  rw [Program.invoke_eq]
  refine .issue ?_ fun _ _ => .done trivial
  cases m with
  | next v => exact ⟨inside, fair⟩
  | throw e => exact ⟨inside, fair⟩
  | close => exact ⟨inside, trivial⟩

/-- A check inside may go either way, and one outside fails. -/
theorem check {kind : σ.Kind} {expected : Flavor} {g : GenId} (admits : R.Admits kind expected g) :
    (Host.check kind expected g).Within R fun fits => fits = true → R.inside g := by
  rcases admits with inside | ⟨t, known, unfit⟩
  · refine .issue (c := .look g) inside ?_
    rintro (_ | v) -
    · exact .done nofun
    · exact .done fun _ => inside
  · refine fun o o' => .ask known ?_
    intro v v' hv hv'
    have fails (u : View σ) (hu : u.tag = t) : Host.fits kind expected u = false := by
      subst hu
      simpa [Host.fits, View.tag] using unfit
    simp only [Program.bind, fails v hv, fails v' hv']
    exact .done nofun

end Program.Within

/-- Receivers whose target is in a region: a member that fits, or whatever the realm finds a member
behind, if anything. -/
inductive Region.Reaches (R : Region σ A B) (kind : σ.Kind) (expected : Flavor)
    (unwrap : Object → Program σ (Option GenId)) : Object → Prop
  | itself {g : GenId} (inside : R.inside g) (fits : R.known g = some (kind, expected)) :
      Reaches R kind expected unwrap (.generator g)
  | behind {receiver : Object}
      (admits : ∀ g, receiver = .generator g → R.Admits kind expected g)
      (finds : (unwrap receiver).Within R fun found =>
        ∀ g, found = some g → R.Admits kind expected g) :
      Reaches R kind expected unwrap receiver

namespace Program.Within

variable {R : Region σ A B} {kind : σ.Kind} {expected : Flavor} {receiver : Object}
  {unwrap : Object → Program σ (Option GenId)} {m : Method σ.Value σ.Thrown}

theorem unwrapping (fair : R.Input m.input)
    (finds : (unwrap receiver).Within R fun found =>
      ∀ g, found = some g → R.Admits kind expected g) :
    (Host.unwrapping kind unwrap receiver expected m).Within R fun _ => True := by
  refine bind finds ?_
  rintro (_ | g) admits
  · exact .done trivial
  · refine bind (check (admits g rfl)) ?_
    rintro (_ | _) inside
    · exact .done trivial
    · exact bind (command (c := .announce g m.mode expected) (inside rfl)) fun _ _ =>
        invoke (inside rfl) fair

theorem call (fair : R.Input m.input) (reaches : R.Reaches kind expected unwrap receiver) :
    (Host.call kind receiver expected m (Host.unwrapping kind unwrap)).Within R fun _ => True := by
  cases reaches with
  | @itself g inside fits =>
    refine fun o o' => .ask fits ?_
    intro v v' hv hv'
    have passes (u : View σ) (hu : u.tag = (kind, expected)) :
        Host.fits kind expected u = true := by
      obtain ⟨hk, hf⟩ := Prod.mk.inj hu
      simp [Host.fits, hk, hf]
    simp only [Program.bind, pure, passes v hv, passes v' hv']
    exact invoke inside fair o o'
  | behind admits finds =>
    cases receiver with
    | generator g =>
      refine bind (check (admits g rfl)) ?_
      rintro (_ | _) inside
      · exact unwrapping fair finds
      · exact invoke (inside rfl) fair
    | _ => exact unwrapping fair finds

end Program.Within

end Resumable
