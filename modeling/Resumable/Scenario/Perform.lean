import Resumable.Scenario.Stage

/-!
# Performing operations

An operation of a plan becomes a program: what it names is looked up in the stock, what is wrong
with it is objected to in a fixed order, and then the generator, iterator or host surface does the
work.  A panic that comes out of that is caught here and becomes the result.
-/

namespace Resumable.Scenario

/-! ## Results -/

/-- The result of an operation on a generator that exists. -/
def Result.ofOutcome {α : Type} (result : α → Result) : Outcome α → Result
  | .returned a => result a
  | .panicked p => .panic p
  | .refused .gone => .objection .noSuchGenerator
  | .refused .inUse => .objection .generatorInUse

/-- The result of an operation on an iterator. -/
def Result.ofIteration {α : Type} (result : α → Result) : Outcome α → Result
  | .returned a => result a
  | .panicked p => .panic p
  | .refused .gone => .objection .noSuchIterator
  | .refused .inUse => .objection .iteratorInUse

def Result.ofAnswer {α : Type} (result : α → Result) : Except (Fault Datum) α → Result
  | .ok a => result a
  | .error f => .fault f

/-- The result of a method call, where undefined tells nothing. -/
def Result.ofCall : Option (Completion Datum) → Result
  | some c => .completion c
  | none => .done

/-! ## Operations on generators -/

def resumeNamed (g : GenId) (method : String) (v : Option Datum) (e : Datum) : Act Result := do
  match Mode.parse method with
  | .error unknown => return .unknownMode unknown
  | .ok mode => return .ofOutcome (.ofAnswer .ofCall) (← Program.invoke g (.ofMode mode v e))

def tell (g : GenId) : Act Result := do
  match ← Program.look g with
  | none => return .objection .noSuchGenerator
  | some v => return .generator ⟨v.phase, v.flavor, v.newborn, v.body.map Body.info⟩

/-- What any body may do with the generator it belongs to, and any operation with a generator of
the stock. -/
def useHandle (g : GenId) : GeneratorUse → Act Result
  | .next v => return .ofOutcome (.ofAnswer .completion) (← Program.next g v)
  | .throw e => return .ofOutcome (.ofAnswer .completion) (← Program.throw g e)
  | .close => return .ofOutcome (.ofAnswer fun _ => .done) (← Program.close g)
  | .resume method v e => resumeNamed g method v e
  | .info => tell g
  | .take n => return .ofOutcome (fun items => .drawn (items.map some)) (← Program.take g n)
  | .walk n => return .ofOutcome .drawn (← Program.walk g n)
  | _ => return .objection .unknownStep

/-- Consumes a generator, and fills its slot again as given. -/
def consumeAnd (g : GenId) (refill : EngineKind → Body → Act Unit) : Act Result := do
  match ← Program.consume g with
  | .error .gone => return .objection .noSuchGenerator
  | .error .inUse => return .objection .generatorInUse
  | .ok (kind, body) =>
    refill kind body
    return .body body.info

/-- Goes on with the generator in a slot, if there is one. -/
def withGenerator (slot : Nat) (use : GenId → Act Result) : Act Result := do
  match ← generatorIn? slot with
  | some g => use g
  | none => return .objection .noSuchGenerator

/-- Uses the generator in a slot of the stock.  Nobody reads the body of an empty slot, so there is
nothing to release there; a missing flavor is objected to before the slot is looked at. -/
def useSlot (slot : Nat) : GeneratorUse → Act Result
  | .iterate => withGenerator slot fun g => do
    match ← Program.iterate g with
    | none => return .objection .noSuchGenerator
    | some c => return .index (← addIterator c)
  | .hold => withGenerator slot fun g => return .flag (← Program.hold g)
  | .release => do
    match ← generatorIn? slot with
    | some g => return .flag (← Program.release g)
    | none => return .flag false
  | .consume => withGenerator slot fun g => consumeAnd g fun _ _ => dropGenerator slot
  | .rewrap none => return .objection .badFlavor
  | .rewrap (some flavor) => withGenerator slot fun g => consumeAnd g fun kind body => do
    replaceGenerator slot (← Program.spawn flavor kind body)
  | use => withGenerator slot fun g => useHandle g use

/-! ## Operations on iterators -/

/-- Uses a kept iterator that no operation is using. -/
def useIdle (index : Nat) (c : CursorId) : IteratorUse → Act Result
  | .next => return .ofIteration .item (← Program.advance c)
  | .drain n => return .ofIteration .drawn (← Program.drain c n)
  | .drop => do
    let outcome ← Program.discard c
    dropIterator index
    return .ofIteration (fun _ => .done) outcome

def useIterator (index : Nat) (c : CursorId) (use : IteratorUse) : Act Result := do
  match ← Program.watch c with
  | none => return .objection .noSuchIterator
  | some cursor =>
    if cursor.busy then return .objection .iteratorInUse
    else useIdle index c use

/-! ## Making generators -/

/-- Makes a generator and puts it into a new slot.  Its body is numbered by that slot. -/
def make (flavor : Flavor) (plan : BodyPlan) : Act Result := do
  let body := Body.ofPlan (← Program.read).generators.nextKey plan
  return .index (← addGenerator (← Program.spawn flavor body.engine body))

/-! ## Method calls from a host -/

/-- The receiver of a call, if every generator in it is there. -/
def receiver? : ReceiverPlan → Act (Option Object)
  | .generator slot => do
    return (← generatorIn? slot).map .generator
  | .wrapper slot => do
    return (← generatorIn? slot).map fun g => .wrapper (.generator g)
  | .doubleWrapper slot => do
    return (← generatorIn? slot).map fun g => .wrapper (.wrapper (.generator g))
  | .bag slots => do
    return ((← slots.mapM generatorIn?).mapM id).map .bag
  | .plain => return some .plain

/-- What a planned realm finds behind a receiver. -/
def unwrap : RealmPlan → Object → Act (Option GenId)
  | .wrapper, .wrapper (.generator g) => return some g
  | .doubleWrapper, .wrapper (.wrapper (.generator g)) => return some g
  | .self, .generator g => return some g
  | .bag index, .bag members => return members[index]?
  | .constant slot, _ => generatorIn? slot
  | _, _ => return none

def realm (engine : EngineKind) : RealmPlan → Realm stage
  | .noWrappers => Host.noWrappers
  | .record => fun _ expected m => do
    Program.note (.asked expected m.name)
    return .returned (.ok none)
  | plan => Host.unwrapping engine (unwrap plan)

/-- Calls a method on a receiver once everything that the call names is known. -/
def callMethod (c : HostCall) (receiver : Object) (r : Realm stage) (mode : Mode) : Act Result := do
  match c.short, mode, c.expected with
  | true, .close, _ =>
    return .ofOutcome (.ofAnswer fun _ => .done) (← Host.close c.engine receiver r)
  | _, _, none => return .objection .badFlavor
  | true, .next, some f =>
    return .ofOutcome (.ofAnswer .ofCall) (← Host.next c.engine receiver f c.value r)
  | true, .throw, some f =>
    return .ofOutcome (.ofAnswer .ofCall) (← Host.throw c.engine receiver f c.error r)
  | false, mode, some f =>
    let m := .ofMode mode c.value c.error
    return .ofOutcome (.ofAnswer .ofCall) (← Host.call c.engine receiver f m r)

/-- Performs a method call.  A missing receiver or realm is objected to first, then an unknown
method, then a missing flavor. -/
def performCall (c : HostCall) : Act Result := do
  let receiver ← match c.receiver with
    | some plan => receiver? plan
    | none => pure none
  match receiver, c.realm with
  | some receiver, some plan =>
    match Mode.parse c.method with
    | .error unknown => return .unknownMode unknown
    | .ok mode => callMethod c receiver (realm c.engine plan) mode
  | _, _ => return .objection .badReceiver

/-! ## All operations -/

/-- Performs an operation.  One that a body performs may leave out the generator it uses and then
uses the one that the body belongs to, if the body knows it. -/
def perform (handle : Option GenId) : Op → Act Result
  | .make (some flavor) (some plan) => make flavor plan
  | .make _ _ => return .objection .badGenerator
  | .call c => performCall c
  | .onIterator (some index) use => do
    match ← iteratorAt? index with
    | some c => useIterator index c use
    | none => return .objection .noSuchIterator
  | .onIterator none _ =>
    return .objection (if handle.isSome then .unknownStep else .noSuchGenerator)
  | .onGenerator (some slot) use => useSlot slot use
  | .onGenerator none use =>
    match handle with
    | some g => useHandle g use
    | none => return .objection .noSuchGenerator

end Resumable.Scenario
