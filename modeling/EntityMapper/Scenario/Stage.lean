import EntityMapper.Scenario.Step
/-! Stages: everything that a scenario works with, and how its steps are played. -/

namespace EntityMapper

/-- The state of a scenario. -/
structure Stage where
  gateway : Gateway Backing
  config : SessionConfig
  space : Workspace Backing
  sessions : List Session
  queue : ActionQueue := {}
  map : IdentityMap := .empty
  /-- The snapshots taken, each with the type of its instance. -/
  snapshots : List (EntityType × Snapshot) := []
  /-- The instances shown so far. -/
  shown : List Handle := []

abbrev Play (α : Type) := ExceptT Error (StateM Stage) α

namespace Stage

/-- A stage on a store, with one session open. -/
def ofBacking (catalogue : Catalogue) (config : SessionConfig) (b : Backing)
    (notice : Option Event) : Stage where
  gateway := ⟨Backing.connection notice, catalogue, config.showStatements⟩
  config := config
  space := { store := b }
  sessions := [{ config := config }]

def ofScript (catalogue : Catalogue) (config : SessionConfig) : Stage :=
  ofBacking catalogue config (.script {}) none

/-- A stage on a new database, made by given statements. -/
def ofSchema (catalogue : Catalogue) (config : SessionConfig) (sql : String) :
    Except Error Stage := do
  let link ← Sql.Link.open? {}
  match Sql.Database.engine.runAll sql link.database with
  | (.error e, _) => throw e
  | (.ok _, d) =>
    return ofBacking catalogue config (.link { link with database := d }) Backing.onLink.notice

def handleOf (s : Stage) (r : Ref) : Handle :=
  (s.shown[r]?).getD 0

def session (s : Stage) (index : Nat) : Session :=
  (s.sessions[index]?).getD {}

end Stage

namespace Play

def ofWork {α : Type} (x : Work Backing α) : Play α := fun s =>
  let (r, w) := x.run s.space
  (r, { s with space := w })

def ofOperation {α : Type} (index : Nat) (x : Operation Backing α) : Play α := fun s =>
  let (r, state) := x.run ⟨s.session index, s.space⟩
  (r, { s with sessions := s.sessions.set index state.session, space := state.space })

def gateway : Play (Gateway Backing) := do
  return (← get).gateway

def heap : Play Heap := do
  return (← get).space.heap

def instanceOf (r : Ref) : Play Instance := do
  let s ← get
  return s.space.heap.get (s.handleOf r)

/-- Shows an instance: under its old number, or else under a new one. -/
def display (h : Handle) : Play Shown := do
  let s ← get
  match s.shown.findIdx? (· == h) with
  | some r => return ⟨r, h⟩
  | none =>
    set { s with shown := s.shown ++ [h] }
    return ⟨s.shown.length, h⟩

def displayNew (i : Instance) : Play StepAnswer := do
  return .shown (← display (← ofWork (.share i)))

/-- Shares and shows an instance, if there is one. -/
def displayOption (i : Option Instance) : Play StepAnswer :=
  match i with
  | none => return .nothing
  | some i => displayNew i

def displayAll (is : List Instance) : Play StepAnswer := do
  return .allShown (← is.mapM fun i => do display (← ofWork (.share i)))

def build (d : Draft) : Play Instance := do
  let i ← d.values.foldlM (fun i (field, v) => i.setValue field v) (Instance.initial d.type)
  let i ← d.references.foldlM (fun i (field, r) => do
    return i.setReference field (some (← instanceOf r))) i
  return d.transients.foldl (fun i (field, text) => i.setTransient field text) i

/-- The action of a draft, on the entry of its instance as it is now. -/
def action (a : ActionDraft) : Play Action := do
  let s ← get
  let h := s.handleOf a.ref
  let entry := Entry.ofHandle s.space.heap h
  return match a.kind with
    | .persist => .persist h a.instant
    | .merge => .merge entry a.expected
    | .remove => .remove entry

def askList (list : Option Nat) : ListQuestion → Play StepAnswer
  | .isLoaded => do return .flag ((← get).space.listOf list).isLoaded
  | .len => do return .count (← ofWork ((← gateway).force list)).length
  | .isEmpty => do return .flag (← ofWork ((← gateway).force list)).isEmpty
  | .get index => do
    return .ofOption .sketch (← ofWork ((← gateway).force list))[index]?
  | .items => do return .sketches (← ofWork ((← gateway).force list))
  | .ids => do return .values ((← ofWork ((← gateway).force list)).map (·.idValue))

def sessionCall (index : Nat) (c : SessionCall) : Play StepAnswer := do
  match ← ofOperation index (c.run (← gateway)) with
  | .done => return .nothing
  | .count n => return .count n
  | .one h => return .shown (← display h)
  | .option none => return .nothing
  | .option (some h) => return .shown (← display h)
  | .all hs => return .allShown (← hs.mapM display)

def session (index : Nat) : SessionStep → Play StepAnswer
  | .persist d => do sessionCall index (.persist (← build d))
  | .persistDeferred d => do sessionCall index (.persistDeferred (← build d))
  | .merge r => do sessionCall index (.merge (← instanceOf r))
  | .remove r => do sessionCall index (.remove ((← get).handleOf r))
  | .contains t id => do return .flag (((← get).session index).contains t id)
  | .call c => sessionCall index c

def atGateway (g : Gateway Backing) : GatewayStep → Play StepAnswer
  | .save r => do return .value (← ofWork (g.save (← instanceOf r)))
  | .load t id => do displayOption (← ofWork (g.load t id))
  | .loadReference t id => do displayOption (← ofWork (g.loadReference t id))
  | .findBy t field v => do displayOption (← ofWork (g.findBy t field v))
  | .findAllBy t field v => do displayAll (← ofWork (g.findAllBy t field v))
  | .nativeBy t sql params => do displayOption (← ofWork (g.nativeBy t sql params))
  | .nativeAll t sql params => do displayAll (← ofWork (g.nativeAll t sql params))
  | .update r expected => do
    let entry := Entry.ofHandle (← heap) ((← get).handleOf r)
    return .optionalValue (← ofWork (g.update entry expected))
  | .remove k => do
    ofWork (g.remove k)
    return .nothing
  | .collection owner target field id => do
    let list ← ofWork (g.collection owner field target id)
    let before := ((← get).space.listOf list).isLoaded
    return .collection before (← ofWork (g.force list))

def failure? {α : Type} : Except Error α → Option Error
  | .ok _ => none
  | .error e => some e

def queue (g : Gateway Backing) : QueueStep → Play StepAnswer
  | .add a => do
    let action ← action { a with instant := false }
    ofWork (Work.note .trace "Queued action")
    modify fun s => { s with queue := s.queue.add action }
    return .nothing
  | .clear => do
    modify fun s => { s with queue := {} }
    return .nothing
  | .isPending kind k => do return .flag ((← get).queue.isPending kind k)
  | .drain => do
    let drained ← ofWork (g.drain (← get).queue {})
    modify fun s => { s with queue := ⟨drained.left⟩ }
    return .outcome (failure? drained.result) drained.outcome
  | .perform a => do
    let (result, o) ← ofWork (g.perform (← action a) {})
    return .outcome (failure? result) o
  | .persist r => do return .persisted (← ofWork (g.persist ((← get).handleOf r)))
  | .describe a => do
    let action ← action a
    return .action action (action.typeName (← heap)) (action.describe (← heap))

def entryAnswer (f : EntityKey → Ref → StepAnswer) (e : Option Entry) : Play StepAnswer :=
  match e with
  | none => return .nothing
  | some e => do return f e.key (← display e.handle).ref

def map : MapStep → Play StepAnswer
  | .insert r => do
    let s ← get
    let e := Entry.ofHandle s.space.heap (s.handleOf r)
    let previous := s.map.find? e.key
    set { s with map := s.map.put e }
    entryAnswer .removedEntry previous
  | .getOrInsert d => do
    let i ← build d
    let (h, isNew, map) ← ofWork ((← get).map.getOrPut i)
    modify fun s => { s with map := map }
    return .kept (← display h) isNew
  | .get k asType => do
    let heap ← heap
    let e := (← get).map.find? k
    entryAnswer (fun k r => .entry k r (e.bind fun e => asType.map fun t =>
      (heap.get e.handle).isA t)) e
  | .getRef t k => do
    match (← get).map.handle? (← heap) t k with
    | none => return .nothing
    | some h => return .shown (← display h)
  | .contains k => do return .flag ((← get).map.contains k)
  | .remove k => do
    let e := (← get).map.find? k
    modify fun s => { s with map := s.map.erase k }
    entryAnswer .removedEntry e
  | .clear => do
    modify fun s => { s with map := .empty }
    return .nothing
  | .entries => do
    return .keys (sortByName id ((← get).map.values.map fun e => e.key.toText))

/-- A snapshot by its number, with the mapping of its type. -/
def snapshotOf (g : Gateway Backing) (index : Nat) : Play (Metadata × Snapshot) := do
  let (t, s) := ((← get).snapshots[index]?).getD default
  return (← ofWork (g.resolve t), s)

def snapshot (g : Gateway Backing) : SnapshotStep → Play StepAnswer
  | .capture r => do
    let i ← instanceOf r
    let m ← ofWork (g.resolve i.type)
    let s := Snapshot.capture m i
    let index := (← get).snapshots.length
    modify fun stage => { stage with snapshots := stage.snapshots ++ [(i.type, s)] }
    return .snapshot index s
  | .valueOf index field => do
    let (m, s) ← snapshotOf g index
    return .optionalValue (s.valueOf? m field)
  | .version index => do
    let (m, s) ← snapshotOf g index
    return .value (s.version m)
  | .changed index other => do
    let (m, s) ← snapshotOf g index
    let later := ((← get).snapshots[other]?).getD default
    return .changes (s.changedFields m later.2) (s.equal later.2)
  | .isDirty index r => do
    let (m, s) ← snapshotOf g index
    return .flag (s.isStale m (← instanceOf r))

def addSession (config : SessionConfig) : Play StepAnswer := do
  let s ← get
  let session : Session := { config := config }
  set { s with sessions := s.sessions ++ [session] }
  return .opened s.sessions.length config (config == s.config)

def step : Step → Play StepAnswer
  | .prepare a => do
    modify fun s => { s with space := { s.space with store := s.space.store.prepare a } }
    return .nothing
  | .create d => do displayNew (← build d)
  | .copy r => do displayNew (← instanceOf r)
  | .show r => do return .portrait (← instanceOf r)
  | .field r name => do
    let i ← instanceOf r
    return .field (i.fieldValue name) i.idValue
  | .set r name v => do
    ofWork (Work.setValue ((← get).handleOf r) name v)
    return .optionalValue ((← instanceOf r).fieldValue name)
  | .setReference r name target => do
    let target ← target.mapM instanceOf
    let i := (← instanceOf r).setReference name target
    modify fun s =>
      { s with space := { s.space with heap := s.space.heap.set (s.handleOf r) i } }
    return .sketch i
  | .list r name q => do
    match (← instanceOf r).slot? name with
    | some (.collection list) => askList list q
    | _ => return .nothing
  | .detached t row => do displayNew (← Instance.detached t row)
  | .detachedLinks t name id => do
    let linker := Linker.detached (StateM Stage)
    let found ← linker.reference 0 id
    let list ← linker.collection t name 0 id
    let items := ((← get).space.listOf list).items?
    return .links found.isSome items.isSome (items.getD []).length
  | .openSession config => do
    ofWork (Work.note .debug "Opening session")
    addSession (config.getD (← get).config)
  | .plainSession => addSession {}
  | .rows sql => do
    let (r, b) := (← get).space.store.rows sql
    modify fun s => { s with space := { s.space with store := b } }
    return .rows (← r)
  | .session index s => session index s
  | .gateway s => do atGateway (← gateway) s
  | .queue s => do queue (← gateway) s
  | .map s => map s
  | .snapshot s => do snapshot (← gateway) s

end Play

namespace Stage

def play (s : Stage) (step : Step) : Except Error StepAnswer × Stage :=
  (Play.step step).run s

/-- What was said over the connection after a given number of exchanges. -/
def exchangesSince (s : Stage) (n : Nat) : List Exchange :=
  s.space.transcript.drop n

def eventsSince (s : Stage) (n : Nat) : List Event :=
  s.space.journal.events.drop n

end Stage

end EntityMapper
