import EntityMapper.Scenario.Backing
import EntityMapper.Session.Call
/-! The steps of a scenario, and what they answer. Steps name instances by the numbers under which
earlier answers showed them. -/

namespace EntityMapper

abbrev Ref := Nat

/-- An instance to make: its type, and what its fields hold besides what they hold at first. -/
structure Draft where
  type : EntityType
  values : List (String × Value) := []
  references : List (String × Ref) := []
  transients : List (String × String) := []

/-- What is asked of a lazy list. -/
inductive ListQuestion where
  | isLoaded
  | len
  | isEmpty
  | get (index : Nat)
  | items
  | ids

/-- A step of a session. -/
inductive SessionStep where
  | persist (d : Draft)
  | persistDeferred (d : Draft)
  | merge (r : Ref)
  | remove (r : Ref)
  | contains (t : EntityType) (id : Value)
  | call (c : SessionCall)

/-- A step at the gateway. -/
inductive GatewayStep where
  | save (r : Ref)
  | load (t : EntityType) (id : Value)
  | loadReference (t : EntityType) (id : Value)
  | findBy (t : EntityType) (field : String) (v : Value)
  | findAllBy (t : EntityType) (field : String) (v : Value)
  | nativeBy (t : EntityType) (sql : String) (params : List Value)
  | nativeAll (t : EntityType) (sql : String) (params : List Value)
  | update (r : Ref) (expected : Value)
  | remove (k : EntityKey)
  | collection (owner target : EntityType) (field : String) (id : Value)

/-- An action on an instance. -/
structure ActionDraft where
  kind : ActionKind
  ref : Ref
  instant : Bool := false
  expected : Value := .null

/-- A step with the free queue. -/
inductive QueueStep where
  | add (a : ActionDraft)
  | clear
  | isPending (kind : ActionKind) (k : EntityKey)
  | drain
  | perform (a : ActionDraft)
  | persist (r : Ref)
  | describe (a : ActionDraft)

/-- A step with the free identity map. -/
inductive MapStep where
  | insert (r : Ref)
  | getOrInsert (d : Draft)
  /-- The entry of a key, and whether it holds an instance of another given type. -/
  | get (k : EntityKey) (asType : Option EntityType)
  | getRef (t : EntityType) (k : EntityKey)
  | contains (k : EntityKey)
  | remove (k : EntityKey)
  | clear
  | entries

/-- A step with snapshots, which are numbered as they are taken. -/
inductive SnapshotStep where
  | capture (r : Ref)
  | valueOf (snapshot : Nat) (field : String)
  | version (snapshot : Nat)
  | changed (snapshot other : Nat)
  | isDirty (snapshot : Nat) (r : Ref)

/-- A step. -/
inductive Step where
  /-- Adds an answer to the script. -/
  | prepare (a : ScriptedAnswer)
  | create (d : Draft)
  | copy (r : Ref)
  | show (r : Ref)
  | field (r : Ref) (name : String)
  | set (r : Ref) (name : String) (v : Value)
  | setReference (r : Ref) (name : String) (target : Option Ref)
  | list (r : Ref) (name : String) (q : ListQuestion)
  | detached (t : EntityType) (row : Row)
  /-- Asks the linker that leaves everything out. -/
  | detachedLinks (t : EntityType) (name : String) (id : Value)
  /-- Opens a session, with another configuration if one is given. -/
  | openSession (config : Option SessionConfig)
  /-- Makes a session past the usual way of opening one. -/
  | plainSession
  | rows (sql : String)
  | session (index : Nat) (s : SessionStep)
  | gateway (s : GatewayStep)
  | queue (s : QueueStep)
  | map (s : MapStep)
  | snapshot (s : SnapshotStep)

/-- An instance with the number under which it is shown. -/
structure Shown where
  ref : Ref
  handle : Handle

/-- What a step answers. -/
inductive StepAnswer where
  | nothing
  | flag (b : Bool)
  | count (n : Nat)
  | text (s : String)
  | value (v : Value)
  | optionalValue (v : Option Value)
  | values (vs : List Value)
  | rows (rs : List Row)
  | shown (s : Shown)
  | allShown (ss : List Shown)
  /-- An instance with its type. -/
  | portrait (i : Instance)
  /-- An instance without its type. -/
  | sketch (i : Instance)
  | sketches (is : List Instance)
  | field (value : Option Value) (id : Value)
  | links (found loaded : Bool) (len : Nat)
  | opened (index : Nat) (config : SessionConfig) (asUsual : Bool)
  | collection (loadedBefore : Bool) (items : List Instance)
  | outcome (failure : Option Error) (o : Outcome)
  | persisted (e : Entry)
  | action (a : Action) (typeName description : String)
  | kept (s : Shown) (isNew : Bool)
  | entry (k : EntityKey) (ref : Ref) (isOfType : Option Bool)
  | removedEntry (k : EntityKey) (ref : Ref)
  | keys (names : List String)
  | snapshot (index : Nat) (s : Snapshot)
  | changes (fields : List String) (equal : Bool)

def StepAnswer.ofOption {α : Type} (f : α → StepAnswer) (a : Option α) : StepAnswer :=
  (a.map f).getD .nothing

end EntityMapper
