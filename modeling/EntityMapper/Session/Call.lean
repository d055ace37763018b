import EntityMapper.Session.Search
import EntityMapper.Session.Transaction
/-! The operations of a session as data, so that runs of a session are lists. -/

namespace EntityMapper

/-- An operation of a session with its arguments. -/
inductive SessionCall where
  | persist (i : Instance)
  | persistDeferred (i : Instance)
  | merge (i : Instance)
  | remove (h : Handle)
  | dirtyCheck
  | flush
  | close
  | begin
  | commit
  | rollback
  | findById (t : EntityType) (id : Value)
  | findBy (t : EntityType) (field : String) (v : Value)
  | findAllBy (t : EntityType) (field : String) (v : Value)
  | nativeBy (t : EntityType) (sql : String) (params : List Value)
  | nativeAll (t : EntityType) (sql : String) (params : List Value)
  | queryBy (t : EntityType) (q : EntityQuery)
  | queryAll (t : EntityType) (q : EntityQuery)

/-- What an operation of a session answers. -/
inductive SessionAnswer where
  | done
  | count (n : Nat)
  | one (h : Handle)
  | option (h : Option Handle)
  | all (hs : List Handle)

namespace SessionCall

variable {σ : Type}

def run (g : Gateway σ) : SessionCall → Operation σ SessionAnswer
  | persist i => .one <$> Session.persist g i
  | persistDeferred i => .one <$> Session.persistDeferred i
  | merge i => .option <$> Session.merge g i
  | remove h => (fun _ => .done) <$> Session.remove h
  | dirtyCheck => .count <$> Session.dirtyCheck g
  | flush => (fun _ => .done) <$> Session.flush g
  | close => (fun _ => .done) <$> Session.close g
  | begin => (fun _ => .done) <$> Session.begin g
  | commit => (fun _ => .done) <$> Session.commit g
  | rollback => (fun _ => .done) <$> Session.rollback g
  | findById t id => .option <$> Session.findById g t id
  | findBy t field v => .option <$> Session.findBy g t field v
  | findAllBy t field v => .all <$> Session.findAllBy g t field v
  | nativeBy t sql params => .option <$> Session.nativeBy g t sql params
  | nativeAll t sql params => .all <$> Session.nativeAll g t sql params
  | queryBy t q => .option <$> Session.queryBy g t q
  | queryAll t q => .all <$> Session.queryAll g t q

end SessionCall

end EntityMapper
