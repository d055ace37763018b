import EntityMapper.Entity.Type
/-! The entity types that scenarios are played with. -/

namespace EntityMapper

namespace SampleTypes

def column (name : String) (type : FieldType) (column : Option String := none) : EntityField :=
  { name := name, role := .column type, column := column }

def identifier (name : String) (type : FieldType) (column : Option String := none) : EntityField :=
  { name := name, role := .column type, column := column, isId := true }

def version (name : String) (type : FieldType) (column : Option String := none) : EntityField :=
  { name := name, role := .column type, column := column, isVersion := true }

/-- The usual identifier: a number that the store makes. -/
def madeId : EntityField :=
  identifier "id" (.optional (.integer .big))

/-- An owning field that several entities may share a target in. -/
def reference (name : String) (target : Nat) (joinColumn : String) : EntityField :=
  { name := name, role := .reference false target joinColumn }

/-- A field for the entities that refer to this one. -/
def collection (name : String) (target : Nat) (mappedBy : Option String := none) : EntityField :=
  { name := name, role := .collection target mappedBy }

def person : EntityType where
  path := "Person"
  name := "Person"
  table := some "persons"
  fields := [
    madeId,
    column "first_name" (.required .text) (some "fname"),
    column "last_name" (.required .text),
    column "age" (.required (.integer .medium)),
    column "male" (.optional .text),
    collection "notes" 1]

def note : EntityType where
  path := "Note"
  name := "Note"
  table := some "notes"
  fields := [
    madeId,
    column "title" (.required .text),
    column "body" (.optional .text),
    reference "person" 0 "person_id"]

def versioned : EntityType where
  path := "Versioned"
  name := "Versioned"
  table := some "versioned"
  fields := [
    madeId,
    column "name" (.required .text),
    version "version" (.optional (.integer .big))]

def counter : EntityType where
  path := "Counter"
  name := "Counter"
  table := some "counters"
  fields := [
    madeId,
    column "hits" (.required (.integer .medium)),
    version "version" (.optional (.integer .small)) (some "rev")]

def tick : EntityType where
  path := "Tick"
  name := "Tick"
  fields := [
    identifier "number" (.required (.integer .medium)) (some "tick_no"),
    column "label" (.optional .text),
    version "beat" (.required (.integer .tiny))]

def tag : EntityType where
  path := "Tag"
  name := "Tag"
  table := some "tags"
  fields := [madeId]

def altTag : EntityType where
  path := "alt.Tag"
  name := "Tag"
  table := some "alt_tags"
  fields := [madeId, column "label" (.optional .text)]

def scalars : EntityType where
  path := "Scalars"
  name := "Scalars"
  fields := [
    identifier "key" (.required .text) (some "scalar_key"),
    column "flag" (.required .bool),
    column "tiny" (.required (.integer .tiny)),
    column "small" (.required (.integer .small)),
    column "int" (.required (.integer .medium)),
    column "big" (.required (.integer .big)),
    column "uint" (.required .count),
    column "real" (.required .single),
    column "dbl" (.required .double),
    column "text" (.required .text) (some "txt"),
    column "blob" (.required .bytes),
    column "doc" (.required .document),
    column "any" (.optional .any),
    column "opt_flag" (.optional .bool),
    column "opt_int" (.optional (.integer .medium)),
    column "opt_dbl" (.optional .double),
    column "opt_blob" (.optional .bytes),
    column "opt_doc" (.optional .document),
    { name := "cache", role := .transient }]

/-- Customers with the orders that they made and the orders that they approved. -/
def customer : EntityType where
  path := "Customer"
  name := "Customer"
  table := some "customers"
  fields := [
    identifier "id" (.required (.integer .big)) (some "customer_no"),
    column "name" (.required .text),
    collection "orders" 10 (some "customer"),
    collection "approvals" 10 (some "approver")]

def detail : EntityType where
  path := "Detail"
  name := "Detail"
  table := some "details"
  fields := [
    identifier "code" (.required .text) (some "detail_code"),
    column "info" (.optional .text)]

/-- Orders, which refer to two customers and a detail. -/
def order : EntityType where
  path := "Order"
  name := "Order"
  table := some "orders"
  fields := [
    column "total" (.required .double),
    reference "customer" 8 "customer_id",
    { name := "detail", role := .reference true 9 "detail_id" },
    reference "approver" 8 "approved_by",
    version "revision" (.required (.integer .medium)),
    madeId]

/-- A type whose list does not say which of two fields owns it, so that it has no mapping. -/
def hub : EntityType where
  path := "Hub"
  name := "Hub"
  fields := [madeId, collection "links" 12]

def link : EntityType where
  path := "Link"
  name := "Link"
  fields := [madeId, reference "source" 11 "from_id", reference "dest" 11 "to_id"]

def catalogue : Catalogue :=
  [person, note, versioned, counter, tick, tag, altTag, scalars, customer, detail, order, hub, link]

end SampleTypes

end EntityMapper
