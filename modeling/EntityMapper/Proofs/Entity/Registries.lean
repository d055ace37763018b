import EntityMapper.Proofs.Entity.Resolution
import EntityMapper.Scenario.Catalogue
import Mathlib.Data.Finset.Card
/-! Registries: whatever was resolved before, a type resolves to what its descriptor says, and a
registry keeps one mapping for each type that was resolved. -/

namespace EntityMapper

/-- No type is described in two ways. -/
def OnePerPath (ds : List EntityDescriptor) : Prop :=
  ∀ d ∈ ds, ∀ e ∈ ds, d.path = e.path → d = e

instance (ds : List EntityDescriptor) : Decidable (OnePerPath ds) :=
  inferInstanceAs (Decidable (∀ d ∈ ds, ∀ e ∈ ds, d.path = e.path → d = e))

theorem OnePerPath.of_append {ds es : List EntityDescriptor} (h : OnePerPath (ds ++ es)) :
    OnePerPath ds :=
  fun d hd e he => h d (List.mem_append_left es hd) e (List.mem_append_left es he)

/-- A type that is asked for, with the answer. -/
abbrev ResolvedCall := EntityDescriptor × Except Error Metadata

/-- The types that were resolved, by their paths. -/
def resolvedTypes (calls : List ResolvedCall) : Finset String :=
  ((calls.filter (·.2.isOk)).map (·.1.path)).toFinset

theorem mem_resolvedTypes {calls : List ResolvedCall} {path : String} :
    path ∈ resolvedTypes calls ↔ ∃ m, ∃ c ∈ calls, c.1.path = path ∧ c.2 = .ok m := by
  simp only [resolvedTypes, List.mem_toFinset, List.mem_map, List.mem_filter]
  constructor
  · rintro ⟨⟨d, _ | m⟩, ⟨hc, hok⟩, hpath⟩
    · cases hok
    · exact ⟨m, _, hc, hpath, rfl⟩
  · rintro ⟨m, ⟨d, r⟩, hc, hpath, rfl⟩
    exact ⟨_, ⟨hc, rfl⟩, hpath⟩

namespace Journal

variable {schema : Schema} {calls : List ResolvedCall} {j : Journal}

/-- The registry keeps the mappings that the calls were answered with, each once, and no others. -/
structure Records (calls : List ResolvedCall) (j : Journal) : Prop where
  distinct : j.registry.Distinct
  find?_iff : ∀ path m,
    j.registry.find? path = some m ↔ ∃ c ∈ calls, c.1.path = path ∧ c.2 = .ok m

theorem records_empty : Records [] {} :=
  ⟨.nil, by simp⟩

theorem Records.resolve (h : j.Records calls) (schema : Schema) (d : EntityDescriptor) :
    Records (calls ++ [(d, (Journal.resolve schema d j).1)]) (Journal.resolve schema d j).2 where
  distinct := distinct_resolve schema d j h.distinct
  find?_iff path m := by
    rw [find?_resolve_iff, h.find?_iff]
    simp [or_and_right, exists_or]

theorem Records.size_eq (h : j.Records calls) : j.registry.size = (resolvedTypes calls).card := by
  have hnodup : j.registry.keys.Nodup := h.distinct.imp fun hne => by simpa using hne
  have hkeys : j.registry.keys.toFinset = resolvedTypes calls := by
    ext path
    have hkey : path ∈ j.registry.keys ↔ j.registry.contains path = true := by
      simp [Assoc.contains_iff]
    rw [List.mem_toFinset, hkey, Assoc.contains, Option.isSome_iff_exists, mem_resolvedTypes]
    exact exists_congr (h.find?_iff path)
  calc j.registry.size
      = j.registry.keys.length := by simp [Assoc.size, Assoc.keys]
    _ = j.registry.keys.toFinset.card := (List.toFinset_card_of_nodup hnodup).symm
    _ = (resolvedTypes calls).card := by rw [hkeys]

end Journal

/-- Types are resolved one after the other over one registry, which is empty at first. -/
inductive RegistryRun (schema : Schema) : List ResolvedCall → Journal → Prop
  | start : RegistryRun schema [] {}
  | resolve {calls : List ResolvedCall} {j : Journal} (run : RegistryRun schema calls j)
      (d : EntityDescriptor) : RegistryRun schema
        (calls ++ [(d, (Journal.resolve schema d j).1)]) (Journal.resolve schema d j).2

namespace RegistryRun

variable {schema : Schema} {calls : List ResolvedCall} {j : Journal}

theorem records (run : RegistryRun schema calls j) : j.Records calls := by
  induction run with
  | start => exact Journal.records_empty
  | resolve _ d ih => exact ih.resolve schema d

/-- Every call is answered as if there were no registry. -/
theorem answers (run : RegistryRun schema calls j) (hone : OnePerPath (calls.map (·.1))) :
    ∀ c ∈ calls, c.2 = Metadata.ofDescriptor schema c.1 := by
  induction run with
  | start => simp
  | @resolve calls j run d ih =>
    rw [List.map_append] at hone
    have hbefore := ih hone.of_append
    refine List.forall_mem_append.mpr ⟨hbefore, List.forall_mem_singleton.mpr ?_⟩
    refine Journal.resolve_of_kept fun m hfind => ?_
    -- The mapping comes from an earlier call with this path, and so with this descriptor.
    obtain ⟨c, hc, hpath, hanswer⟩ := (run.records.find?_iff _ _).mp hfind
    have hsame : c.1 = d := hone _ (by simp [List.mem_map_of_mem hc]) _ (by simp) hpath
    rw [← hsame, ← hbefore c hc, hanswer]

/-- A registry cannot be told from resolving each type anew: every call is answered by what the
descriptor says, a mapping or a fault. At every point of a run as many mappings are kept as
different types have been resolved. -/
theorem answers_as_described (run : RegistryRun schema calls j)
    (hone : OnePerPath (calls.map (·.1))) :
    (∀ c ∈ calls, c.2 = Metadata.ofDescriptor schema c.1) ∧
      j.registry.size = (resolvedTypes calls).card :=
  ⟨run.answers hone, run.records.size_eq⟩

end RegistryRun

namespace SampleRegistry

open SampleTypes

/-- Persons and notes refer to each other, and hubs, which have no mapping, are refused each
time. -/
theorem answers_as_described_hub : ∃ calls j, RegistryRun catalogue.schema calls j ∧
    calls.map (·.1.name) = ["Person", "Hub", "Note", "Person", "Hub"] ∧
    calls.map (·.2.isOk) = [true, false, true, true, false] ∧ OnePerPath (calls.map (·.1)) ∧
    (∀ c ∈ calls, c.2 = Metadata.ofDescriptor catalogue.schema c.1) ∧ j.registry.size = 2 ∧
    (resolvedTypes calls).card = 2 := by
  have fresh : RegistryRun catalogue.schema [] {} := .start
  have first := (fresh.resolve person.descriptor).resolve hub.descriptor
  have run := ((first.resolve note.descriptor).resolve person.descriptor).resolve hub.descriptor
  have hone : OnePerPath [person.descriptor, hub.descriptor, note.descriptor, person.descriptor,
    hub.descriptor] := by decide
  obtain ⟨hanswers, hsize⟩ := run.answers_as_described hone
  exact ⟨_, _, run, rfl, rfl, hone, hanswers, rfl, hsize.symm⟩

end SampleRegistry

end EntityMapper
