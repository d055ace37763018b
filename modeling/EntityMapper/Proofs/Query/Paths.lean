import EntityMapper.Query.Path
/-! Paths of queries: the few ways in which the resolution of a path can end. -/

namespace EntityMapper

namespace QueryScope

/-- What the resolution of a path comes to, with the names that lead there. -/
inductive Resolves (s : QueryScope) (core : Token) : List Token → Resolving (Option Token) → Prop
  | field (field) : Resolves s core [field] (pure (s.column? field))
  | column {qualifier field column} (hq : some qualifier = s.rootAlias)
    (hc : s.column? field = some column) :
    Resolves s core [qualifier, field] (pure (some (qualifier ++ '.' :: column)))
  /-- The path leads over a reference without the alias. -/
  | reference {relation n r} (hq : some relation ≠ s.rootAlias)
    (hr : s.root.referenceAlike? relation = some (n, r)) (field) :
    Resolves s core [relation, field] (do return some (← s.navigate none n r field))
  | aliasReference {qualifier relation n r} (hq : some qualifier = s.rootAlias)
    (hr : s.root.referenceAlike? relation = some (n, r)) (field) :
    Resolves s core [qualifier, relation, field]
      (do return some (← s.navigate (some qualifier) n r field))
  | unknown {path} : Resolves s core path (s.unknownPath core)
  | refused {path} (e) : Resolves s core path (throw e)
  | kept {path} : Resolves s core path (pure none)

theorem resolves_resolvePath (s : QueryScope) (core : Token) (path : List Token) :
    s.Resolves core path (s.resolvePath core path) := by
  unfold resolvePath
  split
  · exact .field _
  · split
    · rename_i hq
      split
      · rename_i hc
        exact .column hq hc
      · exact .unknown
    · rename_i hq
      split
      · rename_i hr
        exact .reference hq hr _
      · split
        · exact .refused _
        · exact .kept
  · split
    · rename_i hq
      split
      · rename_i hr
        exact .aliasReference hq hr _
      · exact .unknown
    · exact .kept
  · split
    · exact .refused _
    · exact .kept
  · exact .kept

end QueryScope

end EntityMapper
