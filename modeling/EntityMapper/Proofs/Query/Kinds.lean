import EntityMapper.Proofs.Query.Layout
import EntityMapper.Proofs.Query.Words
import EntityMapper.Query.Statement
/-! Kinds of statements, told by their first words. A SELECT over entities becomes a SELECT over
tables. -/

namespace EntityMapper

open Text

/-- The kind of a statement, told by its first word. -/
def Statement.kind? (s : Statement) : Option QueryKind :=
  (words s.text.toList).head?.bind QueryKind.ofKeyword?

/-- The kind of a query, told by its first word. -/
def EntityQuery.kind? (q : EntityQuery) : Option QueryKind :=
  q.words.head?.bind QueryKind.ofKeyword?

namespace Text

/-- A word at the beginning of a text is its first word if it is not continued. -/
theorem head?_words_append {w t : List Char} (hw : Unblank w) (hne : w ≠ [])
    (ht : beginsWord t = false) : (words (w ++ t)).head? = some w := by
  rw [words_append_of_not_beginsWord ht, words_of_unblank hw hne]
  rfl

theorem head?_words_intercalate {w : List Char} (hw : Unblank w) (hne : w ≠ [])
    (ws : List (List Char)) : (words (List.intercalate [' '] (w :: ws))).head? = some w := by
  cases ws with
  | nil =>
    rw [List.intercalate_singleton, words_of_unblank hw hne]
    rfl
  | cons v vs =>
    rw [List.intercalate_cons_cons, List.append_assoc]
    exact head?_words_append hw hne rfl

end Text

theorem Statement.text_select (table column : String) : (select table column).text =
    "select * from " ++ table ++ " where " ++ column ++ " = ?" := rfl

theorem Statement.text_native (sql : String) : (native sql).text = sql := rfl

theorem Statement.kind?_select (table column : String) :
    (Statement.select table column).kind? = some .select := by
  have hbegin : "select * from ".toList = "select".toList ++ ' ' :: "* from ".toList := by decide
  have htext : (Statement.select table column).text.toList = "select".toList ++
      ' ' :: ("* from ".toList ++ (table.toList ++ (" where ".toList ++
        (column.toList ++ " = ?".toList)))) := by
    simp only [Statement.text_select, String.toList_append, hbegin, List.append_assoc,
      List.cons_append]
  have hword : Unblank "select".toList := by simp [Unblank, isBlank]
  rw [Statement.kind?, htext, head?_words_append hword (by decide) rfl]
  decide

namespace EntityQuery

variable {schema : Schema} {strict : Bool} {root : EntityDescriptor} {q : EntityQuery}
  {j k : Journal} {c : CompiledQuery}

/-- The statement of a SELECT begins with the first word of the query. -/
theorem exists_tokens_of_select (h : q.compile schema strict root j = (.ok c, k))
    (hq : q.kind? = some .select) : ∃ w ts, w ∈ q.words ∧
      QueryKind.ofKeyword? w = some .select ∧ c.tokens = w :: ts := by
  obtain ⟨m, p, stated, joins, -, hplan, hlayout⟩ := exists_layout h
  obtain ⟨⟨w, hw, hkind⟩, -, -, -⟩ := found_of_ofQuery hplan
  have hpos := (planned_of_ofQuery hplan).slot_pos
  have hselect : p.kind = .select := by
    rw [kind?, List.head?_eq_getElem?, hw, Option.bind_some, hkind] at hq
    exact Option.some.inj hq
  rw [hselect] at hkind
  have hplaces : w.withPlaces = w := Token.withPlaces_of_not_mem
    (not_mem_of_alike (by decide) (by decide) (by decide)
      (alike_comm _ _ ▸ QueryPlan.alike_of_ofKeyword hkind))
  have hselects := hlayout.selects hselect
  have hstands := hlayout.stands 0 w
  generalize c.tokens = tokens at hselects
  cases hselects with
  | mk first keyword table list before after =>
    have hfirst := hstands first hw rfl
    rw [hplaces] at hfirst
    obtain rfl : first = w := by
      cases hfirst with
      | table hi => omega
      | fixed => rfl
      | punctuation hfree | text hfree | column hfree => cases hfree
    exact ⟨first, _, List.mem_of_getElem? hw, hkind, rfl⟩

/-- A SELECT becomes a SELECT. -/
theorem kind?_of_compile (h : q.compile schema strict root j = (.ok c, k))
    (hq : q.kind? = some .select) : (Statement.native c.sql).kind? = some .select := by
  obtain ⟨w, ts, hw, hkind, htokens⟩ := exists_tokens_of_select h hq
  obtain ⟨hne, hblank⟩ := ne_nil_and_unblank_of_mem_words w hw
  rw [Statement.kind?, Statement.text_native, CompiledQuery.sql, htokens, String.toList_ofList,
    head?_words_intercalate hblank hne]
  exact hkind

end EntityQuery

end EntityMapper
