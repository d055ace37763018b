import EntityMapper.Proofs.Query.Places
import EntityMapper.Proofs.Query.Renaming
import EntityMapper.Proofs.Query.Stages
import EntityMapper.Proofs.Query.Words
/-! Literals of a query: which of them a translation writes as they stand. A translation knows
blanks and not quotes, so that the words of a literal are read as all other words are. -/

namespace EntityMapper

open Text

namespace EntityQuery

/-- A text between single quotes somewhere in a query. -/
structure Literal (q : EntityQuery) where
  before : List Char
  body : List Char
  after : List Char
  split : q.text.toList = before ++ '\'' :: body ++ '\'' :: after

namespace Literal

variable {q : EntityQuery} (l : Literal q)

def text : List Char :=
  '\'' :: l.body ++ ['\'']

/-- The position of the word that the first quote stands in. -/
def first : Nat :=
  (Text.words (l.before ++ ['\''])).length - 1

/-- The position of the word that the last quote stands in. -/
def last : Nat :=
  (Text.words (l.before ++ l.text)).length - 1

def Touches (n : Nat) : Prop :=
  l.first ≤ n ∧ n ≤ l.last

instance (n : Nat) : Decidable (l.Touches n) :=
  inferInstanceAs (Decidable (_ ∧ _))

/-- The words that the literal is part of. -/
def words : List Token :=
  (q.words.drop l.first).take (l.last + 1 - l.first)

theorem isBlank_quote : isBlank '\'' = false := by
  decide

theorem beginsWord_around {a : List Char} (ha : Unblank a) (b : List Char) :
    beginsWord (a ++ l.text ++ b) = true := by
  cases a with
  | nil => rfl
  | cons d a => simpa [beginsWord] using ((unblank_cons d a).mp ha).1

/-- The words that a literal is part of are those of the literal with what goes before it and
after it up to the next blanks. -/
theorem exists_words_eq :
    ∃ a b, Unblank a ∧ Unblank b ∧ l.words = Text.words (a ++ l.text ++ b) ∧
      l.first ≤ l.last ∧ l.last < q.words.length := by
  -- The query is cut before the word of the first quote and behind the word of the last one.
  obtain ⟨s₀, a, hbefore, ha, hcut⟩ := exists_cut_before_last l.before
  obtain ⟨b, s₁, hafter, hb, hends⟩ := exists_cut_after_first l.after
  have hlen : (Text.words (a ++ l.text ++ b)).length = (Text.words (a ++ l.text)).length := by
    simpa [text] using length_words_append isBlank_quote hb (a ++ '\'' :: l.body)
  have hpos : 0 < (Text.words (a ++ l.text ++ b)).length :=
    List.length_pos_iff.mpr (words_ne_nil_of_beginsWord (l.beginsWord_around ha b))
  have hquery : q.text.toList = s₀ ++ ((a ++ l.text ++ b) ++ s₁) := by
    rw [l.split, hbefore, hafter]
    simp [text]
  refine ⟨a, b, ha, hb, ?_⟩
  generalize a ++ l.text ++ b = around at *
  have hwords : q.words = Text.words s₀ ++ (Text.words around ++ Text.words s₁) := by
    rw [EntityQuery.words, hquery, hcut, words_append_of_not_beginsWord hends]
  have hfirst : l.first = (Text.words s₀).length := by
    have hopen : Text.words (a ++ ['\'']) = [a ++ ['\'']] :=
      words_of_unblank (by simpa [Unblank, or_imp, forall_and] using ⟨ha, isBlank_quote⟩) (by simp)
    rw [first, hbefore, List.append_assoc, hcut, hopen]
    simp
  have hlast : l.last + 1 = (Text.words s₀).length + (Text.words around).length := by
    rw [last, hbefore, List.append_assoc, hcut, List.length_append, ← hlen]
    omega
  refine ⟨?_, by omega, ?_⟩
  · rw [words, hwords, hfirst, hlast, Nat.add_sub_cancel_left, List.drop_left, List.take_left]
  · rw [hwords, List.length_append, List.length_append]
    omega

theorem first_le_last : l.first ≤ l.last := by
  obtain ⟨_, _, _, _, _, h, _⟩ := l.exists_words_eq
  exact h

theorem last_lt_length : l.last < q.words.length := by
  obtain ⟨_, _, _, _, _, _, h⟩ := l.exists_words_eq
  exact h

/-- Joined by blanks, the words of a literal with single spaces are the literal and what stands
around it. -/
theorem exists_around (hs : singleSpaced l.text = true) :
    ∃ a b, List.intercalate [' '] l.words = a ++ l.text ++ b := by
  obtain ⟨a, b, ha, hb, hwords, -⟩ := l.exists_words_eq
  have hspaced : singleSpaced (a ++ l.text ++ b) = true :=
    singleSpaced_append_right (singleSpaced_append_left ha hs) hb
  refine ⟨a, b, ?_⟩
  rw [hwords, intercalate_words hspaced,
    dropWhile_isBlank_of_beginsWord (l.beginsWord_around ha b)]

/-- A literal with single spaces and without parameters stands as it is among the tokens of a
plan. -/
theorem infix_places (hs : singleSpaced l.text = true) (hp : Piece.names [l.body] = []) :
    l.text <:+: List.intercalate [' '] (l.words.map Token.withPlaces) := by
  obtain ⟨a, b, haround⟩ := l.exists_around hs
  have hquote : Piece.admits '\'' = true := by decide
  refine ⟨Token.withPlaces a, Token.withPlaces b, ?_⟩
  rw [Token.intercalate_withPlaces (by decide), haround]
  simp only [text, List.append_assoc, List.cons_append, List.nil_append]
  rw [Token.withPlaces_append hquote, Token.withPlaces_append hquote, Token.withPlaces_of_names hp]

/-- Whether the literal begins in what a SELECT selects. -/
def Selected (p : QueryPlan) : Prop :=
  p.kind = .select ∧ l.first < p.entitySlot

instance (p : QueryPlan) : Decidable (l.Selected p) :=
  inferInstanceAs (Decidable (_ ∧ _))

variable {schema : Schema} {strict : Bool} {root : EntityDescriptor} {j k : Journal}
  {c : CompiledQuery}

/-- A literal with single spaces that no stage of a translation has to do with. -/
structure Spared (t : Translation schema strict root q j c) : Prop where
  spaced : singleSpaced l.text = true
  /-- There is no parameter in it. -/
  unbound : Piece.names [l.body] = []
  /-- The entity name is none of its words. -/
  unnamed : ¬ l.Touches t.plan.entitySlot
  /-- Path resolution renames none of its words. -/
  stays : ∀ n u, l.Touches n → t.plan.tokens[n]? = some u →
    t.plan.Stays (t.plan.scope schema t.mapping strict) n u
  /-- Joins are not put in front of one of its words but the first. -/
  unparted : t.plan.kind = .select → t.mapping.references ≠ [] →
    t.plan.joinPlace t.mapping.table.toList t.resolved ≤ l.first ∨
      l.last < t.plan.joinPlace t.mapping.table.toList t.resolved

variable {l} {t : Translation schema strict root q j c}

/-- Up to the joins the words of a spared literal stand where they stood in the query. -/
theorem Spared.words_stated (h : l.Spared t) :
    ((t.plan.stated t.mapping.table.toList t.resolved).drop l.first).take (l.last + 1 - l.first) =
      l.words.map Token.withPlaces := by
  have htokens : t.plan.tokens = q.words.map Token.withPlaces :=
    (planned_of_ofQuery t.planned).tokens
  have hresolved := (QueryPlan.meets_resolveFrom_of_stays 0 t.plan.tokens).ok trivial
    (Prod.ext t.rewritten rfl)
  have hsame (n : Nat) (hn : l.Touches n) :
      (t.plan.stated t.mapping.table.toList t.resolved)[n]? = t.plan.tokens[n]? := by
    have hlen : n < t.plan.tokens.length := by
      rw [htokens, List.length_map]
      exact Nat.lt_of_le_of_lt hn.2 l.last_lt_length
    have htoken := List.getElem?_eq_getElem hlen
    have hslot : t.plan.entitySlot ≠ n := fun heq => h.unnamed (heq ▸ hn)
    rw [QueryPlan.stated, List.getElem?_set_ne hslot, htoken]
    exact hresolved n _ htoken (by simpa using h.stays n _ hn htoken)
  rw [words, List.map_take, List.map_drop, ← htokens]
  apply List.ext_getElem?
  intro n
  rw [List.getElem?_take, List.getElem?_take, List.getElem?_drop, List.getElem?_drop]
  split
  · exact hsame _ ⟨by omega, by omega⟩
  · rfl

end Literal

variable {schema : Schema} {strict : Bool} {root : EntityDescriptor} {q : EntityQuery}
  {j k : Journal} {c : CompiledQuery}

/-- Every spared literal outside what a SELECT selects appears in the statement character for
character. -/
theorem literals_survive (h : q.compile schema strict root j = (.ok c, k)) :
    ∃ t : Translation schema strict root q j c, ∀ l : Literal q,
      ¬ l.Selected t.plan → l.Spared t → l.text <:+: c.sql.toList := by
  obtain ⟨t⟩ := nonempty_translation h
  refine ⟨t, fun l hl hspared => ?_⟩
  have hp := planned_of_ofQuery t.planned
  have hrow : l.words.map Token.withPlaces <:+: c.tokens := by
    rw [← hspared.words_stated, t.tokens]
    refine QueryPlan.infix_assemble hp.slot_pos (fun hk => ?_) fun hk => ?_
    · exact Nat.le_of_not_lt fun hlt => hl ⟨hk, hlt⟩
    · by_cases hnone : t.mapping.references = []
      · exact .inl (t.joins_eq_nil hnone)
      · refine .inr ((hspared.unparted hk hnone).imp_right fun hlast => ?_)
        have hle := l.first_le_last
        omega
  rw [CompiledQuery.sql, String.toList_ofList]
  exact (l.infix_places hspared.spaced hspared.unbound).trans (intercalate_isInfix hrow)

end EntityQuery

namespace SampleLiterals

open EntityQuery (Literal Translation)

def shelf : EntityDescriptor where
  path := "Shelf"
  name := "Shelf"
  table := some "shelves"
  fields := [{ name := "id", isId := true }]

def book : EntityDescriptor where
  path := "Book"
  name := "Book"
  table := some "books"
  fields := [{ name := "id", isId := true }, { name := "title", column := some "book_title" },
    { name := "note" },
    { name := "shelf", relation := some .manyToOne, joinColumn := some "shelf_id",
      target := some 1 }]

def mapping : Metadata where
  descriptor := book
  table := "books"
  id := ⟨"id", "id"⟩
  version := none
  columns := [⟨"id", "id"⟩, ⟨"note", "note"⟩, ⟨"title", "book_title"⟩]
  references := [⟨"shelf", "shelf_id", .manyToOne, shelf⟩]
  collections := []
  persistent := [⟨"id", "id", false⟩, ⟨"note", "note", false⟩, ⟨"shelf", "shelf_id", true⟩,
    ⟨"title", "book_title", false⟩]

def quoting (before body after : String) (params : Assoc String Value := .empty) : EntityQuery where
  text := before ++ "'" ++ body ++ "'" ++ after
  params := params

def quotation (before body after : String) (params : Assoc String Value := .empty) :
    Literal (quoting before body after params) where
  before := before.toList
  body := body.toList
  after := after.toList
  split := by simp [quoting]

/-- A query with blanks, a colon and the name of a field in a literal. -/
def query : EntityQuery :=
  quoting "select b from Book b where b.title = " "a note of 10:30" ""

def literal : Literal query :=
  quotation _ _ _

def compiled : CompiledQuery where
  tokens := ["select", "*", "from", "books", "b",
    "left join shelves join_0 on join_0.id = b.shelf_id", "where", "b.book_title", "=", "'a",
    "note", "of", "10:30'"].map String.toList
  params := []

def plan : QueryPlan where
  source := query.text
  kind := .select
  tokens := query.words
  entitySlot := 3
  rootAlias := some ['b']
  aliasSlot := some 4
  params := []

/-- The tokens of the plan with the column of the title. -/
def resolved : List Token :=
  query.words.set 6 "b.book_title".toList

theorem spared (t : Translation [book, shelf] true book query {} compiled) :
    ¬ literal.Selected t.plan ∧ literal.Spared t := by
  have hmapping : t.mapping = mapping := by
    have hresolve : (Journal.resolve [book, shelf] book {}).1 = .ok mapping := rfl
    exact Except.ok.inj (t.mapped.symm.trans hresolve)
  have hplan : t.plan = plan := t.plan_eq rfl
  have hresolved : t.resolved = resolved := by
    have hrun : (plan.resolveFrom (plan.scope [book, shelf] mapping true) 0 plan.tokens
      (Journal.resolve [book, shelf] book {}).2).1 = .ok resolved := rfl
    have hrewritten := t.rewritten
    rw [hplan, hmapping] at hrewritten
    exact Except.ok.inj (hrewritten.symm.trans hrun)
  refine ⟨?_, by decide, by decide, ?_, fun n u hn hu => ?_, fun _ _ => ?_⟩
  · rw [hplan]
    decide
  · rw [hplan]
    decide
  · rw [hplan] at hu ⊢
    rw [hmapping]
    have hfirst : literal.first = 8 := by decide
    have hlast : literal.last = 11 := by decide
    obtain ⟨hlow, hhigh⟩ := hn
    rw [hfirst] at hlow
    rw [hlast] at hhigh
    obtain rfl | rfl | rfl | rfl : n = 8 ∨ n = 9 ∨ n = 10 ∨ n = 11 := by omega
    all_goals
      cases hu
      exact .inr (by decide)
  · rw [hplan, hmapping, hresolved]
    exact .inl (by decide)

theorem literals_survive_note :
    query.compile [book, shelf] true book {} =
        (.ok compiled, (query.compile [book, shelf] true book {}).2) ∧
      literal.text <:+: compiled.sql.toList := by
  have hcompile : query.compile [book, shelf] true book {} =
      (.ok compiled, (query.compile [book, shelf] true book {}).2) := rfl
  obtain ⟨t, hall⟩ := EntityQuery.literals_survive hcompile
  exact ⟨hcompile, hall literal (spared t).1 (spared t).2⟩

/-- Whether a query is translated to a statement that does not have a literal of it, which stands
outside what the query selects. -/
def Lost (strict : Bool) {q : EntityQuery} (l : Literal q) : Prop :=
  ∃ p c k, QueryPlan.ofQuery q = .ok p ∧ ¬ l.Selected p ∧
    q.compile [book, shelf] strict book {} = (.ok c, k) ∧ ¬ l.text <:+: c.sql.toList

/-- A literal is lost by two blanks, a parameter, a field with another name for its column, a word
that joins are put in front of, and the entity name. -/
theorem literals_lost :
    Lost true (quotation "delete from Book where note = " "a  b" "") ∧
      Lost true (quotation "delete from Book where note = " "at :time" "" ⟨[("time", .big 7)]⟩) ∧
      Lost true (quotation "delete from Book where note = " "a title b" "") ∧
      Lost true (quotation "select b from Book b order by b.note = " "a where b" "") ∧
      Lost false (quotation "delete from " "Book" " where id = 1") :=
  ⟨⟨_, _, _, rfl, by decide, rfl, by decide⟩, ⟨_, _, _, rfl, by decide, rfl, by decide⟩,
    ⟨_, _, _, rfl, by decide, rfl, by decide⟩, ⟨_, _, _, rfl, by decide, rfl, by decide +kernel⟩,
    ⟨_, _, _, rfl, by decide, rfl, by decide⟩⟩

end SampleLiterals

end EntityMapper
