import EntityMapper.Proofs.Entity.Unmarked
import EntityMapper.Query.Plan
import Mathlib.Data.List.Forall2
/-! The pieces of the words of a query: which names they have, and which values these stand for. -/

namespace EntityMapper

open Text

/-- What a text begins with ends with the text if nothing behind it goes on. -/
theorem takeWhile_append_of_head {α : Type} {p : α → Bool} {m : List α} (hm : m.takeWhile p = [])
    (l : List α) : (l ++ m).takeWhile p = l.takeWhile p := by
  rw [List.takeWhile_append, hm, List.append_nil]
  split
  · rename_i hall
    exact ((List.takeWhile_prefix p).eq_of_length hall).symm
  · rfl

namespace Piece

@[simp] theorem filterMap_plain (c : Char) (ps : List Piece) :
    (plain c :: ps).filterMap name? = ps.filterMap name? := rfl

@[simp] theorem filterMap_parameter (name : Token) (ps : List Piece) :
    (parameter name :: ps).filterMap name? = name :: ps.filterMap name? := rfl

/-- The names of the parameters in words, in order. -/
def names (ws : List Token) : List Token :=
  ws.flatMap fun w => (ofToken w).filterMap name?

@[simp] theorem names_nil : names [] = [] := rfl

@[simp] theorem names_cons (w : Token) (ws : List Token) :
    names (w :: ws) = (ofToken w).filterMap name? ++ names ws := by
  simp [names]

@[simp] theorem names_append (vs ws : List Token) : names (vs ++ ws) = names vs ++ names ws := by
  simp [names]

def ofText (t : Token) : List Piece :=
  t.map plain

@[simp] theorem placed_ofText (t : Token) : (ofText t).map placed = t := by
  simp [ofText, placed, Function.comp_def]

@[simp] theorem name_ofText (t : Token) : (ofText t).filterMap name? = [] := by
  simp [ofText, name?]

theorem plain_mem_ofText {t : Token} {c : Char} : plain c ∈ ofText t ↔ c ∈ t := by
  simp [ofText]

/-- Scanning a token, also behind a name, finds only characters of the token. -/
theorem mem_of_plain_mem (t : Token) (c : Char) :
    (∀ free, plain c ∈ scan free t → c ∈ t) ∧ (plain c ∈ skipName t → c ∈ t) := by
  induction t with
  | nil => simp [scan, skipName]
  | cons d rest ih =>
    constructor
    · intro free h
      unfold scan at h
      split at h
      · simp only [List.mem_cons, reduceCtorEq, false_or] at h
        exact List.mem_cons_of_mem d (ih.2 h)
      · rcases List.mem_cons.mp h with h | h
        · cases h
          exact List.mem_cons_self
        · exact List.mem_cons_of_mem d (ih.1 _ h)
    · intro h
      unfold skipName at h
      split at h
      · exact List.mem_cons_of_mem d (ih.2 h)
      · rcases List.mem_cons.mp h with h | h
        · cases h
          exact List.mem_cons_self
        · exact List.mem_cons_of_mem d (ih.1 _ h)

theorem unmarked_of_plain_mem {t : Token} (ht : Unmarked t) {c : Char} (h : plain c ∈ ofToken t) :
    c ≠ '?' := by
  rintro rfl
  exact ht ((mem_of_plain_mem t '?').1 true h)

/-- A token without a place has no parameter. -/
theorem names_eq_nil_of_unmarked {ps : List Piece} (h : Unmarked (ps.map placed)) :
    ps.filterMap name? = [] := by
  induction ps with
  | nil => rfl
  | cons p ps ih =>
    cases p with
    | plain c =>
      rw [List.map_cons, unmarked_cons] at h
      simpa using ih h.2
    | parameter name => simp [placed] at h

/-- The places of pieces are its parameters, if no other piece looks like a place. -/
theorem count_placed {ps : List Piece} (h : ∀ c, plain c ∈ ps → c ≠ '?') :
    (ps.map placed).count '?' = (ps.filterMap name?).length := by
  induction ps with
  | nil => rfl
  | cons p ps ih =>
    have hrest := ih fun c hc => h c (List.mem_cons_of_mem p hc)
    cases p with
    | plain c =>
      have hc : c ≠ '?' := h c List.mem_cons_self
      rw [List.map_cons, filterMap_plain, ← hrest]
      exact List.count_cons_of_ne hc
    | parameter name =>
      rw [List.map_cons, filterMap_parameter, List.length_cons, ← hrest]
      exact List.count_cons_self

section Cutting

variable {c : Char}

theorem admits_iff : admits c = true ↔ c ≠ ':' ∧ isWordChar c = false := by
  simp [admits]

theorem takeWhile_append_of_admits (hc : admits c = true) (t rest : Token) :
    (t ++ c :: rest).takeWhile isWordChar = t.takeWhile isWordChar :=
  takeWhile_append_of_head (List.takeWhile_cons_of_neg (by simp [(admits_iff.mp hc).2])) t

theorem beginsName_append_of_admits (hc : admits c = true) (t rest : Token) :
    beginsName (t ++ c :: rest) = beginsName t := by
  cases t with
  | nil =>
    refine Bool.eq_false_iff.mpr fun h => ?_
    have := isWordChar_of_isNameStart h
    simp [(admits_iff.mp hc).2] at this
  | cons d t => rfl

/-- Scanning starts again behind a character that is neither a colon nor part of a word. -/
theorem scan_append (hc : admits c = true) (t rest : Token) :
    (∀ free, scan free (t ++ c :: rest) = scan free t ++ plain c :: scan true rest) ∧
      skipName (t ++ c :: rest) = skipName t ++ plain c :: scan true rest := by
  obtain ⟨hcolon, hword⟩ := admits_iff.mp hc
  induction t with
  | nil =>
    simp [scan, skipName, hcolon, hword, hc]
  | cons d t ih =>
    refine ⟨fun free => ?_, ?_⟩
    · rw [List.cons_append, scan, scan, beginsName_append_of_admits hc,
        takeWhile_append_of_admits hc]
      split
      · rw [ih.2]
        rfl
      · rw [ih.1]
        rfl
    · rw [List.cons_append, skipName, skipName]
      split
      · exact ih.2
      · rw [ih.1]
        rfl

end Cutting

/-- A token without parameters is placed as it stands. -/
theorem placed_scan {free : Bool} {t : Token} (h : (scan free t).filterMap name? = []) :
    (scan free t).map placed = t := by
  induction t generalizing free with
  | nil => rfl
  | cons c t ih =>
    rw [scan] at h ⊢
    split at h
    · cases h
    · rename_i hplain
      rw [if_neg hplain, List.map_cons, ih h]
      rfl

end Piece

/-- A token with a question mark in the place of each parameter. -/
def Token.withPlaces (t : Token) : Token :=
  (Piece.ofToken t).map Piece.placed

namespace Token

theorem withPlaces_append {c : Char} (hc : Piece.admits c = true) (t rest : Token) :
    (t ++ c :: rest).withPlaces = t.withPlaces ++ c :: rest.withPlaces := by
  simp [withPlaces, Piece.ofToken, (Piece.scan_append hc t rest).1, Piece.placed]

theorem withPlaces_of_names {t : Token} (h : Piece.names [t] = []) :
    t.withPlaces = t :=
  Piece.placed_scan (by simpa [Piece.ofToken] using h)

/-- What parts texts parts them also for the places. -/
theorem intercalate_withPlaces {c : Char} (hc : Piece.admits c = true) (ws : List Token) :
    List.intercalate [c] (ws.map withPlaces) = withPlaces (List.intercalate [c] ws) := by
  induction ws with
  | nil => rfl
  | cons w ws ih =>
    cases ws with
    | nil => simp
    | cons v vs =>
      rw [List.intercalate_cons_cons, List.append_assoc, List.singleton_append,
        withPlaces_append hc, ← ih, List.map_cons, List.map_cons, List.intercalate_cons_cons,
        List.append_assoc, List.singleton_append]

end Token

namespace EntityQuery

def words (q : EntityQuery) : List Token :=
  Text.words q.text.toList

def Binds (bound : Assoc String Value) (name : Token) (v : Value) : Prop :=
  bound.find? (String.ofList name) = some v

end EntityQuery

open EntityQuery (Binds)

variable {bound : Assoc String Value}

theorem forall₂_of_lookUpAll {names : List Token} {vs : List Value}
    (h : lookUpAll bound names = .ok vs) : List.Forall₂ (Binds bound) names vs := by
  induction names generalizing vs with
  | nil =>
    cases h
    exact .nil
  | cons name rest ih =>
    unfold lookUpAll at h
    split at h
    · cases h
    · rename_i v hv
      cases hr : lookUpAll bound rest with
      | error e => simp [hr, Except.map] at h
      | ok us =>
        simp only [hr, Except.map, Except.ok.injEq] at h
        subst h
        exact .cons hv (ih hr)

/-- Placing keeps the words and gives the values of all their parameters. -/
theorem QueryPlan.of_placeAll {ws tokens : List Token} {params : List Value}
    (h : placeAll bound ws = .ok (tokens, params)) :
    tokens = ws.map (fun w => (Piece.ofToken w).map Piece.placed) ∧
      List.Forall₂ (Binds bound) (Piece.names ws) params := by
  induction ws generalizing tokens params with
  | nil =>
    cases h
    exact ⟨rfl, .nil⟩
  | cons w ws ih =>
    simp only [placeAll, placeParameters] at h
    cases hl : lookUpAll bound ((Piece.ofToken w).filterMap Piece.name?) with
    | error e => simp [hl, Except.map, Bind.bind, Except.bind] at h
    | ok vs =>
      cases hr : placeAll bound ws with
      | error e => simp [hl, hr, Except.map, Bind.bind, Except.bind] at h
      | ok p =>
        simp only [hl, hr, Except.map, Bind.bind, Except.bind, pure, Except.pure, Except.ok.injEq,
          Prod.mk.injEq] at h
        obtain ⟨rfl, rfl⟩ := h
        obtain ⟨ht, hv⟩ := ih hr
        refine ⟨by rw [ht]; rfl, ?_⟩
        rw [Piece.names_cons]
        exact List.rel_append (forall₂_of_lookUpAll hl) hv

theorem Text.mem_of_mem_words {cs : List Char} {w : Token} (hw : w ∈ words cs) {c : Char}
    (hc : c ∈ w) : c ∈ cs := by
  induction cs generalizing w with
  | nil => cases hw
  | cons d rest ih =>
    unfold words at hw
    split at hw
    · exact List.mem_cons_of_mem d (ih hw hc)
    · split at hw
      · cases hws : words rest with
        | nil => simp [hws] at hw
        | cons v vs =>
          rw [hws] at ih hw
          rcases List.mem_cons.mp hw with rfl | hw
          · rcases List.mem_cons.mp hc with rfl | hc
            · exact List.mem_cons_self
            · exact List.mem_cons_of_mem d (ih List.mem_cons_self hc)
          · exact List.mem_cons_of_mem d (ih (List.mem_cons_of_mem v hw) hc)
      · rcases List.mem_cons.mp hw with rfl | hw
        · rw [List.mem_singleton.mp hc]
          exact List.mem_cons_self
        · exact List.mem_cons_of_mem d (ih hw hc)

/-- The words of a query without question marks have none. -/
theorem EntityQuery.unmarked_of_mem_words {q : EntityQuery} (hq : Unmarked q.text.toList) :
    ∀ w ∈ q.words, Unmarked w :=
  fun _ hw hc => hq (Text.mem_of_mem_words hw hc)

end EntityMapper
