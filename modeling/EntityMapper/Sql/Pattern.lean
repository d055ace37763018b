/-! Patterns that texts are matched with. -/

namespace EntityMapper.Sql

/-- A part of a pattern. -/
inductive PatternPart where
  /-- Any number of characters. -/
  | many
  /-- Any one character. -/
  | one
  | char (c : Char)
  /-- One character among ranges, or else one that is in none of them. -/
  | among (ranges : List (Char × Char)) (negated : Bool)
  deriving DecidableEq

namespace PatternPart

/-- Whether a part that stands for one character stands for a given one. -/
def admits (caseless : Bool) (c : Char) : PatternPart → Bool
  | many => false
  | one => true
  | char d => c == d || (caseless && c.toLower == d.toLower)
  | among ranges negated => (ranges.any fun (low, high) => low ≤ c && c ≤ high) != negated

/-- What is left of a list when elements at its front are dropped. -/
def suffixes : List Char → List (List Char)
  | [] => [[]]
  | c :: cs => (c :: cs) :: suffixes cs

def fits (caseless : Bool) : List PatternPart → List Char → Bool
  | [], cs => cs.isEmpty
  | many :: rest, cs => (suffixes cs).any (fits caseless rest)
  | _ :: _, [] => false
  | part :: rest, c :: cs => part.admits caseless c && fits caseless rest cs

/-- The pattern with a percent sign for any characters and a line for one. A character may make
the next one stand for itself; at the end it leaves nothing that the pattern stands for. -/
def ofLike (escape : Option Char) : List Char → Option (List PatternPart)
  | [] => some []
  | c :: rest =>
    if escape == some c then
      match rest with
      | [] => none
      | d :: more => (ofLike escape more).map (char d :: ·)
    else
      let part := if c == '%' then many else if c == '_' then one else char c
      (ofLike escape rest).map (part :: ·)

/-- The ranges up to a closing bracket, with what follows it. -/
def rangesOf : List Char → Option (List (Char × Char) × List Char)
  | [] => none
  | ']' :: rest => some ([], rest)
  | a :: '-' :: b :: rest =>
    if b == ']' then some ([(a, a), ('-', '-')], rest)
    else (rangesOf rest).map fun (ranges, rest) => ((a, b) :: ranges, rest)
  | c :: rest => (rangesOf rest).map fun (ranges, rest) => ((c, c) :: ranges, rest)

/-- The ranges in brackets. A closing bracket at the start is one of the characters. -/
def setOf (cs : List Char) : Option (PatternPart × List Char) :=
  let (negated, cs) := match cs with
    | '^' :: rest => (true, rest)
    | cs => (false, cs)
  match cs with
  | ']' :: rest =>
    (rangesOf rest).map fun (ranges, rest) => (among ((']', ']') :: ranges) negated, rest)
  | cs => (rangesOf cs).map fun (ranges, rest) => (among ranges negated, rest)

/-- The pattern with a star for any characters, a question mark for one, and sets in brackets. The
first argument bounds its length. -/
def ofGlob : Nat → List Char → Option (List PatternPart)
  | 0, _ => some []
  | fuel + 1, cs =>
    match cs with
    | [] => some []
    | '*' :: rest => (ofGlob fuel rest).map (many :: ·)
    | '?' :: rest => (ofGlob fuel rest).map (one :: ·)
    | '[' :: rest => do
      let (part, rest) ← setOf rest
      return part :: (← ofGlob fuel rest)
    | c :: rest => (ofGlob fuel rest).map (char c :: ·)

/-- Whether a text is like a pattern, without regard to the case of ASCII letters. -/
def alike (pattern text : String) (escape : Option Char) : Bool :=
  (ofLike escape pattern.toList).any (fits true · text.toList)

def globs (pattern text : String) : Bool :=
  (ofGlob pattern.length pattern.toList).any (fits false · text.toList)

@[simp] theorem fits_nil (caseless : Bool) (cs : List Char) : fits caseless [] cs = cs.isEmpty := by
  cases cs <;> rfl

example : alike "gr%" "Grace" none = true := by decide +kernel
example : alike "a!%" "ab" (some '!') = false := by decide +kernel
example : globs "[a-c]*z" "b--z" = true := by decide +kernel

end PatternPart

end EntityMapper.Sql
