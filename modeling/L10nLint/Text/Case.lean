import L10nLint.Unicode.CaseMapping

/-!
# Case conversion

Full Unicode case conversion. A character's mapping may be longer than the character:
`İ` lowers to `i` followed by a combining dot above, `ß` uppers to `SS` and `ﬁ` to `FI`.

An ASCII character is mapped without the tables: only the letters `A`-`Z` and `a`-`z`
change, to their ASCII counterparts (`Char.toLower`, `Char.toUpper`), which is what the tables
say of them.

Lower-casing a text differs from lower-casing its characters one by one only at a capital
sigma `Σ`: it becomes the final form `ς` when it ends a word, that is when a cased letter
comes before it and none after it, looking past case-ignorable characters (apostrophes,
combining marks and the like) on both sides. Everywhere else it becomes `σ`.
-/

namespace L10nLint.Text

open L10nLint.Unicode

/-- The full lower-case mapping of a character on its own. -/
def lowerChar (c : Char) : List Char :=
  if c.toNat < 128 then [c.toLower]
  else
    match lowerMapping.get c with
    | [] => [c]
    | cs => cs

/-- The full upper-case mapping of a character on its own. -/
def upperChar (c : Char) : List Char :=
  if c.toNat < 128 then [c.toUpper]
  else
    match upperMapping.get c with
    | [] => [c]
    | cs => cs

/-- Whether the first character that is not case-ignorable is cased. -/
def casedPastIgnorable (cs : List Char) : Bool :=
  match cs.dropWhile isCaseIgnorable with
  | c :: _ => isCased c
  | [] => false

/-- A capital sigma ends a word: cased before it, and not cased after it. The characters
before it are given nearest first. -/
def sigmaEndsWord (before after : List Char) : Bool :=
  casedPastIgnorable before && !casedPastIgnorable after

/-- Lower-cases `cs`; `before` holds the characters already passed, nearest first. -/
def lowerFrom (before : List Char) : List Char → List Char
  | [] => []
  | c :: rest =>
    (if c = 'Σ' then [if sigmaEndsWord before rest then 'ς' else 'σ'] else lowerChar c) ++
      lowerFrom (c :: before) rest

/-- Full lower-casing of a text, with the word-final sigma rule. -/
def lowerChars (cs : List Char) : List Char := lowerFrom [] cs

/-- Full lower-casing of a string, with the word-final sigma rule. -/
def toLower (s : String) : String := String.ofList (lowerChars s.toList)

/-- Replaces the first character by its full upper-case mapping. -/
def capitalize : List Char → List Char
  | [] => []
  | c :: rest => upperChar c ++ rest

/-- Replaces the first character by its full lower-case mapping. -/
def lowerFirst : List Char → List Char
  | [] => []
  | c :: rest => lowerChar c ++ rest

theorem lowerChar_of_lt {c : Char} (h : c.toNat < 128) : lowerChar c = [c.toLower] := by
  rw [lowerChar, if_pos h]

theorem upperChar_of_lt {c : Char} (h : c.toNat < 128) : upperChar c = [c.toUpper] := by
  rw [upperChar, if_pos h]

@[simp] theorem lowerFrom_nil (before : List Char) : lowerFrom before [] = [] := rfl

@[simp] theorem capitalize_nil : capitalize [] = [] := rfl

@[simp] theorem lowerFirst_nil : lowerFirst [] = [] := rfl

end L10nLint.Text
