import L10nLint.Unicode.DecimalDigit
import L10nLint.Unicode.WhiteSpace

/-!
# Format placeholders

A localized value holds printf-style placeholders such as `%@`, `%d`, `%1$@` or `%.2f`. A
placeholder is `%`, an optional position (`digits$`), flags from `-+0#'`, an optional width
(`digits` or `*`), an optional precision (`.` then `digits` or `*`), an optional length
(`hh`, `h`, `ll`, `l`, `q`, `L`, `z`, `t`, `j`) and one conversion character from
`@dDiuUxXoOfFeEgGcCsSpaA`. Digits are the decimal digits of any script.

Two forms are skipped and not counted: the escaped percent `%%`, and the plural reference
`%#@name@` (with an optional position), whose name holds no `@` and no white space.

`count` scans from the left. At a `%` it first tries `%%`, then a plural reference, then a
placeholder; a form that matches is passed over as a whole, and a `%` where none matches is
passed over alone.

No part before the conversion character can be a conversion character, so a placeholder that
starts at a `%` always ends at the first conversion character after it: `specifierLength`
finds that character and checks that the text before it has the shape above.
-/

namespace L10nLint.Placeholder

open L10nLint.Unicode

/-- The conversion characters. -/
def conversions : List Char := "@dDiuUxXoOfFeEgGcCsSpaA".toList

/-- The flag characters. -/
def flags : List Char := "-+0#'".toList

/-- The length modifiers. -/
def lengthModifiers : List (List Char) :=
  ["hh", "h", "ll", "l", "q", "L", "z", "t", "j"].map String.toList

/-- Removes an optional position `digits$`: the text after the `$`, or `cs` unchanged. -/
def dropPosition (cs : List Char) : List Char :=
  match cs.dropWhile isDecimalDigit with
  | '$' :: rest => if (cs.takeWhile isDecimalDigit).isEmpty then cs else rest
  | _ => cs

/-- The alternatives for an optional position: with it (when there is one) and without it. -/
def positionChoices (cs : List Char) : List (List Char) :=
  if dropPosition cs = cs then [cs] else [dropPosition cs, cs]

/-- Removes an optional width: `digits` or `*`. -/
def dropWidth : List Char → List Char
  | '*' :: rest => rest
  | cs => cs.dropWhile isDecimalDigit

/-- Removes an optional precision: `.` then `digits` or `*`. `none` when a `.` is not
followed by either. -/
def dropPrecision : List Char → Option (List Char)
  | '.' :: '*' :: rest => some rest
  | '.' :: rest =>
    if (rest.takeWhile isDecimalDigit).isEmpty then none else some (rest.dropWhile isDecimalDigit)
  | cs => some cs

/-- Whether the text between `%` (past the position) and the conversion character is flags,
width, precision and length modifier, each optional, in this order. -/
def isSpecifierBody (cs : List Char) : Bool :=
  match dropPrecision (dropWidth (cs.dropWhile (· ∈ flags))) with
  | some rest => rest.isEmpty || lengthModifiers.contains rest
  | none => false

/-- The length of the placeholder that starts right after a `%`, conversion character
included, or `none` when none starts there. -/
def specifierLength (cs : List Char) : Option Nat :=
  match cs.findIdx? (· ∈ conversions) with
  | some i =>
    if (positionChoices (cs.take i)).any isSpecifierBody then some (i + 1) else none
  | none => none

/-- The length of the plural reference `[digits$]#@name@` that starts right after a `%`, or
`none`. -/
def pluralReferenceLength (cs : List Char) : Option Nat :=
  match dropPosition cs with
  | '#' :: '@' :: rest =>
    match (rest.dropWhile (fun c => c ≠ '@' && !isWhiteSpace c)) with
    | '@' :: _ =>
      some (cs.length - (dropPosition cs).length + 2 +
        (rest.takeWhile (fun c => c ≠ '@' && !isWhiteSpace c)).length + 1)
    | _ => none
  | _ => none

/-- What the scan does at a `%`: skip an escape or a plural reference, count a placeholder,
or pass over the `%` alone. The number is how many characters after the `%` it passes. -/
inductive Step where
  | skip (n : Nat)
  | count (n : Nat)
  | pass

/-- The step at a `%` whose following text is `cs`; the alternatives are tried in order. -/
def step (cs : List Char) : Step :=
  match cs with
  | '%' :: _ => .skip 1
  | _ =>
    match pluralReferenceLength cs with
    | some n => .skip n
    | none =>
      match specifierLength cs with
      | some n => .count n
      | none => .pass

/-- The number of placeholders in `cs`, scanning from the left. -/
def countChars : List Char → Nat
  | [] => 0
  | c :: rest =>
    if c = '%' then
      match step rest with
      | .skip n => countChars (rest.drop n)
      | .count n => countChars (rest.drop n) + 1
      | .pass => countChars rest
    else countChars rest
termination_by cs => cs.length
decreasing_by
  all_goals simp only [List.length_drop, List.length_cons]
  all_goals omega

/-- The number of placeholders in a localized value. -/
def count (s : String) : Nat := countChars s.toList

/-- The placeholder count of a record's values: the largest count, or 0 for no values. -/
def maxCount (values : List String) : Nat := values.foldl (fun m v => max m (count v)) 0

end L10nLint.Placeholder
