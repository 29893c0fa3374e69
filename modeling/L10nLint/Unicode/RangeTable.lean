/-!
# Code point range tables

A Unicode property assigns a value to every code point, and almost all of them are constant
over long runs. A `RangeTable` stores the runs as sorted, disjoint, inclusive ranges
`(lo, hi, value)` together with the value of every code point that no range covers.

The property modules keep their data as compact text (`RangeTable.decode`), so that a table of
thousands of ranges is one string literal rather than thousands of terms; the text is read once,
when the table is first used. Look-up is a binary search over the ranges.

Text format: entries are separated by `;`, and an entry is `lo,hi,token` or `lo,hi` in
lower-case hexadecimal. The token names the value; an entry without one gets the table's
`marked` value. An entry whose token is not understood is skipped.
-/

namespace L10nLint.Unicode

/-- A property value per code point: the values of sorted, disjoint, inclusive ranges, and
`fallback` everywhere else. -/
structure RangeTable (α : Type) where
  ranges : Array (Nat × Nat × α)
  fallback : α

namespace RangeTable

variable {α : Type}

/-- Binary search for the range that holds `cp` among `ranges[lo:hi)`. -/
def search (ranges : Array (Nat × Nat × α)) (cp : Nat) (lo hi : Nat) : Option α :=
  if lo < hi then
    match ranges[(lo + hi) / 2]? with
    | none => none
    | some (a, b, v) =>
      if cp < a then search ranges cp lo ((lo + hi) / 2)
      else if b < cp then search ranges cp ((lo + hi) / 2 + 1) hi
      else some v
  else none
termination_by hi - lo

/-- The property value of a code point. -/
def lookup (t : RangeTable α) (cp : Nat) : α :=
  (search t.ranges cp 0 t.ranges.size).getD t.fallback

/-- The property value of a character. -/
def get (t : RangeTable α) (c : Char) : α := t.lookup c.toNat

/-- Value of one lower-case (or upper-case) hexadecimal digit. -/
def hexDigit (c : Char) : Option Nat :=
  if '0' ≤ c ∧ c ≤ '9' then some (c.toNat - '0'.toNat)
  else if 'a' ≤ c ∧ c ≤ 'f' then some (c.toNat - 'a'.toNat + 10)
  else if 'A' ≤ c ∧ c ≤ 'F' then some (c.toNat - 'A'.toNat + 10)
  else none

/-- Reads a non-empty hexadecimal numeral. -/
def hexValue (s : String) : Option Nat :=
  if s.isEmpty then none
  else s.foldl (fun acc c => do
    let n ← acc
    let d ← hexDigit c
    pure (16 * n + d)) (some 0)

/-- Reads one `lo,hi[,token]` entry. -/
def decodeEntry (marked : α) (value : String → Option α) (entry : String) :
    Option (Nat × Nat × α) :=
  match entry.splitOn "," with
  | [lo, hi] => do pure (← hexValue lo, ← hexValue hi, marked)
  | [lo, hi, token] => do pure (← hexValue lo, ← hexValue hi, ← value token)
  | _ => none

/-- Builds a table from its text form (see the module header). -/
def decode (text : String) (fallback marked : α) (value : String → Option α) : RangeTable α :=
  { ranges := ((text.splitOn ";").filterMap (decodeEntry marked value)).toArray, fallback }

end RangeTable

/-- A set of code points, as a table of membership. -/
abbrev RangeSet := RangeTable Bool

/-- Builds a set from `lo,hi` entries separated by `;`. -/
def RangeSet.decode (text : String) : RangeSet :=
  RangeTable.decode text false true (fun _ => none)

/-- Whether the set holds the character. -/
def RangeSet.contains (s : RangeSet) (c : Char) : Bool := s.get c

end L10nLint.Unicode
