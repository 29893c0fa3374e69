import L10nLint.Text.Case

/-!
# Accessor names of declaration keys

A resource file declares strings under dotted keys such as `CHECKOUT.PAY_NOW_BUTTON`; the
application reaches them through generated accessors such as `l10n.checkout.payNowButton`.
Code scanners report accessor names, so a declared key is turned into its accessor before
the two are compared:

1. the key is cut at `.` and empty segments are dropped;
2. a segment is cut at `_` into words, empty words dropped, and every word is lower-cased;
3. every word but a segment's first is capitalized (its first character is upper-cased); the
   first word of a segment is capitalized too, except in the first segment of a one-segment key
   (see `capitalizesFirstWord`);
4. the words are joined and the first character of the segment is lower-cased;
5. the segments are joined with `.` behind the prefix `l10n.`.

Keys are then compared by their `matchKey`, the lower-cased accessor. For ASCII keys step 3
and the lower-casing of step 4 cancel on a segment's first word; outside ASCII they need not
(`ß` capitalizes to `SS`, which then lowers to `sS`).
-/

namespace L10nLint.Key

open L10nLint.Text

/-- The prefix of every accessor. -/
def accessorPrefix : List Char := "l10n".toList

/-- The non-empty `.`-separated segments of a key. -/
def segments (key : List Char) : List (List Char) := (key.splitOn '.').filter (· ≠ [])

/-- The non-empty `_`-separated words of a segment. -/
def words (segment : List Char) : List (List Char) := (segment.splitOn '_').filter (· ≠ [])

/-- Whether the first word of segment `i` of `n` is capitalized: in every segment after the
first, and in the first one when more segments follow. -/
def capitalizesFirstWord (i n : Nat) : Bool := 0 < i || (1 < n && i < n - 1)

/-- Lower-camel-cases the words of a segment; the first word is capitalized when
`capitalizeFirst` holds, every other word always. -/
def camelCase (segment : List Char) (capitalizeFirst : Bool) : List Char :=
  match words segment with
  | [] => []
  | w :: ws =>
    (if capitalizeFirst then capitalize (lowerChars w) else lowerChars w) ++
      ws.flatMap (fun w => capitalize (lowerChars w))

/-- The accessor component of segment `i` of `n`. -/
def component (n i : Nat) (segment : List Char) : List Char :=
  lowerFirst (camelCase segment (capitalizesFirstWord i n))

/-- The accessor name of a declared key, as characters. -/
def accessorChars (key : List Char) : List Char :=
  accessorPrefix ++ '.' ::
    ['.'].intercalate ((segments key).mapIdx (component (segments key).length))

/-- The accessor name of a declared key. -/
def accessor (key : String) : String := String.ofList (accessorChars key.toList)

/-- The case-insensitive form under which accessors and used keys are compared. -/
def matchKey (accessor : String) : String := toLower accessor

/-- The match key of a key as written in a declaration file or in the configuration. -/
def declaredMatchKey (key : String) : String := matchKey (accessor key)

end L10nLint.Key
