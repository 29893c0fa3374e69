import L10nLint.Violation
import L10nLint.Placeholder

/-!
# Records

A record is one occurrence of a localized string: declared in a resource file, or used at a
call site found by a code scanner. Keys are not unique: one key is declared once per table or
locale and may be used many times.

`placeholderCount` is the number of placeholders the string's values hold: the largest count
over its values (plural forms give several), unless a reader states it outright.
-/

namespace L10nLint

/-- One occurrence of a localized string. -/
structure Record where
  key : String
  table : Option String := none
  locale : Option String := none
  location : Location
  comment : Option String := none
  value : List String := []
  placeholderCount : Nat := 0
  deriving DecidableEq, Repr, Inhabited

/-- Sets the values and counts their placeholders. -/
def Record.withValue (r : Record) (values : List String) : Record :=
  { r with value := values, placeholderCount := Placeholder.maxCount values }

end L10nLint
