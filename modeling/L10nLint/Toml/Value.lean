/-!
# TOML values

A TOML document is a table; its values are strings, integers, floats, booleans, date-times,
arrays and tables. Floats and date-times keep the text they were written with: the reader
checks them, and nothing in this library computes with them.

Tables keep their keys in the order they were first written, and a key appears once.
-/

namespace L10nLint.Toml

/-- A TOML value. -/
inductive Value where
  | string (s : String)
  | integer (n : Int)
  /-- A float, as written. -/
  | float (text : String)
  | boolean (b : Bool)
  /-- An offset or local date-time, a local date or a local time, as written. -/
  | datetime (text : String)
  | array (items : List Value)
  | table (entries : List (String × Value))
  deriving Inhabited

namespace Value

/-- The value under a key of a table; `none` for a missing key and for a value that is not a
table. -/
def get? (v : Value) (key : String) : Option Value :=
  match v with
  | .table entries => entries.lookup key
  | _ => none

/-- The text of a string value. -/
def asString? : Value → Option String
  | .string s => some s
  | _ => none

end Value

end L10nLint.Toml
