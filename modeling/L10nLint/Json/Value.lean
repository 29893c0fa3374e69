import L10nLint.Number.Binary64

/-!
# JSON values

A JSON value as the reader builds it. A number keeps its kind: a non-negative integer literal
below `2^64`, a negative integer literal down to `-2^63`, and every other number as the
binary64 value the reader computed for it. So `4` and `4.0` are different numbers.

An object keeps its members sorted by name (in code point order, which is also the byte order
of their UTF-8 forms) with one member per name; adding a member under a name that is already
there replaces its value (`Fields.insert`).
-/

namespace L10nLint.Json

/-- A JSON number, with its kind. -/
inductive Number where
  /-- A non-negative integer literal below `2^64`. -/
  | nat (n : Nat)
  /-- A negative integer literal down to `-2^63`. -/
  | negInt (n : Int)
  /-- Any other number. -/
  | float (x : Binary64)
  deriving DecidableEq, Repr

/-- A JSON value. -/
inductive Value where
  | null
  | bool (b : Bool)
  | number (n : Number)
  | string (s : String)
  | array (items : List Value)
  | object (fields : List (String × Value))
  deriving Inhabited

/-- Adds a member to fields sorted by name, replacing the value of a member of that name. -/
def Fields.insert (name : String) (v : Value) : List (String × Value) → List (String × Value)
  | [] => [(name, v)]
  | (k, w) :: rest =>
    if name = k then (name, v) :: rest
    else if name < k then (name, v) :: (k, w) :: rest
    else (k, w) :: Fields.insert name v rest

/-- Builds an object from members in any order; of two members with one name the later wins. -/
def Value.obj (fields : List (String × Value)) : Value :=
  .object (fields.foldl (fun acc (k, v) => Fields.insert k v acc) [])

/-- The value of a member of an object; `none` for a missing member or a non-object. -/
def Value.field? : Value → String → Option Value
  | .object fields, name => fields.lookup name
  | _, _ => none

/-- A natural number as a JSON number. -/
def Value.nat (n : Nat) : Value := .number (.nat n)

/-- A list of strings as a JSON array. -/
def Value.strings (xs : List String) : Value := .array (xs.map .string)

/-- A string, or `null` for none. -/
def Value.optString : Option String → Value
  | some s => .string s
  | none => .null

end L10nLint.Json
