import L10nLint.Json.Read
import L10nLint.Comment.Vocabulary

/-!
# Structured comments

`Structured.decode` reads the four known members of a structured comment's JSON object, each
optional, with `null` standing for a missing member:

* `description` and `img`: strings;
* `placeholders`: an array of strings;
* `max_character_count`: a whole number. An integer literal is read as it is (one past the
  64-bit signed range counts as its largest value); any other number must be integral as a
  binary64 value and is clamped to the 64-bit signed range, so `4.0` is `4` and `1e300` is
  `2^63 - 1`, while `4.5` is refused.

A member of the wrong type refuses the whole comment; other members are not read here.
-/

namespace L10nLint.Comment

open L10nLint.Json

/-- The known members of a structured comment. -/
structure Structured where
  description : Option String
  placeholders : Option (List String)
  img : Option String
  maxCharacterCount : Option Int
  deriving DecidableEq, Repr

/-- The largest 64-bit signed integer. -/
def int64Max : Int := Int.pow 2 63 - 1

/-- A number as a whole 64-bit count, or `none` when it has a fractional part. -/
def wholeNumber : Number → Option Int
  | .nat n => some (min n int64Max)
  | .negInt n => some n
  | .float x => if x.isWhole then some x.toInt64Sat else none

/-- Reads an optional member with `read`; a missing member and `null` are `none`, and a
member that `read` refuses refuses the comment. -/
def optMember {α : Type} (fields : List (String × Value)) (name : String)
    (read : Value → Option α) : Option (Option α) :=
  match fields.lookup name with
  | none => some none
  | some .null => some none
  | some v => (read v).map some

/-- Reads a string. -/
def readString : Value → Option String
  | .string s => some s
  | _ => none

/-- Reads an array of strings. -/
def readStrings : Value → Option (List String)
  | .array items => items.mapM readString
  | _ => none

/-- Reads a whole number. -/
def readWhole : Value → Option Int
  | .number n => wholeNumber n
  | _ => none

/-- Reads the known members of a structured comment's object. -/
def Structured.decode (fields : List (String × Value)) : Option Structured := do
  pure {
    description := ← optMember fields "description" readString
    placeholders := ← optMember fields "placeholders" readStrings
    img := ← optMember fields "img" readString
    maxCharacterCount := ← optMember fields "max_character_count" readWhole }

/-- The first member name outside the allowed ones; members come sorted, so it is the least
such name. -/
def unknownKey (fields : List (String × Value)) : Option String :=
  (fields.find? (fun (k, _) => !allowedKeys.contains k)).map Prod.fst

end L10nLint.Comment
