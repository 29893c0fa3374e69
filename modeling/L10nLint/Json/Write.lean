import L10nLint.Json.Value

/-!
# Writing JSON

`Value.compact` writes a value as compact JSON: no white space, members in the order the
object keeps them (sorted by name), strings with `"` and `\` escaped, the controls backspace,
form feed, line feed, carriage return and tab written as `\b`, `\f`, `\n`, `\r`, `\t`, other
controls below `U+0020` as `\u00` and two lower-case hexadecimal digits, and every other
character as itself.

A binary64 number is written as a decimal numeral with an exponent, `digits` then `e` and
the power of ten, which reads back as a number of the same kind.
-/

namespace L10nLint.Json

/-- Two lower-case hexadecimal digits. -/
def hex2 (n : Nat) : List Char :=
  let d := fun k => if k < 10 then Char.ofNat (48 + k) else Char.ofNat (87 + k)
  [d (n / 16 % 16), d (n % 16)]

/-- The written form of one character inside a string. -/
def escapeChar (c : Char) : List Char :=
  if c = '"' then ['\\', '"']
  else if c = '\\' then ['\\', '\\']
  else if c = '\x08' then ['\\', 'b']
  else if c = '\x0c' then ['\\', 'f']
  else if c = '\n' then ['\\', 'n']
  else if c = '\r' then ['\\', 'r']
  else if c = '\t' then ['\\', 't']
  else if c.toNat < 0x20 then ['\\', 'u', '0', '0'] ++ hex2 c.toNat
  else [c]

/-- A string literal. -/
def quoteString (s : String) : List Char := '"' :: s.toList.flatMap escapeChar ++ ['"']

/-- The digits of a natural number. -/
def natDigits (n : Nat) : List Char := (toString n).toList

/-- A binary64 value as `digits e power`: `m · 2^e` is `m · 5^-e · 10^e` for negative `e`. -/
def binary64Chars (x : Binary64) : List Char :=
  let sign := if x.negative then ['-'] else []
  if 0 ≤ x.exponent then sign ++ natDigits (x.mantissa * Nat.pow 2 x.exponent.toNat) ++ ['e', '0']
  else sign ++ natDigits (x.mantissa * Nat.pow 5 (-x.exponent).toNat) ++ ['e', '-'] ++
    natDigits (-x.exponent).toNat

/-- The written form of a number. -/
def Number.chars : Number → List Char
  | .nat n => natDigits n
  | .negInt n => '-' :: natDigits n.natAbs
  | .float x => binary64Chars x

mutual

/-- Writes a value as compact JSON characters. -/
def Value.chars : Value → List Char
  | .null => "null".toList
  | .bool true => "true".toList
  | .bool false => "false".toList
  | .number n => n.chars
  | .string s => quoteString s
  | .array items => '[' :: itemsChars items ++ [']']
  | .object fields => '\x7b' :: fieldsChars fields ++ ['\x7d']

/-- Array elements separated by commas. -/
def itemsChars : List Value → List Char
  | [] => []
  | [v] => v.chars
  | v :: vs => v.chars ++ ',' :: itemsChars vs

/-- Object members `"name":value` separated by commas. -/
def fieldsChars : List (String × Value) → List Char
  | [] => []
  | [(k, v)] => quoteString k ++ ':' :: v.chars
  | (k, v) :: rest => quoteString k ++ ':' :: v.chars ++ ',' :: fieldsChars rest

end

/-- Writes a value as compact JSON. -/
def Value.compact (v : Value) : String := String.ofList v.chars

end L10nLint.Json
