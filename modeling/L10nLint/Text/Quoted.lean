import L10nLint.Unicode.Printable

/-!
# Quoted text

`quote s` writes `s` between double quotes so that every character can be read off the
result. The quote and the backslash get a backslash; NUL, tab, carriage return and line feed
are written `\0`, `\t`, `\r` and `\n`; a character that would attach to the one before it
(`Grapheme_Extend`) or that has no visible form (see `Unicode.isPrintable`) is written as
`\u` followed by its code point in lower-case hexadecimal between braces. Every other
character, accented letters and emoji included, stands for itself.
-/

namespace L10nLint.Text

open L10nLint.Unicode

/-- Lower-case hexadecimal digits of a number, without leading zeros. -/
def hexDigits (n : Nat) : List Char := Nat.toDigits 16 n

/-- The written form of one character inside quotes. -/
def escapeChar (c : Char) : List Char :=
  if c = '\x00' then ['\\', '0']
  else if c = '\t' then ['\\', 't']
  else if c = '\r' then ['\\', 'r']
  else if c = '\n' then ['\\', 'n']
  else if c = '\\' then ['\\', '\\']
  else if c = '"' then ['\\', '"']
  else if isGraphemeExtend c || !isPrintable c then
    ['\\', 'u', '\x7b'] ++ hexDigits c.toNat ++ ['\x7d']
  else [c]

/-- A text between double quotes, with the characters escaped as `escapeChar` writes them. -/
def quote (s : String) : String :=
  String.ofList ('"' :: s.toList.flatMap escapeChar ++ ['"'])

end L10nLint.Text
