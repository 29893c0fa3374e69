import L10nLint.Unicode.WhiteSpace

/-!
# Trimming

`Text.trim` removes `White_Space` characters from both ends of a text and keeps everything
between the first and the last other character, white space included.
-/

namespace L10nLint.Text

open L10nLint.Unicode

/-- Removes leading `White_Space` characters. -/
def trimStart (cs : List Char) : List Char := cs.dropWhile isWhiteSpace

/-- Removes `White_Space` characters from both ends. -/
def trimChars (cs : List Char) : List Char := (trimStart (trimStart cs).reverse).reverse

/-- Removes `White_Space` characters from both ends of a string. -/
def trim (s : String) : String := String.ofList (trimChars s.toList)

/-- Replaces `A`-`Z` by `a`-`z` and keeps every other character. -/
def asciiLower (c : Char) : Char := if 'A' ≤ c ∧ c ≤ 'Z' then Char.ofNat (c.toNat + 32) else c

/-- `asciiLower` on each character of a string. -/
def asciiLowerString (s : String) : String := String.ofList (s.toList.map asciiLower)

@[simp] theorem trimChars_nil : trimChars [] = [] := rfl

end L10nLint.Text
