/-!
# White space

The characters with the Unicode property `White_Space`: the ASCII controls tab to carriage
return, the space, next line `U+0085`, no-break space `U+00A0`, Ogham space mark `U+1680`, the
spaces `U+2000` to `U+200A`, the line and paragraph separators, narrow no-break space,
medium mathematical space and ideographic space `U+3000`. Zero-width space `U+200B` is not
one of them.

This is the set that trimming removes and that `\s` matches in a pattern.
-/

namespace L10nLint.Unicode

/-- Whether a character has the property `White_Space`. -/
def isWhiteSpace (c : Char) : Bool :=
  let n := c.toNat
  (0x9 ≤ n && n ≤ 0xD) || n == 0x20 || n == 0x85 || n == 0xA0 || n == 0x1680 ||
    (0x2000 ≤ n && n ≤ 0x200A) || n == 0x2028 || n == 0x2029 || n == 0x202F ||
    n == 0x205F || n == 0x3000

example : isWhiteSpace '\t' ∧ isWhiteSpace '\u3000' ∧ ¬ isWhiteSpace '\u200b' := by decide

end L10nLint.Unicode
