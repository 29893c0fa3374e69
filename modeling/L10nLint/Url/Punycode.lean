/-!
# Punycode decoding

RFC 3492 with the parameters of IDNA: base 36, thresholds 1 to 26, skew 38, damp 700,
initial bias 72 and initial code point 128. The text before the last `-` holds the basic
(ASCII) code points; the rest is a sequence of variable-length integers, each giving where
the next code point is inserted and how far its value moves on.

Decoding works in 32-bit unsigned arithmetic: an intermediate value of `2^32` or more makes
the input invalid, and so does a code point that is a surrogate or past `U+10FFFF`.

Each loop has a measure: `adaptLoop` shrinks `delta`, `readInteger` consumes input, and
`insertAll` consumes one integer per inserted code point.
-/

namespace L10nLint.Url.Punycode

/-- The bound of 32-bit unsigned arithmetic. -/
def wordBound : Nat := Nat.pow 2 32

/-- The digit value of a character: `a`-`z` (or `A`-`Z`) are 0-25 and `0`-`9` are 26-35. -/
def digitValue (c : Char) : Option Nat :=
  if 'a' ≤ c ∧ c ≤ 'z' then some (c.toNat - 'a'.toNat)
  else if 'A' ≤ c ∧ c ≤ 'Z' then some (c.toNat - 'A'.toNat)
  else if '0' ≤ c ∧ c ≤ '9' then some (c.toNat - '0'.toNat + 26)
  else none

/-- The threshold of the digit at `k`. -/
def threshold (k bias : Nat) : Nat :=
  if k ≤ bias then 1 else if bias + 26 ≤ k then 26 else k - bias

/-- Divides `delta` by 35 until it is at most 455, counting 36 per step. -/
def adaptLoop (delta k : Nat) : Nat × Nat :=
  if 455 < delta then adaptLoop (delta / 35) (k + 36) else (delta, k)
termination_by delta
decreasing_by omega

/-- The bias after a code point was inserted. -/
def adapt (delta numPoints : Nat) (first : Bool) : Nat :=
  let d := if first then delta / 700 else delta / 2
  let d := d + d / numPoints
  let (d, k) := adaptLoop d 0
  k + 36 * d / (d + 38)

/-- Reads one variable-length integer and adds it to `i`: the new `i` and the rest of the
input; `none` when the input ends inside it, holds a non-digit, or the arithmetic passes 32
bits. -/
def readInteger (bias : Nat) (k w i : Nat) : List Char → Option (Nat × List Char)
  | [] => none
  | c :: rest =>
    match digitValue c with
    | none => none
    | some d =>
      if wordBound ≤ d * w ∨ wordBound ≤ i + d * w then none
      else if d < threshold k bias then some (i + d * w, rest)
      else if wordBound ≤ w * (36 - threshold k bias) then none
      else readInteger bias (k + 36) (w * (36 - threshold k bias)) (i + d * w) rest

/-- Reading an integer consumes input. -/
theorem readInteger_length (bias : Nat) :
    ∀ (k w i : Nat) (cs : List Char) (r : Nat × List Char),
      readInteger bias k w i cs = some r → r.2.length < cs.length
  | _, _, _, [], _, h => by simp [readInteger] at h
  | k, w, i, c :: rest, r, h => by
    unfold readInteger at h
    split at h
    · simp at h
    · split at h
      · simp at h
      · split at h
        · cases h; simp
        · split at h
          · simp at h
          · have := readInteger_length bias _ _ _ rest r h
            simp only [List.length_cons]; omega

set_option linter.unusedVariables false in
/-- Inserts the decoded code points into `out`; `n` is the current code point, `i` the
insertion index and `bias` the current bias. The bias adapts with the first-time damping
while the insertion index read so far is still 0. -/
def insertAll (out : List Char) (n i bias : Nat) (cs : List Char) :
    Option (List Char) :=
  match hread : readInteger bias 36 1 i cs with
  | none => if cs.isEmpty then some out else none
  | some (j, more) =>
    let len := out.length + 1
    let m := n + j / len
    if wordBound ≤ m ∨ (0xD800 ≤ m ∧ m ≤ 0xDFFF) ∨ 0x10FFFF < m then none
    else
      let pos := j % len
      insertAll (out.take pos ++ Char.ofNat m :: out.drop pos) m (pos + 1)
        (adapt (j - i) len (i == 0)) more
termination_by cs.length
decreasing_by exact readInteger_length bias 36 1 i cs (j, more) hread

/-- Decodes a Punycode text (without the `xn--` prefix); `none` when it is not valid. -/
def decode (input : List Char) : Option (List Char) :=
  let (basic, digits) :=
    match input.reverse.findIdx? (· = '-') with
    | some idx =>
      let pos := input.length - 1 - idx
      if pos = 0 then ([], input) else (input.take pos, input.drop (pos + 1))
    | none => ([], input)
  if basic.any (fun c => 0x80 ≤ c.toNat) then none
  else insertAll basic 128 0 72 digits

end L10nLint.Url.Punycode
