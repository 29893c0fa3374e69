import L10nLint.Json.Value

/-!
# Reading JSON

`Json.parse` reads one JSON text: strict RFC 8259 syntax (no comments, no trailing commas,
no byte order mark, no single quotes, no `NaN`), white space (space, tab, line feed, carriage
return) around values, and nothing else after the value.

Further rules of this reader:

* Nesting: at most 127 arrays and objects may be open at once.
* Strings: a raw control character (below `U+0020`) is refused; a `\u` escape of a UTF-16
  surrogate must be a high surrogate followed at once by `\u` and a low surrogate.
* Objects: of two members with one name, the later one wins.
* Numbers: an integer literal without fraction or exponent is kept exactly when it fits (see
  `Number`). Every other number is computed as a binary64 value from its decimal digits the
  way the reader always has: the digits are gathered into a 64-bit significand (digits past
  its capacity are dropped and counted in the exponent), the significand is rounded to
  binary64, and then multiplied or divided by one rounded power of ten, `10^0` to `10^308`.
  Exponents beyond 308 divide by `10^308` repeatedly, or are refused when the value is not
  zero and the exponent is positive. A product past the largest finite value is refused, so
  `1e400` is not JSON, while `1e-400` reads as zero.
-/

namespace L10nLint.Json

/-! ## 1. Characters -/

/-- JSON white space. -/
def isSpace (c : Char) : Bool := c = ' ' || c = '\t' || c = '\n' || c = '\r'

/-- Removes leading JSON white space. -/
def skipSpace (cs : List Char) : List Char := cs.dropWhile isSpace

/-- Whether a character is an ASCII digit. -/
def isDigit (c : Char) : Bool := '0' ≤ c && c ≤ '9'

/-- The value of an ASCII digit. -/
def digitValue (c : Char) : Nat := c.toNat - '0'.toNat

/-- The value of an ASCII hexadecimal digit of either case. -/
def hexValue (c : Char) : Option Nat :=
  if isDigit c then some (digitValue c)
  else if 'a' ≤ c && c ≤ 'f' then some (c.toNat - 'a'.toNat + 10)
  else if 'A' ≤ c && c ≤ 'F' then some (c.toNat - 'A'.toNat + 10)
  else none

/-- The value of four hexadecimal digits. -/
def hex4 : List Char → Option Nat
  | [a, b, c, d] => do
    pure ((((← hexValue a) * 16 + (← hexValue b)) * 16 + (← hexValue c)) * 16 +
      (← hexValue d))
  | _ => none

/-! ## 2. Numbers -/

/-- The largest 64-bit unsigned integer. -/
def u64Max : Nat := Nat.pow 2 64 - 1

/-- The largest 32-bit signed integer, the bound of an exponent. -/
def i32Max : Int := Int.pow 2 31 - 1

/-- Whether `acc * 10 + d` would pass `bound`: the test the reader makes before it takes
one more digit. -/
def passes (acc d bound : Nat) : Bool := bound / 10 ≤ acc && (bound / 10 < acc || bound % 10 < d)

/-- Clamps an exponent to the 32-bit signed range. -/
def clampExponent (e : Int) : Int := max (-(Int.pow 2 31)) (min i32Max e)

/-- `f · 10^exponent` as the reader computes it, by one rounded multiplication or division
by a rounded power of ten, or by repeated division by `10^308` for very negative exponents.
`none` when a product is past the largest finite value, or when the exponent is beyond 308
and positive with a non-zero `f`. -/
def scale (f : Binary64) (exponent : Int) : Option Binary64 :=
  if exponent.natAbs ≤ 308 then do
    let p ← Binary64.ofNat (Nat.pow 10 exponent.natAbs)
    if 0 ≤ exponent then f.mul p else f.div p
  else if f.isZero then some f
  else if 0 ≤ exponent then none
  else do
    let p ← Binary64.ofNat (Nat.pow 10 308)
    let g ← f.div p
    scale g (exponent + 308)
termination_by exponent.natAbs
decreasing_by omega

/-- The number `±significand · 10^exponent`. -/
def fromParts (positive : Bool) (significand : Nat) (exponent : Int) : Option Number := do
  let f ← Binary64.ofNat significand
  let g ← scale f exponent
  pure (.float (if positive then g else g.neg))

/-- The integer literal `±significand` with nothing after it. -/
def integerNumber (positive : Bool) (significand : Nat) : Number :=
  if positive then .nat significand
  else if significand = 0 then .float (Binary64.zero.neg)
  else if significand ≤ Nat.pow 2 63 then .negInt (-(significand : Int))
  else match Binary64.ofNat significand with
    | some f => .float f.neg
    | none => .float Binary64.zero

/-- Skips the digits of an exponent that no longer fit: `±0`, or refused when the exponent
is positive and the significand is not zero. -/
def exponentOverflow (positive zeroSignificand positiveExp : Bool) (cs : List Char) :
    Option (Number × List Char) :=
  if !zeroSignificand && positiveExp then none
  else some (.float (if positive then Binary64.zero else Binary64.zero.neg), cs.dropWhile isDigit)

/-- Reads the digits of an exponent whose value so far is `exp`. -/
def exponentDigits (positive : Bool) (significand : Nat) (start : Int) (positiveExp : Bool)
    (exp : Nat) : List Char → Option (Number × List Char)
  | c :: rest =>
    if isDigit c then
      if passes exp (digitValue c) i32Max.toNat then
        exponentOverflow positive (significand = 0) positiveExp rest
      else exponentDigits positive significand start positiveExp (exp * 10 + digitValue c) rest
    else do
      let e := clampExponent (if positiveExp then start + exp else start - exp)
      pure (← fromParts positive significand e, c :: rest)
  | [] => do
    let e := clampExponent (if positiveExp then start + exp else start - exp)
    pure (← fromParts positive significand e, [])

/-- Reads an exponent; `cs` starts after the `e` or `E`. -/
def exponentPart (positive : Bool) (significand : Nat) (start : Int) (cs : List Char) :
    Option (Number × List Char) :=
  let (positiveExp, cs) := match cs with
    | '+' :: rest => (true, rest)
    | '-' :: rest => (false, rest)
    | _ => (true, cs)
  match cs with
  | c :: rest =>
    if isDigit c then exponentDigits positive significand start positiveExp (digitValue c) rest
    else none
  | [] => none

/-- After a significand and its decimal exponent: an exponent part, or the end of the
number. -/
def afterSignificand (positive : Bool) (significand : Nat) (exponent : Int) :
    List Char → Option (Number × List Char)
  | 'e' :: rest => exponentPart positive significand exponent rest
  | 'E' :: rest => exponentPart positive significand exponent rest
  | cs => do pure (← fromParts positive significand exponent, cs)

/-- Reads fraction digits into the significand; `taken` counts the digits taken. Once the
significand is full, the remaining digits are dropped. -/
def fractionDigits (positive : Bool) (significand : Nat) (exponent : Int) (taken : Nat) :
    List Char → Option (Number × List Char)
  | c :: rest =>
    if isDigit c then
      if passes significand (digitValue c) u64Max then
        afterSignificand positive significand (exponent - taken) ((c :: rest).dropWhile isDigit)
      else fractionDigits positive (significand * 10 + digitValue c) exponent (taken + 1) rest
    else if taken = 0 then none
    else afterSignificand positive significand (exponent - taken) (c :: rest)
  | [] => if taken = 0 then none else afterSignificand positive significand (exponent - taken) []

/-- Reads integer digits past the capacity of the significand: each one only raises the
exponent. -/
def longIntegerDigits (positive : Bool) (significand : Nat) (exponent : Int) :
    List Char → Option (Number × List Char)
  | c :: rest =>
    if isDigit c then longIntegerDigits positive significand (exponent + 1) rest
    else if c = '.' then fractionDigits positive significand exponent 0 rest
    else afterSignificand positive significand exponent (c :: rest)
  | [] => afterSignificand positive significand exponent []

/-- After the integer digits of a number that still fit: a fraction, an exponent, or the
end of an integer literal. -/
def afterInteger (positive : Bool) (significand : Nat) : List Char → Option (Number × List Char)
  | '.' :: rest => fractionDigits positive significand 0 0 rest
  | 'e' :: rest => exponentPart positive significand 0 rest
  | 'E' :: rest => exponentPart positive significand 0 rest
  | cs => some (integerNumber positive significand, cs)

/-- Reads integer digits into the significand while they fit. -/
def integerDigits (positive : Bool) (significand : Nat) : List Char → Option (Number × List Char)
  | c :: rest =>
    if isDigit c then
      if passes significand (digitValue c) u64Max then
        longIntegerDigits positive significand 0 (c :: rest)
      else integerDigits positive (significand * 10 + digitValue c) rest
    else afterInteger positive significand (c :: rest)
  | [] => afterInteger positive significand []

/-- Reads a number without its sign. A leading `0` stands alone. -/
def unsignedNumber (positive : Bool) : List Char → Option (Number × List Char)
  | '0' :: rest =>
    match rest with
    | c :: _ => if isDigit c then none else afterInteger positive 0 rest
    | [] => afterInteger positive 0 []
  | c :: rest => if isDigit c then integerDigits positive (digitValue c) rest else none
  | [] => none

/-! ## 3. Strings -/

/-- Reads the rest of an escape after the backslash: the characters it stands for and how
many characters it takes. -/
def escape : List Char → Option (List Char × Nat)
  | '"' :: _ => some (['"'], 1)
  | '\\' :: _ => some (['\\'], 1)
  | '/' :: _ => some (['/'], 1)
  | 'b' :: _ => some (['\x08'], 1)
  | 'f' :: _ => some (['\x0c'], 1)
  | 'n' :: _ => some (['\n'], 1)
  | 'r' :: _ => some (['\r'], 1)
  | 't' :: _ => some (['\t'], 1)
  | 'u' :: rest => do
    let n ← hex4 (rest.take 4)
    if 0xDC00 ≤ n && n ≤ 0xDFFF then none
    else if 0xD800 ≤ n && n ≤ 0xDBFF then
      match rest.drop 4 with
      | '\\' :: 'u' :: more =>
        let m ← hex4 (more.take 4)
        if 0xDC00 ≤ m && m ≤ 0xDFFF then
          some ([Char.ofNat (0x10000 + (n - 0xD800) * 0x400 + (m - 0xDC00))], 11)
        else none
      | _ => none
    else some ([Char.ofNat n], 5)
  | _ => none

/-- Reads string characters up to the closing quote; `acc` holds the characters read, last
first. -/
def stringBody (acc : List Char) : List Char → Option (String × List Char)
  | [] => none
  | c :: rest =>
    if c = '"' then some (String.ofList acc.reverse, rest)
    else if c = '\\' then
      match escape rest with
      | some (out, n) => stringBody (out.reverse ++ acc) (rest.drop n)
      | none => none
    else if c.toNat < 0x20 then none
    else stringBody (c :: acc) rest
termination_by cs => cs.length
decreasing_by
  all_goals simp only [List.length_drop, List.length_cons]
  all_goals omega

/-! ## 4. Values -/

/-- The number of containers that may be open at once, plus one. -/
def depthLimit : Nat := 128

mutual

/-- Reads a value. `room` is one more than the number of containers that may still open;
`fuel` bounds the recursion and is larger than needed for any input it is given with. -/
def value : Nat → Nat → List Char → Option (Value × List Char)
  | 0, _, _ => none
  | fuel + 1, room, cs =>
    match skipSpace cs with
    | 'n' :: 'u' :: 'l' :: 'l' :: rest => some (.null, rest)
    | 't' :: 'r' :: 'u' :: 'e' :: rest => some (.bool true, rest)
    | 'f' :: 'a' :: 'l' :: 's' :: 'e' :: rest => some (.bool false, rest)
    | '"' :: rest => (stringBody [] rest).map fun (s, r) => (.string s, r)
    | '-' :: rest => (unsignedNumber false rest).map fun (n, r) => (.number n, r)
    | '[' :: rest =>
      if room ≤ 1 then none
      else
        match skipSpace rest with
        | ']' :: r => some (.array [], r)
        | r => items fuel (room - 1) [] r
    | '{' :: rest =>
      if room ≤ 1 then none
      else
        match skipSpace rest with
        | '}' :: r => some (.object [], r)
        | r => members fuel (room - 1) [] r
    | c :: rest =>
      if isDigit c then (unsignedNumber true (c :: rest)).map fun (n, r) => (.number n, r)
      else none
    | [] => none

/-- Reads array elements from the next element on; `acc` holds the elements read, last
first. -/
def items : Nat → Nat → List Value → List Char → Option (Value × List Char)
  | 0, _, _, _ => none
  | fuel + 1, room, acc, cs =>
    match value fuel room cs with
    | none => none
    | some (v, r) =>
      match skipSpace r with
      | ']' :: r => some (.array (v :: acc).reverse, r)
      | ',' :: r => items fuel room (v :: acc) r
      | _ => none

/-- Reads object members from the next member's name on; `acc` holds the members read. -/
def members : Nat → Nat → List (String × Value) → List Char → Option (Value × List Char)
  | 0, _, _, _ => none
  | fuel + 1, room, acc, cs =>
    match skipSpace cs with
    | '"' :: rest =>
      match stringBody [] rest with
      | none => none
      | some (name, r) =>
        match skipSpace r with
        | ':' :: r =>
          match value fuel room r with
          | none => none
          | some (v, r) =>
            match skipSpace r with
            | '}' :: r => some (.object (Fields.insert name v acc), r)
            | ',' :: r => members fuel room (Fields.insert name v acc) r
            | _ => none
        | _ => none
    | _ => none

end

/-- Reads a JSON text: one value with only white space around it. -/
def parse (s : String) : Option Value :=
  let cs := s.toList
  match value (2 * cs.length + 2) depthLimit cs with
  | some (v, rest) => if (skipSpace rest).isEmpty then some v else none
  | none => none

end L10nLint.Json
