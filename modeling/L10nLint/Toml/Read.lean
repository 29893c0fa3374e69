import L10nLint.Toml.Document

/-!
# Reading TOML

`Toml.parse` reads a TOML 1.0 document into a table.

* Lines hold a key/value pair, a `[table]` header, an `[[array]]` header, a comment or nothing;
  blanks are spaces and tabs, a line ends in a line feed or a carriage return and a line feed,
  and a byte order mark may open the text. Comments hold tabs, printable ASCII and non-ASCII
  characters only.
* Keys are bare (`A-Z a-z 0-9 - _`), basic-quoted or literal-quoted, dotted with blanks around
  the dots, and have fewer than 80 parts.
* Strings: basic (escapes `\b \t \n \f \r \" \\ \uXXXX \UXXXXXXXX`, the last two naming a
  Unicode scalar value), literal, and the multi-line forms of both, whose first line break is
  dropped, where a backslash at the end of a line drops the blanks and line breaks after it,
  and where one or two quotes may stand before the closing three.
* Integers: decimal with single underscores between digits and no leading zero, or `0x`,
  `0o`, `0b` without sign; all in the 64-bit signed range.
* Floats: a decimal integer with a fraction, an exponent or both, or `inf` and `nan` with an
  optional sign. A float that rounds to positive infinity is refused (a negative one is not).
* Date-times: `YYYY-MM-DD` with a real day of the month, optionally followed by `T`, `t` or a
  space and `HH:MM:SS[.fraction]` (hours to 23, minutes to 59, seconds to 60) and an offset
  `Z`, `z` or `±HH:MM`; or a time of day alone.
* Arrays may span lines and hold comments and a trailing comma; inline tables stay on one line
  without a trailing comma. At most 79 of them may be open at once.

What each line may add to the document is decided by `Builder` (`Toml.Document`).

A reader that tries one form of value after another needs to know whether a form is absent,
so that the next may be tried, or present but broken, which makes the text no TOML: `Scan`
holds that answer.
-/

namespace L10nLint.Toml

/-! ## 1. Characters and line ends -/

/-- A blank: space or tab. -/
def isBlank (c : Char) : Bool := c = ' ' || c = '\t'

/-- Removes leading blanks. -/
def skipBlanks (cs : List Char) : List Char := cs.dropWhile isBlank

/-- An ASCII digit. -/
def isDigit (c : Char) : Bool := '0' ≤ c && c ≤ '9'

/-- An ASCII hexadecimal digit of either case. -/
def isHexDigit (c : Char) : Bool :=
  isDigit c || ('a' ≤ c && c ≤ 'f') || ('A' ≤ c && c ≤ 'F')

/-- The value of a digit of base up to 16. -/
def digitValue (c : Char) : Nat :=
  if isDigit c then c.toNat - '0'.toNat
  else if 'a' ≤ c && c ≤ 'f' then c.toNat - 'a'.toNat + 10
  else c.toNat - 'A'.toNat + 10

/-- The value of digits in a base. -/
def digitsValue (base : Nat) (ds : List Char) : Nat :=
  ds.foldl (fun acc c => acc * base + digitValue c) 0

/-- A character of a bare key. -/
def isBareKeyChar (c : Char) : Bool :=
  isDigit c || ('a' ≤ c && c ≤ 'z') || ('A' ≤ c && c ≤ 'Z') || c = '-' || c = '_'

/-- A character allowed in a comment: tab, printable ASCII, or any non-ASCII character. -/
def isCommentChar (c : Char) : Bool := c = '\t' || (' ' ≤ c && c ≤ '~') || 0x80 ≤ c.toNat

/-- A character that stands for itself in a basic string. -/
def isBasicChar (c : Char) : Bool := isCommentChar c && c ≠ '"' && c ≠ '\\'

/-- A character of a literal string. -/
def isLiteralChar (c : Char) : Bool := isCommentChar c && c ≠ '\''

/-- Reads a line break: a line feed, or a carriage return and a line feed. -/
def newline? : List Char → Option (List Char)
  | '\n' :: r => some r
  | '\r' :: '\n' :: r => some r
  | _ => none

/-- Reads the end of a line: a line break, or the end of the text. -/
def lineEnd? : List Char → Option (List Char)
  | [] => some []
  | cs => newline? cs

/-- Reads what may follow a value or header on its line: blanks, a comment, the line's end. -/
def lineRest? (cs : List Char) : Option (List Char) :=
  match skipBlanks cs with
  | '#' :: r => lineEnd? (r.dropWhile isCommentChar)
  | r => lineEnd? r

/-- The number of blanks and line breaks at the start. -/
def blankLinesLength : List Char → Nat
  | ' ' :: r => blankLinesLength r + 1
  | '\t' :: r => blankLinesLength r + 1
  | '\n' :: r => blankLinesLength r + 1
  | '\r' :: '\n' :: r => blankLinesLength r + 2
  | _ => 0

/-- Dropping the leading elements that satisfy a test never makes a list longer. -/
theorem length_dropWhile_le {α : Type} (p : α → Bool) :
    ∀ l : List α, (l.dropWhile p).length ≤ l.length
  | [] => by simp
  | a :: l => by
    have ih := length_dropWhile_le p l
    by_cases h : p a
    · simp only [List.dropWhile, h, List.length_cons]
      omega
    · simp [List.dropWhile, h]

/-- Skips blanks, line breaks and comments between the elements of an array; a comment there
must end in a line break. `none` for a carriage return without a line feed, or a comment at
the end of the text. -/
def skipGaps (cs : List Char) : Option (List Char) :=
  match cs with
  | ' ' :: r => skipGaps r
  | '\t' :: r => skipGaps r
  | '\n' :: r => skipGaps r
  | '\r' :: '\n' :: r => skipGaps r
  | '\r' :: _ => none
  | '#' :: r =>
    match h : r.dropWhile isCommentChar with
    | '\n' :: rest =>
      have : rest.length < r.length + 1 := by
        have := congrArg List.length h
        have := length_dropWhile_le isCommentChar r
        simp at *
        omega
      skipGaps rest
    | '\r' :: '\n' :: rest =>
      have : rest.length < r.length + 1 := by
        have := congrArg List.length h
        have := length_dropWhile_le isCommentChar r
        simp at *
        omega
      skipGaps rest
    | _ => none
  | _ => some cs
termination_by cs.length

/-! ## 2. Strings -/

/-- Reads `n` hexadecimal digits naming a Unicode scalar value. -/
def unicodeEscape (n : Nat) (cs : List Char) : Option Char :=
  let ds := cs.take n
  if ds.length = n && ds.all isHexDigit then
    let v := digitsValue 16 ds
    if v < 0xD800 || (0xDFFF < v && v < 0x110000) then some (Char.ofNat v) else none
  else none

/-- Reads an escape after its backslash: the character it stands for and how many characters
it takes. -/
def escape : List Char → Option (Char × Nat)
  | 'b' :: _ => some ('\x08', 1)
  | 't' :: _ => some ('\t', 1)
  | 'n' :: _ => some ('\n', 1)
  | 'f' :: _ => some ('\x0c', 1)
  | 'r' :: _ => some ('\r', 1)
  | '"' :: _ => some ('"', 1)
  | '\\' :: _ => some ('\\', 1)
  | 'u' :: r => (unicodeEscape 4 r).map fun c => (c, 5)
  | 'U' :: r => (unicodeEscape 8 r).map fun c => (c, 9)
  | _ => none

/-- Reads a basic string after its opening quote; `acc` holds the characters read, last
first. -/
def basicBody (acc : List Char) : List Char → Option (String × List Char)
  | [] => none
  | c :: rest =>
    if c = '"' then some (String.ofList acc.reverse, rest)
    else if c = '\\' then
      match escape rest with
      | some (e, n) => basicBody (e :: acc) (rest.drop n)
      | none => none
    else if isBasicChar c then basicBody (c :: acc) rest
    else none
termination_by cs => cs.length
decreasing_by
  all_goals simp only [List.length_drop, List.length_cons]
  all_goals omega

/-- Reads a literal string after its opening quote. -/
def literalBody (acc : List Char) : List Char → Option (String × List Char)
  | [] => none
  | c :: rest =>
    if c = '\'' then some (String.ofList acc.reverse, rest)
    else if isLiteralChar c then literalBody (c :: acc) rest
    else none

/-- How many characters the rest of a line-ending backslash takes: blanks, a line break, then
blanks and line breaks. -/
def escapedLineEnd (cs : List Char) : Option Nat :=
  let blanks := (cs.takeWhile isBlank).length
  match cs.drop blanks with
  | '\n' :: r => some (blanks + 1 + blankLinesLength r)
  | '\r' :: '\n' :: r => some (blanks + 2 + blankLinesLength r)
  | _ => none

/-- Reads a multi-line basic string's body up to and past its closing quotes. -/
def mlBasicBody (acc : List Char) : List Char → Option (String × List Char)
  | '"' :: '"' :: '"' :: '"' :: '"' :: rest =>
    some (String.ofList ('"' :: '"' :: acc).reverse, rest)
  | '"' :: '"' :: '"' :: '"' :: rest => some (String.ofList ('"' :: acc).reverse, rest)
  | '"' :: '"' :: '"' :: rest => some (String.ofList acc.reverse, rest)
  | '\n' :: rest => mlBasicBody ('\n' :: acc) rest
  | '\r' :: '\n' :: rest => mlBasicBody ('\n' :: acc) rest
  | '\\' :: rest =>
    match escapedLineEnd rest with
    | some n => mlBasicBody acc (rest.drop n)
    | none =>
      match escape rest with
      | some (e, n) => mlBasicBody (e :: acc) (rest.drop n)
      | none => none
  | c :: rest => if c = '"' || isBasicChar c then mlBasicBody (c :: acc) rest else none
  | [] => none
termination_by cs => cs.length
decreasing_by
  all_goals simp only [List.length_drop, List.length_cons]
  all_goals omega

/-- Reads a multi-line literal string's body up to and past its closing quotes; line breaks
stay as written. -/
def mlLiteralBody (acc : List Char) : List Char → Option (String × List Char)
  | '\'' :: '\'' :: '\'' :: '\'' :: '\'' :: rest =>
    some (String.ofList ('\'' :: '\'' :: acc).reverse, rest)
  | '\'' :: '\'' :: '\'' :: '\'' :: rest => some (String.ofList ('\'' :: acc).reverse, rest)
  | '\'' :: '\'' :: '\'' :: rest => some (String.ofList acc.reverse, rest)
  | '\n' :: rest => mlLiteralBody ('\n' :: acc) rest
  | '\r' :: '\n' :: rest => mlLiteralBody ('\n' :: '\r' :: acc) rest
  | c :: rest => if c = '\'' || isLiteralChar c then mlLiteralBody (c :: acc) rest else none
  | [] => none

/-- Reads a string of any of the four forms, from its opening quote. -/
def string? : List Char → Option (String × List Char)
  | '"' :: '"' :: '"' :: rest => mlBasicBody [] ((newline? rest).getD rest)
  | '"' :: rest => basicBody [] rest
  | '\'' :: '\'' :: '\'' :: rest => mlLiteralBody [] ((newline? rest).getD rest)
  | '\'' :: rest => literalBody [] rest
  | _ => none

/-! ## 3. Keys -/

/-- The most parts a dotted key may have, plus one. -/
def keyPartLimit : Nat := 80

/-- Reads one part of a key. -/
def simpleKey? : List Char → Option (String × List Char)
  | '"' :: rest => basicBody [] rest
  | '\'' :: rest => literalBody [] rest
  | cs =>
    let name := cs.takeWhile isBareKeyChar
    if name.isEmpty then none else some (String.ofList name, cs.drop name.length)

/-- Reads the parts of a dotted key, with blanks around each part. -/
def keyParts : Nat → List String → List Char → Option (List String × List Char)
  | 0, _, _ => none
  | fuel + 1, acc, cs =>
    match simpleKey? (skipBlanks cs) with
    | none => none
    | some (part, rest) =>
      match skipBlanks rest with
      | '.' :: more => keyParts fuel (part :: acc) more
      | more => some ((part :: acc).reverse, more)

/-- Reads a key: its parts, fewer than `keyPartLimit`. -/
def key? (cs : List Char) : Option (List String × List Char) :=
  match keyParts (cs.length + 1) [] cs with
  | some (parts, rest) => if parts.length < keyPartLimit then some (parts, rest) else none
  | none => none

/-! ## 4. Numbers and date-times -/

/-- What a reader of one form of value found. -/
inductive Scan (α : Type) where
  /-- The form, and the text after it. -/
  | found (a : α) (rest : List Char)
  /-- Not this form: another may be tried. -/
  | absent
  /-- This form, broken: the text is no TOML. -/
  | broken

/-- Reads exactly `n` digits and their value. -/
def fixedDigits (n : Nat) (cs : List Char) : Option (Nat × List Char) :=
  let ds := cs.take n
  if ds.length = n && ds.all isDigit then some (digitsValue 10 ds, cs.drop n) else none

/-- Whether a year has 29 February. -/
def isLeapYear (y : Nat) : Bool := y % 4 == 0 && (y % 100 != 0 || y % 400 == 0)

/-- The number of days of a month. -/
def daysInMonth (year month : Nat) : Nat :=
  if month = 2 then (if isLeapYear year then 29 else 28)
  else if month = 4 || month = 6 || month = 9 || month = 11 then 30
  else 31

/-- Reads `YYYY-MM-DD`; once `YYYY-` is read, a bad month or day is broken. -/
def fullDate (cs : List Char) : Scan Unit :=
  match fixedDigits 4 cs with
  | some (year, '-' :: r) =>
    match fixedDigits 2 r with
    | some (month, '-' :: r) =>
      if month < 1 || 12 < month then .broken
      else
        match fixedDigits 2 r with
        | some (day, r) =>
          if 1 ≤ day && day ≤ daysInMonth year month then .found () r else .broken
        | none => .broken
    | _ => .broken
  | _ => .absent

/-- Reads `HH:MM:SS` with an optional fraction of a second; once `HH:` is read with an hour up
to 23, the rest must follow. -/
def partialTime (cs : List Char) : Scan Unit :=
  match fixedDigits 2 cs with
  | some (hour, ':' :: r) =>
    if 23 < hour then .absent
    else
      match fixedDigits 2 r with
      | some (minute, ':' :: r) =>
        if 59 < minute then .broken
        else
          match fixedDigits 2 r with
          | some (second, r) =>
            if 60 < second then .broken
            else
              match r with
              | '.' :: d :: more =>
                if isDigit d then .found () (more.dropWhile isDigit) else .found () r
              | _ => .found () r
          | none => .broken
      | _ => .broken
  | _ => .absent

/-- Reads a time offset: `Z`, `z` or `±HH:MM`. -/
def timeOffset (cs : List Char) : Scan Unit :=
  let numeric (r : List Char) : Scan Unit :=
    match fixedDigits 2 r with
    | some (hour, ':' :: r) =>
      match fixedDigits 2 r with
      | some (minute, r) => if hour ≤ 23 && minute ≤ 59 then .found () r else .broken
      | none => .broken
    | _ => .broken
  match cs with
  | 'Z' :: r => .found () r
  | 'z' :: r => .found () r
  | '+' :: r => numeric r
  | '-' :: r => numeric r
  | _ => .absent

/-- Reads a date-time, a date or a time. -/
def dateTime (cs : List Char) : Scan Unit :=
  match fullDate cs with
  | .broken => .broken
  | .absent => partialTime cs
  | .found () r =>
    match r with
    | d :: more =>
      if d = 'T' || d = 't' || d = ' ' then
        match partialTime more with
        | .found () r' =>
          match timeOffset r' with
          | .found () r'' => .found () r''
          | .absent => .found () r'
          | .broken => .broken
        | .absent => .found () r
        | .broken => .broken
      else .found () r
    | [] => .found () []

/-- Reads digits with single underscores between them after a first digit of `isDigitOf`;
gives the digits without underscores. An underscore not followed by a digit is broken. -/
def digitRun (isDigitOf : Char → Bool) (acc : List Char) : List Char → Scan (List Char)
  | [] => .found acc.reverse []
  | c :: r =>
    if isDigitOf c then digitRun isDigitOf (c :: acc) r
    else if c = '_' then
      match r with
      | d :: more => if isDigitOf d then digitRun isDigitOf (d :: acc) more else .broken
      | [] => .broken
    else .found acc.reverse (c :: r)

/-- Reads digits that may start with zero, as after a decimal point or in an exponent. -/
def zeroPrefixable : List Char → Scan (List Char)
  | c :: r => if isDigit c then digitRun isDigit [c] r else .absent
  | [] => .absent

/-- Reads an optional sign: whether it is minus, and the rest. -/
def sign : List Char → Bool × List Char
  | '+' :: r => (false, r)
  | '-' :: r => (true, r)
  | r => (false, r)

/-- Reads a decimal integer: an optional sign, then `0` or digits without a leading zero.
Gives whether it is negative and its digits. -/
def decimalInteger (cs : List Char) : Scan (Bool × List Char) :=
  let (negative, body) := sign cs
  match body with
  | '0' :: r => .found (negative, ['0']) r
  | c :: r =>
    if isDigit c then
      match digitRun isDigit [c] r with
      | .found ds r => .found (negative, ds) r
      | .absent => .absent
      | .broken => .broken
    else .absent
  | [] => .absent

/-- A decimal float: its sign, the digits of its integer part and fraction, and its
exponent. -/
structure DecimalFloat where
  negative : Bool
  integerDigits : List Char
  fractionDigits : List Char
  exponent : Int

/-- The least positive number that rounds to infinity in binary64. -/
def overflowThreshold : Nat := Nat.pow 2 1024 - Nat.pow 2 970

/-- Whether a decimal float rounds to positive infinity. -/
def DecimalFloat.isPositiveInfinity (f : DecimalFloat) : Bool :=
  let m := digitsValue 10 (f.integerDigits ++ f.fractionDigits)
  let k : Int := f.exponent - f.fractionDigits.length
  let size : Int := (Nat.toDigits 10 m).length
  if f.negative || m = 0 then false
  else if 310 ≤ size + k then true
  else if size + k ≤ 308 then false
  else if 0 ≤ k then overflowThreshold ≤ m * Nat.pow 10 k.toNat
  else overflowThreshold * Nat.pow 10 (-k).toNat ≤ m

/-- Reads an exponent after its `e`: an optional sign and digits. -/
def exponentPart (cs : List Char) : Scan Int :=
  let (negative, body) := sign cs
  match zeroPrefixable body with
  | .found ds r =>
    let v : Int := digitsValue 10 ds
    .found (if negative then -v else v) r
  | _ => .broken

/-- Reads a decimal float: a decimal integer followed by an exponent, a fraction, or a
fraction and an exponent. -/
def decimalFloat (cs : List Char) : Scan DecimalFloat :=
  match decimalInteger cs with
  | .absent => .absent
  | .broken => .broken
  | .found (negative, intDigits) r =>
    let withExponent (frac : List Char) (r : List Char) : Scan DecimalFloat :=
      match exponentPart r with
      | .found e r' => .found ⟨negative, intDigits, frac, e⟩ r'
      | _ => .broken
    match r with
    | 'e' :: more => withExponent [] more
    | 'E' :: more => withExponent [] more
    | '.' :: more =>
      match zeroPrefixable more with
      | .found frac r' =>
        match r' with
        | 'e' :: more' => withExponent frac more'
        | 'E' :: more' => withExponent frac more'
        | _ => .found ⟨negative, intDigits, frac, 0⟩ r'
      | _ => .broken
    | _ => .absent

/-- Reads `inf` or `nan` with an optional sign. -/
def specialFloat (cs : List Char) : Option (List Char) :=
  match (sign cs).2 with
  | 'i' :: 'n' :: 'f' :: r => some r
  | 'n' :: 'a' :: 'n' :: r => some r
  | _ => none

/-- The 64-bit signed range. -/
def inInt64 (v : Int) : Bool := -(Int.pow 2 63) ≤ v && v < Int.pow 2 63

/-- Reads the digits of an integer in base 16, 8 or 2 after its prefix. -/
def radixInteger (base : Nat) (isDigitOf : Char → Bool) (cs : List Char) : Scan Int :=
  match cs with
  | c :: r =>
    if isDigitOf c then
      match digitRun isDigitOf [c] r with
      | .found ds r =>
        let v : Int := digitsValue base ds
        if inInt64 v then .found v r else .broken
      | _ => .broken
    else .broken
  | [] => .broken

/-- Reads an integer. -/
def integer (cs : List Char) : Scan Int :=
  match cs with
  | '0' :: 'x' :: r => radixInteger 16 isHexDigit r
  | '0' :: 'o' :: r => radixInteger 8 (fun c => '0' ≤ c && c ≤ '7') r
  | '0' :: 'b' :: r => radixInteger 2 (fun c => c = '0' || c = '1') r
  | _ =>
    match decimalInteger cs with
    | .found (negative, ds) r =>
      let v : Int := digitsValue 10 ds
      let v := if negative then -v else v
      if inInt64 v then .found v r else .broken
    | .absent => .absent
    | .broken => .broken

/-- The text between `cs` and its suffix `rest`. -/
def consumed (cs rest : List Char) : String := String.ofList (cs.take (cs.length - rest.length))

/-- Reads a date-time, a float or an integer, trying them in this order. -/
def numberOrDate (cs : List Char) : Option (Value × List Char) :=
  match dateTime cs with
  | .found () r => some (.datetime (consumed cs r), r)
  | .broken => none
  | .absent =>
    match decimalFloat cs with
    | .found f r => if f.isPositiveInfinity then none else some (.float (consumed cs r), r)
    | .broken => none
    | .absent =>
      match specialFloat cs with
      | some r => some (.float (consumed cs r), r)
      | none =>
        match integer cs with
        | .found n r => some (.integer n, r)
        | _ => none

/-! ## 5. Values -/

/-- One more than the number of arrays and inline tables that may be open at once. -/
def nestingLimit : Nat := 80

mutual

/-- Reads a value. `room` is one more than the number of arrays and inline tables that may
still open; `fuel` bounds the recursion and is larger than needed for the input. -/
def value : Nat → Nat → List Char → Option (Value × List Char)
  | 0, _, _ => none
  | fuel + 1, room, cs =>
    match cs with
    | '"' :: _ => (string? cs).map fun (s, r) => (.string s, r)
    | '\'' :: _ => (string? cs).map fun (s, r) => (.string s, r)
    | 't' :: 'r' :: 'u' :: 'e' :: r => some (.boolean true, r)
    | 'f' :: 'a' :: 'l' :: 's' :: 'e' :: r => some (.boolean false, r)
    | '[' :: r =>
      if room ≤ 1 then none
      else
        match skipGaps r with
        | some (']' :: r') => some (.array [], r')
        | some r' => arrayItems fuel (room - 1) [] r'
        | none => none
    | '{' :: r =>
      if room ≤ 1 then none
      else
        match skipBlanks r with
        | '}' :: r' => some (.table [], r')
        | r' => inlinePairs fuel (room - 1) [] r'
    | _ => numberOrDate cs

/-- Reads array elements from the next element on; `acc` holds the elements read, last
first. -/
def arrayItems : Nat → Nat → List Value → List Char → Option (Value × List Char)
  | 0, _, _, _ => none
  | fuel + 1, room, acc, cs =>
    match value fuel room cs with
    | none => none
    | some (v, r) =>
      match skipGaps r with
      | some (']' :: r') => some (.array (v :: acc).reverse, r')
      | some (',' :: r') =>
        match skipGaps r' with
        | some (']' :: r'') => some (.array (v :: acc).reverse, r'')
        | some r'' => arrayItems fuel room (v :: acc) r''
        | none => none
      | _ => none

/-- Reads the pairs of an inline table from the next key on; `acc` holds the pairs read, last
first. -/
def inlinePairs : Nat → Nat → List (List String × String × Value) → List Char →
    Option (Value × List Char)
  | 0, _, _, _ => none
  | fuel + 1, room, acc, cs =>
    match key? cs with
    | none => none
    | some (parts, r) =>
      match r with
      | '=' :: r =>
        match value fuel room (skipBlanks r) with
        | none => none
        | some (v, r) =>
          let pair := (parts.dropLast, parts.getLast?.getD "", v)
          match skipBlanks r with
          | '}' :: r' =>
            match inlineTable (pair :: acc).reverse with
            | .ok t => some (t, r')
            | .error _ => none
          | ',' :: r' => inlinePairs fuel room (pair :: acc) r'
          | _ => none
      | _ => none

end

/-! ## 6. Documents -/

/-- Reads the lines of a document into `b`; every line takes at least one character, so
`fuel` is enough when it exceeds the text's length. -/
def lines : Nat → Builder → List Char → Except Error Builder
  | 0, _, _ => throw .malformed
  | fuel + 1, b, cs =>
    match skipBlanks cs with
    | [] => pure b
    | '#' :: r =>
      match lineEnd? (r.dropWhile isCommentChar) with
      | some r' => lines fuel b r'
      | none => throw .malformed
    | '\n' :: r => lines fuel b r
    | '\r' :: '\n' :: r => lines fuel b r
    | '\r' :: _ => throw .malformed
    | '[' :: '[' :: r =>
      match key? r with
      | some (path, ']' :: ']' :: r') =>
        match lineRest? r' with
        | some r'' => do lines fuel (← b.arrayHeader path) r''
        | none => throw .malformed
      | _ => throw .malformed
    | '[' :: r =>
      match key? r with
      | some (path, ']' :: r') =>
        match lineRest? r' with
        | some r'' => do lines fuel (← b.header path) r''
        | none => throw .malformed
      | _ => throw .malformed
    | r =>
      match key? r with
      | some (parts, '=' :: r') =>
        match value (r'.length + 1) nestingLimit (skipBlanks r') with
        | some (v, r'') =>
          match lineRest? r'' with
          | some rest => do
            lines fuel (← b.keyValue parts.dropLast (parts.getLast?.getD "") v) rest
          | none => throw .malformed
        | none => throw .malformed
      | _ => throw .malformed

/-- Reads a TOML document into its root table. -/
def parse (text : String) : Except Error Value := do
  let cs := match text.toList with
    | '\uFEFF' :: rest => rest
    | cs => cs
  let b ← lines (cs.length + 1) {} cs
  pure b.toValue

end L10nLint.Toml
