import L10nLint.Url.Idna

/-!
# Hosts

The host of a URL, as the URL standard reads it:

* between brackets, an IPv6 address: up to eight groups of one to four hexadecimal digits
  separated by `:`, one `::` standing for a run of zero groups, and optionally a dotted IPv4
  address in place of the last two groups;
* for the special schemes (`http`, `https`, `ws`, `wss`, `ftp`, `file`), a domain:
  percent-decoded, read as UTF-8, processed under UTS #46 (`Idna.toUnicode?`), not empty; and
  when its last label is a number, an IPv4 address of one to four parts, each decimal, octal
  (a leading `0`) or hexadecimal (a leading `0x`), every part but the last below 256 and the
  last below `256^(5 - parts)`;
* for other schemes, an opaque host: any text without the characters `NUL`, tab, line feed,
  carriage return, space, `#`, `/`, `:`, `<`, `>`, `?`, `@`, `[`, `\`, `]`, `^`, `|`.

Each reader answers only whether the host is well formed.
-/

namespace L10nLint.Url

/-! ## 1. IPv4 -/

/-- Whether a character is an ASCII digit. -/
def isAsciiDigit (c : Char) : Bool := '0' ≤ c && c ≤ '9'

/-- Whether a character is an ASCII hexadecimal digit. -/
def isAsciiHex (c : Char) : Bool :=
  isAsciiDigit c || ('a' ≤ c && c ≤ 'f') || ('A' ≤ c && c ≤ 'F')

/-- The value of an ASCII hexadecimal digit. -/
def hexDigitValue (c : Char) : Nat :=
  if isAsciiDigit c then c.toNat - '0'.toNat
  else if 'a' ≤ c && c ≤ 'f' then c.toNat - 'a'.toNat + 10
  else c.toNat - 'A'.toNat + 10

/-- The value of digits in a radix. -/
def digitsValue (radix : Nat) (cs : List Char) : Nat :=
  cs.foldl (fun acc c => acc * radix + hexDigitValue c) 0

/-- A part of an IPv4 address: `none` when it is not a number, `some none` when it is one but
does not fit 32 bits, `some (some n)` otherwise. -/
def ipv4Number (cs : List Char) : Option (Option Nat) :=
  if cs.isEmpty then none
  else
    let (radix, digits) :=
      match cs with
      | '0' :: 'x' :: rest => (16, rest)
      | '0' :: 'X' :: rest => (16, rest)
      | '0' :: rest@(_ :: _) => (8, rest)
      | _ => (10, cs)
    if digits.isEmpty then some (some 0)
    else
      let ok := match radix with
        | 8 => digits.all (fun c => '0' ≤ c && c ≤ '7')
        | 10 => digits.all isAsciiDigit
        | _ => digits.all isAsciiHex
      if !ok then none
      else
        let v := digitsValue radix digits
        if v < Nat.pow 2 32 then some (some v) else some none

/-- Whether the last label of a domain (a final empty label set aside) is a number, which
makes the domain an IPv4 address. -/
def endsInNumber (labels : List (List Char)) : Bool :=
  let labels := match labels.reverse with
    | [] :: rest@(_ :: _) => rest.reverse
    | _ => labels
  match labels.getLast? with
  | some last =>
    (!last.isEmpty && last.all isAsciiDigit) || (ipv4Number last).isSome
  | none => false

/-- Whether the labels of a domain form an IPv4 address. -/
def ipv4Valid (labels : List (List Char)) : Bool :=
  let parts := match labels.reverse with
    | [] :: rest => rest.reverse
    | _ => labels
  if parts.length > 4 || parts.isEmpty then false
  else
    match parts.mapM (fun p => (ipv4Number p).bind id) with
    | none => false
    | some numbers =>
      match numbers.reverse with
      | [] => false
      | last :: front =>
        last < Nat.pow 256 (5 - numbers.length) && front.all (· ≤ 255)

/-! ## 2. IPv6 -/

/-- Reads the dotted IPv4 tail of an IPv6 address: four decimal numbers below 256 without
leading zeros. -/
def ipv6DottedValid (cs : List Char) : Bool :=
  let parts := cs.splitOn '.'
  parts.length = 4 &&
    parts.all fun p =>
      !p.isEmpty && p.all isAsciiDigit && (p.length = 1 || p.head? ≠ some '0') &&
        digitsValue 10 p ≤ 255

set_option linter.unusedVariables false in
/-- Reads groups of an IPv6 address; `groups` counts the groups read (a `::` counts as one),
`compressed` whether a `::` was read. Returns the count and the flag on success. -/
def ipv6Groups (groups : Nat) (compressed : Bool) (cs : List Char) : Option (Nat × Bool) :=
  match cs with
  | [] => some (groups, compressed)
  | c :: tail =>
    if groups = 8 then none
    else if c = ':' then
      if compressed then none else ipv6Groups (groups + 1) true tail
    else
      let digits := ((c :: tail).takeWhile isAsciiHex).take 4
      if hd : digits = [] then none
      else
        match hr : (c :: tail).drop digits.length with
        | '.' :: _ =>
          if groups > 6 then none
          else if ipv6DottedValid (c :: tail) then some (groups + 2, compressed) else none
        | ':' :: more => if more.isEmpty then none else ipv6Groups (groups + 1) compressed more
        | [] => some (groups + 1, compressed)
        | _ => none
termination_by cs.length
decreasing_by
  · simp
  · have h1 := congrArg List.length hr
    have h2 : 0 < digits.length := List.length_pos_iff.mpr hd
    simp only [List.length_drop, List.length_cons] at h1 h2 ⊢
    omega

/-- Whether the text between brackets is an IPv6 address. -/
def ipv6Valid (cs : List Char) : Bool :=
  let start := match cs with
    | ':' :: ':' :: rest => some (1, true, rest)
    | ':' :: _ => none
    | _ => some (0, false, cs)
  if cs.length < 2 then false
  else
    match start with
    | none => false
    | some (g, c, rest) =>
      match ipv6Groups g c rest with
      | some (groups, compressed) => if compressed then groups ≤ 8 else groups = 8
      | none => false

/-! ## 3. Hosts -/

/-- The text between `[` and `]`, when the host is bracketed. -/
def bracketed? (h : List Char) : Option (Option (List Char)) :=
  match h with
  | '[' :: rest => some (if rest.getLast? = some ']' then some rest.dropLast else none)
  | _ => none

/-- Percent-decodes text into bytes: `%` and two hexadecimal digits is that byte, any other
character its UTF-8 bytes. -/
def percentBytes : List Char → List UInt8
  | '%' :: a :: b :: rest =>
    if isAsciiHex a && isAsciiHex b then
      (hexDigitValue a * 16 + hexDigitValue b).toUInt8 :: percentBytes rest
    else '%'.toNat.toUInt8 :: percentBytes (a :: b :: rest)
  | c :: rest => (String.singleton c).toUTF8.toList ++ percentBytes rest
  | [] => []

/-- Percent-decodes a host and reads the bytes as UTF-8; `none` when they are not UTF-8. -/
def percentDecode (h : List Char) : Option (List Char) :=
  (String.fromUTF8? (ByteArray.mk (percentBytes h).toArray)).map String.toList

/-- Whether a host of a special scheme is well formed. -/
def specialHostValid (h : List Char) : Bool :=
  match bracketed? h with
  | some inner => match inner with
    | some a => ipv6Valid a
    | none => false
  | none =>
    match percentDecode h with
    | none => false
    | some d =>
      match Idna.toUnicode? d with
      | none => false
      | some labels =>
        labels != [[]] && (!endsInNumber labels || ipv4Valid labels)

/-- The characters an opaque host may not contain. -/
def isForbiddenHostChar (c : Char) : Bool :=
  "\x00\t\n\r #/:<>?@[\\]^|".toList.contains c

/-- Whether a host of another scheme is well formed. -/
def opaqueHostValid (h : List Char) : Bool :=
  match bracketed? h with
  | some inner => match inner with
    | some a => ipv6Valid a
    | none => false
  | none => !h.any isForbiddenHostChar

end L10nLint.Url
