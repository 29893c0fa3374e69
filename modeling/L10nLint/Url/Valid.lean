import L10nLint.Url.Host

/-!
# Absolute URLs

`Url.isValid s` says whether `s` reads as an absolute URL under the URL standard, with no
base URL to resolve against:

1. Controls and spaces (`U+0000`-`U+0020`) are trimmed from both ends, and tab, line feed and
   carriage return are removed everywhere.
2. A scheme is required: an ASCII letter, then letters, digits, `+`, `-` or `.`, then `:`.
3. For the special schemes `http`, `https`, `ws`, `wss` and `ftp`, any run of `/` and `\`
   follows, then the authority, which the host must not leave empty.
4. For `file`, a host is read only after two slashes; it may be empty, or a drive letter
   such as `C:`, which is not a host.
5. For other schemes, an authority follows only after `//`; otherwise the rest is an opaque
   path, and every path is well formed.

The authority is `[userinfo@]host[:number]`, ending at `/`, `?` or `#` (and `\` for the special
schemes); the last `@` ends the user information. The number after the host is at most
`65535`. The path, query and fragment never make a URL invalid.
-/

namespace L10nLint.Url

/-- The schemes with hosts of the domain kind. -/
inductive SchemeKind where
  | special | file | other
  deriving DecidableEq, Repr

/-- The kind of a (lower-cased) scheme. -/
def SchemeKind.of (scheme : String) : SchemeKind :=
  if ["http", "https", "ws", "wss", "ftp"].contains scheme then .special
  else if scheme = "file" then .file
  else .other

/-- Whether a character is trimmed from the ends: a control or a space. -/
def isTrimmed (c : Char) : Bool := c.toNat ≤ 0x20

/-- Whether a character is removed everywhere: tab, line feed, carriage return. -/
def isRemoved (c : Char) : Bool := c = '\t' || c = '\n' || c = '\r'

/-- The input with its ends trimmed and tabs and line breaks removed. -/
def clean (s : String) : List Char :=
  (((s.toList.dropWhile isTrimmed).reverse.dropWhile isTrimmed).reverse).filter (!isRemoved ·)

/-- Whether a character is an ASCII letter. -/
def isAsciiAlpha (c : Char) : Bool := ('a' ≤ c && c ≤ 'z') || ('A' ≤ c && c ≤ 'Z')

/-- Whether a character may continue a scheme. -/
def isSchemeChar (c : Char) : Bool :=
  isAsciiAlpha c || isAsciiDigit c || c = '+' || c = '-' || c = '.'

/-- Splits off the scheme and the `:` after it; the scheme comes lower-cased. -/
def splitScheme (cs : List Char) : Option (String × List Char) :=
  match cs with
  | c :: _ =>
    if !isAsciiAlpha c then none
    else
      let name := cs.takeWhile isSchemeChar
      match cs.drop name.length with
      | ':' :: rest => some (String.ofList (name.map Char.toLower), rest)
      | _ => none
  | [] => none

/-- Whether the text after a host's colon is a well-formed number, or is empty: digits up to
`65535` ending at `/`, `\`, `?`, `#` or the end. -/
def hostNumberValid (acc : Nat) : List Char → Bool
  | [] => true
  | c :: rest =>
    if isAsciiDigit c then
      let v := acc * 10 + (c.toNat - '0'.toNat)
      v ≤ 65535 && hostNumberValid v rest
    else c = '/' || c = '\\' || c = '?' || c = '#'

/-- The host part and the rest: up to `:` outside brackets, `/`, `?`, `#`, and `\` for the
special schemes. -/
def splitHost (special : Bool) (inside : Bool) : List Char → List Char × List Char
  | [] => ([], [])
  | c :: rest =>
    if (c = ':' && !inside) || c = '/' || c = '?' || c = '#' || (special && c = '\\') then
      ([], c :: rest)
    else
      let inside := if c = '[' then true else if c = ']' then false else inside
      let (h, r) := splitHost special inside rest
      (c :: h, r)

/-- Whether a host and the number after it are well formed. `named` tells whether user information
was given, which an empty host of another scheme does not allow. -/
def hostWithNumberValid (special named : Bool) (cs : List Char) : Bool :=
  let (host, rest) := splitHost special false cs
  let hostOk :=
    if special then !host.isEmpty && specialHostValid host
    else
      opaqueHostValid host &&
        (!host.isEmpty || (rest.head? ≠ some ':' && !named))
  hostOk &&
    match rest with
    | ':' :: more => hostNumberValid 0 more
    | _ => true

/-- The position of the last `@`, if any. -/
def lastAt (cs : List Char) : Option Nat :=
  match (cs.reverse.findIdx? (· = '@')) with
  | some i => some (cs.length - 1 - i)
  | none => none

/-- Whether an authority (and what follows it) is well formed. -/
def authorityValid (special : Bool) (cs : List Char) : Bool :=
  let ends := fun c => c = '/' || c = '?' || c = '#' || (special && c = '\\')
  let region := cs.takeWhile (!ends ·)
  match lastAt region with
  | none => hostWithNumberValid special false cs
  | some 0 =>
    match cs.drop 1 with
    | c :: _ => !ends c && hostWithNumberValid special false (cs.drop 1)
    | [] => hostWithNumberValid special false []
  | some k => hostWithNumberValid special (region.take k != [':']) (cs.drop (k + 1))

/-- Whether two characters are each `/` or `\`. -/
def isSlash (c : Char) : Bool := c = '/' || c = '\\'

/-- Whether a drive letter stands where a file host would: a letter, then `:` or `|`. -/
def isDriveLetter : List Char → Bool
  | [a, b] => isAsciiAlpha a && (b = ':' || b = '|')
  | _ => false

/-- Whether the rest of a `file` URL is well formed. -/
def fileValid (cs : List Char) : Bool :=
  match cs with
  | a :: b :: rest =>
    if isSlash a && isSlash b then
      let host := rest.takeWhile (fun c => !(isSlash c || c = '?' || c = '#'))
      host.isEmpty || isDriveLetter host || specialHostValid host
    else true
  | _ => true

/-- Whether a text reads as an absolute URL. -/
def isValid (s : String) : Bool :=
  match splitScheme (clean s) with
  | none => false
  | some (scheme, rest) =>
    match SchemeKind.of scheme with
    | .special => authorityValid true (rest.dropWhile isSlash)
    | .file => fileValid rest
    | .other =>
      match rest with
      | '/' :: '/' :: more => authorityValid false more
      | _ => true

end L10nLint.Url
