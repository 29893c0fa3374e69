import L10nLint.Unicode.IdnaMapping
import L10nLint.Unicode.BidiClass
import L10nLint.Unicode.JoiningType
import L10nLint.Unicode.CombiningClass
import L10nLint.Url.Punycode

/-!
# Domain names under UTS #46

`Idna.toUnicode?` processes the host of a URL as UTS #46 prescribes for the URL standard:
non-transitional processing, joiner and bidi checks on, hyphen checks and DNS length limits
off, and the ASCII characters that a host may not contain refused.

1. Map: every code point is kept, replaced, dropped or refused as the mapping table says
   (`Unicode.idnaStatus`); a deviation such as `ß` is kept.
2. Refuse the forbidden ASCII characters: controls, space, `#`, `%`, `/`, `:`, `<`, `>`, `?`,
   `@`, `[`, `\`, `]`, `^`, `|` and delete.
3. Cut into labels at `.`. A label that starts with `xn--` is decoded from Punycode; the
   decoded label must be non-empty, not all ASCII, must not start with `xn--` again, and
   may only hold code points that are valid or deviations.
4. Check every non-empty label: it does not start with a mark; a zero-width joiner follows a
   virama; a zero-width non-joiner follows a virama or stands between a left- or dual-joining
   and a right- or dual-joining letter (transparent letters between them are passed over).
5. If some label holds a right-to-left character (bidi class `R`, `AL` or `AN`), every
   non-empty label must satisfy the six conditions of RFC 5893.

The result is the list of labels in Unicode form, or `none` when the name is refused.
-/

namespace L10nLint.Url.Idna

open L10nLint.Unicode

/-- The mapping step for one code point: its replacement, or `none` when it is refused. -/
def mapChar (c : Char) : Option (List Char) :=
  match idnaStatus c with
  | .valid => some [c]
  | .deviation => some [c]
  | .mapped r => some r
  | .ignored => some []
  | .disallowed => none

/-- Maps a whole name. -/
def mapName (cs : List Char) : Option (List Char) := (cs.mapM mapChar).map List.flatten

/-- The ASCII characters a host may not contain. -/
def isForbiddenAscii (c : Char) : Bool :=
  c.toNat ≤ 0x20 || c.toNat = 0x7F || "#%/:<>?@[\\]^|".toList.contains c

/-- Whether a code point may appear in a decoded label. -/
def isValidInLabel (c : Char) : Bool :=
  match idnaStatus c with
  | .valid => true
  | .deviation => true
  | _ => false

/-- The zero-width non-joiner. -/
def zwnj : Char := '\u200c'
/-- The zero-width joiner. -/
def zwj : Char := '\u200d'

/-- The first joining type past transparent characters, if any. -/
def joiningPastTransparent (cs : List Char) : Option JoiningType :=
  (cs.dropWhile (fun c => joiningType c = .transparent)).head?.map joiningType

/-- Whether a joiner at this place is allowed; `before` holds the label before it, nearest
first, and `after` the label after it. -/
def joinerAllowed (c : Char) (before after : List Char) : Bool :=
  let afterVirama := match before with
    | b :: _ => combiningClass b = viramaClass
    | [] => false
  if c = zwj then afterVirama
  else if c = zwnj then
    afterVirama ||
      ((joiningPastTransparent before = some .left ||
          joiningPastTransparent before = some .dual) &&
        (joiningPastTransparent after = some .right ||
          joiningPastTransparent after = some .dual))
  else true

/-- Checks every joiner of a label; `before` holds the characters passed, nearest first. -/
def joinersAllowed (before : List Char) : List Char → Bool
  | [] => true
  | c :: rest => joinerAllowed c before rest && joinersAllowed (c :: before) rest

/-- Whether a character is written right to left, or is an Arabic digit. -/
def isRtl (c : Char) : Bool :=
  let k := bidiClass c
  k = .R || k = .AL || k = .AN

/-- The last character of a label that is not a non-spacing mark. -/
def lastPastMarks (label : List Char) : Option Char :=
  (label.reverse.dropWhile (fun c => bidiClass c = .NSM)).head?

/-- The six conditions of RFC 5893 on one label of a right-to-left name. -/
def bidiLabelValid (label : List Char) : Bool :=
  match label with
  | [] => true
  | c :: rest =>
    let first := bidiClass c
    if first = .L then
      rest.all (fun d =>
        [BidiClass.L, .EN, .ES, .CS, .ET, .ON, .BN, .NSM].contains (bidiClass d)) &&
        match lastPastMarks label with
        | some d => bidiClass d = .L || bidiClass d = .EN
        | none => true
    else if first = .R || first = .AL then
      rest.all (fun d => [BidiClass.R, .AL, .AN, .EN, .ES, .CS, .ET, .ON, .BN, .NSM].contains
          (bidiClass d)) &&
        (match lastPastMarks label with
          | some d => [BidiClass.R, .AL, .EN, .AN].contains (bidiClass d)
          | none => false) &&
        !(rest.any (fun d => bidiClass d = .EN) && rest.any (fun d => bidiClass d = .AN))
    else false

/-- The checks every non-empty label must pass. -/
def labelValid (label : List Char) : Bool :=
  match label with
  | [] => true
  | c :: _ => !isMark c && joinersAllowed [] label

/-- The `xn--` prefix of a Punycode label. -/
def acePrefix : List Char := "xn--".toList

/-- A label in Unicode form: decoded when it starts with `xn--`. -/
def decodeLabel (label : List Char) : Option (List Char) :=
  if acePrefix.isPrefixOf label then
    match Punycode.decode (label.drop 4) with
    | some d =>
      if d.isEmpty || d.all (fun c => c.toNat < 0x80) || acePrefix.isPrefixOf d ||
          !d.all isValidInLabel then none
      else some d
    | none => none
  else some label

/-- Processes a host name; the labels in Unicode form, or `none` when it is refused. -/
def toUnicode? (name : List Char) : Option (List (List Char)) := do
  let mapped ← mapName name
  if mapped.any isForbiddenAscii then none
  let labels ← (mapped.splitOn '.').mapM decodeLabel
  if !labels.all labelValid then none
  if labels.any (·.any isRtl) && !labels.all bidiLabelValid then none
  pure labels

end L10nLint.Url.Idna
