import L10nLint.Unicode.GraphemeBreak

/-!
# Grapheme clusters

The length of a localized value is counted in user-perceived characters, the extended
grapheme clusters of UAX #29. `clusterCount` walks the text once, deciding at each pair of
neighbouring characters whether a cluster ends between them. The rules, first match wins:

* a carriage return and a line feed stay together; any other pair touching a control, a
  carriage return or a line feed is a boundary;
* Hangul jamo and syllables join into syllable blocks;
* extending characters, the zero-width joiner and spacing marks attach to what precedes
  them, and a prepended character attaches to what follows it;
* a consonant, then a virama (with extenders around it), joins the next consonant
  (`Indic_Conjunct_Break`);
* a pictographic character, extenders, a zero-width joiner join the next pictographic
  character (emoji sequences);
* regional indicators pair up from the left (flags);
* every other pair is a boundary.

The scan carries what the later rules need to look back at: the previous break class, the
state of an emoji sequence, whether an odd number of regional indicators precede, and the
state of an Indic conjunct.
-/

namespace L10nLint.Text

open L10nLint.Unicode

/-- How far an emoji sequence has come: after a pictographic character and its extenders,
or after the joiner that follows them. -/
inductive EmojiRun where
  | none | pictographic | joiner
  deriving DecidableEq, Repr

/-- How far an Indic conjunct has come: after a consonant, or after a consonant and a
linker (each with extenders). -/
inductive ConjunctRun where
  | none | consonant | linked
  deriving DecidableEq, Repr

/-- What the scan remembers about the text before the current position. -/
structure ClusterScan where
  prev : BreakClass
  emoji : EmojiRun
  oddIndicators : Bool
  conjunct : ConjunctRun
  deriving Repr

/-- Whether a class is a control, a carriage return or a line feed. -/
def isControlLike (k : BreakClass) : Bool :=
  k = .control || k = .cr || k = .lf

/-- Whether a cluster boundary lies between the scanned text and the character `c`. -/
def ClusterScan.breaksBefore (s : ClusterScan) (c : Char) : Bool :=
  let p := s.prev
  let k := breakClass c
  if p = .cr && k = .lf then false
  else if isControlLike p || isControlLike k then true
  else if p = .hangulL && (k = .hangulL || k = .hangulV || k = .hangulLV || k = .hangulLVT) then
    false
  else if (p = .hangulLV || p = .hangulV) && (k = .hangulV || k = .hangulT) then false
  else if (p = .hangulLVT || p = .hangulT) && k = .hangulT then false
  else if k = .extend || k = .zwj || k = .spacingMark then false
  else if p = .prepend then false
  else if s.conjunct = .linked && conjunctClass c = .consonant then false
  else if s.emoji = .joiner && k = .pictographic then false
  else if p = .regionalIndicator && k = .regionalIndicator && s.oddIndicators then false
  else true

/-- The scan state after the character `c`. -/
def ClusterScan.push (s : ClusterScan) (c : Char) : ClusterScan :=
  let k := breakClass c
  { prev := k
    emoji :=
      if k = .pictographic then .pictographic
      else if k = .extend && s.emoji = .pictographic then .pictographic
      else if k = .zwj && s.emoji = .pictographic then .joiner
      else .none
    oddIndicators := k = .regionalIndicator && !(s.prev = .regionalIndicator && s.oddIndicators)
    conjunct :=
      match conjunctClass c with
      | .consonant => .consonant
      | .linker => if s.conjunct = .none then .none else .linked
      | .extend => s.conjunct
      | .none => .none }

/-- The scan state after the first character of a text. -/
def ClusterScan.start (c : Char) : ClusterScan :=
  ClusterScan.push ⟨.control, .none, false, .none⟩ c

/-- The number of boundaries inside `cs`, for a scan that has passed the text before it. -/
def boundariesFrom (s : ClusterScan) : List Char → Nat
  | [] => 0
  | c :: rest => (if s.breaksBefore c then 1 else 0) + boundariesFrom (s.push c) rest

/-- The number of extended grapheme clusters of a text. -/
def clusterCountChars : List Char → Nat
  | [] => 0
  | c :: rest => 1 + boundariesFrom (ClusterScan.start c) rest

/-- The number of extended grapheme clusters of a string. -/
def clusterCount (s : String) : Nat := clusterCountChars s.toList

end L10nLint.Text
