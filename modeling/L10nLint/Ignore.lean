import L10nLint.Source

/-!
# Ignore files

An ignore file lists keys of strings that are known to be unused, and may carry findings
about itself. A missing owner is the one finding so far: an ignore file must say who is
responsible for the strings it lists. Ignore files are read by an `IgnoreSource`.
-/

namespace L10nLint

/-- A key listed in an ignore file, with where it was listed. -/
structure IgnoredKey where
  key : String
  location : Location
  deriving DecidableEq, Repr

/-- A finding about an ignore file. -/
inductive IgnoreFinding where
  /-- The file names no owner. -/
  | missingOwner (location : Location)
  deriving DecidableEq, Repr

namespace IgnoreFinding

/-- Where the finding is. -/
def location : IgnoreFinding → Location
  | .missingOwner l => l

/-- The configuration identifier of a finding. -/
def identifier : IgnoreFinding → String
  | .missingOwner _ => "missingOwner"

/-- Why it is reported. -/
def reason : IgnoreFinding → String
  | .missingOwner _ => "Please specify a responsible owner for these strings."

end IgnoreFinding

/-- What an ignore file holds. -/
structure IgnoreContents where
  keys : List IgnoredKey := []
  findings : List IgnoreFinding := []
  deriving DecidableEq, Repr

/-- A reader of ignore files. -/
structure IgnoreSource where
  supports : SourceFile → Bool
  parse : SourceFile → Except FormatError IgnoreContents

/-- What an ignore file contributes: its contents, or nothing when it is not supported or
cannot be read. -/
def IgnoreSource.collect (s : IgnoreSource) (file : SourceFile) : IgnoreContents :=
  if s.supports file then
    match s.parse file with
    | .ok contents => contents
    | .error _ => {}
  else {}

end L10nLint
