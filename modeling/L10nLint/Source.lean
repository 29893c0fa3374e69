import L10nLint.Record
import L10nLint.Path
import L10nLint.Text.Trim

/-!
# Sources of records

A `Source` reads records from the files it supports. Readers of concrete formats are
sources, and so is a composition of them:

* `Source.compose` supports a file when one of its sources does, and reads it with every
  source that supports it, in order, joining their records. A source that fails is skipped;
  only when every supporting source fails does the composition fail, with the first failure.
  A file that no source supports is an `unsupported` failure.
* `Source.collect` is what a rule takes from a file: the records, or nothing when the file is
  not supported or cannot be read.
-/

namespace L10nLint

/-- A file handed to the linter: its path, as written, and its text. -/
structure SourceFile where
  path : String
  content : String := ""
  deriving DecidableEq, Repr, Inhabited

/-- Whether a file's extension is `ext`, with ASCII letters compared without case. -/
def SourceFile.hasExtension (f : SourceFile) (ext : String) : Bool :=
  match Path.extension? f.path with
  | some e => Text.asciiLowerString e == Text.asciiLowerString ext
  | none => false

/-- Why a file could not be read. -/
inductive FormatError where
  /-- A reader supports the file but cannot read it. -/
  | decode (path : String) (message : String)
  /-- No reader supports the file. -/
  | unsupported (path : String)
  deriving DecidableEq, Repr

/-- The text of a format error. -/
def FormatError.message : FormatError → String
  | .decode path message => "Failed to decode " ++ path ++ ": " ++ message
  | .unsupported path => "No reader supports " ++ path

/-- A reader of records. -/
structure Source where
  supports : SourceFile → Bool
  parse : SourceFile → Except FormatError (List Record)

namespace Source

/-- The records of each result that succeeded, in order. -/
def successes : List (Except FormatError (List Record)) → List Record
  | [] => []
  | .ok rs :: rest => rs ++ successes rest
  | .error _ :: rest => successes rest

/-- Whether a result is a success. -/
def succeeded : Except FormatError (List Record) → Bool
  | .ok _ => true
  | .error _ => false

/-- The first failure among results. -/
def firstFailure : List (Except FormatError (List Record)) → Option FormatError
  | [] => none
  | .ok _ :: rest => firstFailure rest
  | .error e :: _ => some e

/-- Reads a file with every source that supports it. -/
def composedParse (sources : List Source) (file : SourceFile) : Except FormatError (List Record) :=
  let results := (sources.filter (·.supports file)).map (·.parse file)
  if results.isEmpty then .error (.unsupported file.path)
  else if results.any succeeded then .ok (successes results)
  else
    match firstFailure results with
    | some e => .error e
    | none => .ok []

/-- The composition of sources. -/
def compose (sources : List Source) : Source where
  supports file := sources.any (·.supports file)
  parse := composedParse sources

/-- The records a rule takes from a file: none when it is unsupported or unreadable. -/
def collect (s : Source) (file : SourceFile) : List Record :=
  if s.supports file then
    match s.parse file with
    | .ok records => records
    | .error _ => []
  else []

theorem collect_of_supports_false {s : Source} {file : SourceFile}
    (h : s.supports file = false) : s.collect file = [] := by
  simp [collect, h]

theorem collect_of_parse_ok {s : Source} {file : SourceFile} {records : List Record}
    (hs : s.supports file = true) (hp : s.parse file = .ok records) :
    s.collect file = records := by
  simp [collect, hs, hp]

@[simp] theorem supports_compose (sources : List Source) (file : SourceFile) :
    (compose sources).supports file = sources.any (·.supports file) := rfl

end Source

end L10nLint
