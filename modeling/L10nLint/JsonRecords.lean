import L10nLint.Ignore
import L10nLint.Json.Read

/-!
# Records stored as JSON

A simple format for records: a JSON document whose member `name` holds the records of one
reader, so that one document can feed several readers (declarations under one member, usages
under another).

* The text must be JSON. A document that is not an object has no members.
* A missing or `null` member holds no records; a string member is a failure whose text is the
  string; an array member holds records; any other member is a failure.
* A record is an object: `key` (a string, required), `file` (a string, by default the
  document's path), `line` and `column` (natural numbers below `2^64`, by default 0),
  `table` and `locale` (strings, else ignored), `comment` (a string or `null`), `value` (an
  array of strings; it sets the placeholder count) and `placeholder_count` (a natural number
  that overrides the count). The fields are checked in this order and the first bad one is
  reported.
* An ignore document's member is an object with `keys` (records, of which the key and
  location count) and `missing_owner` (when `true`, a missing-owner finding at the start of the
  file).
-/

namespace L10nLint.JsonRecords

open L10nLint.Json

/-- Why a document cannot be read. -/
inductive Problem where
  | notJson
  | notAnArray
  | keyNotString
  | fileNotString
  | notNatural (field : String)
  | commentNotString
  | valueNotArray
  | valueNotStrings
  /-- The member's own text. -/
  | stated (message : String)
  deriving DecidableEq, Repr

/-- The text of a problem. -/
def Problem.message : Problem → String
  | .notJson => "content is not JSON"
  | .notAnArray => "records must be an array"
  | .keyNotString => "record needs a string `key`"
  | .fileNotString => "record `file` must be a string"
  | .notNatural field => "record `" ++ field ++ "` must be a non-negative integer"
  | .commentNotString => "record `comment` must be a string"
  | .valueNotArray => "record `value` must be an array"
  | .valueNotStrings => "record `value` must hold strings"
  | .stated message => message

/-- A natural-number field, 0 when missing. -/
def natural (v : Value) (field : String) : Except Problem Nat :=
  match v.field? field with
  | none => pure 0
  | some (.number (.nat n)) => pure n
  | some _ => throw (.notNatural field)

/-- A field that is kept only when it is a string. -/
def optionalString (v : Value) (field : String) : Option String :=
  match v.field? field with
  | some (.string s) => some s
  | _ => none

/-- The strings of a `value` array. -/
def valueStrings : List Value → Except Problem (List String)
  | [] => pure []
  | .string s :: rest => do pure (s :: (← valueStrings rest))
  | _ :: _ => throw .valueNotStrings

/-- Reads one record of a document at `path`. -/
def recordOf (path : String) (v : Value) : Except Problem Record := do
  let key ← match v.field? "key" with
    | some (.string k) => pure k
    | _ => throw .keyNotString
  let file ← match v.field? "file" with
    | none => pure path
    | some (.string f) => pure f
    | some _ => throw .fileNotString
  let line ← natural v "line"
  let column ← natural v "column"
  let comment ← match v.field? "comment" with
    | none => pure none
    | some .null => pure none
    | some (.string c) => pure (some c)
    | some _ => throw .commentNotString
  let base : Record :=
    { key, table := optionalString v "table", locale := optionalString v "locale",
      location := { file, line, column }, comment }
  let withValue ← match v.field? "value" with
    | none => pure base
    | some (.array items) => do pure (base.withValue (← valueStrings items))
    | some _ => throw .valueNotArray
  match v.field? "placeholder_count" with
  | none => pure withValue
  | some (.number (.nat n)) => pure { withValue with placeholderCount := n }
  | some _ => throw (.notNatural "placeholder_count")

/-- The member `name` of a document's text: `none` when it is missing or `null`. -/
def member (name : String) (content : String) : Except Problem (Option Value) :=
  match Json.parse content with
  | none => throw .notJson
  | some doc =>
    match doc.field? name with
    | none => pure none
    | some .null => pure none
    | some (.string message) => throw (.stated message)
    | some v => pure (some v)

/-- The records of an array of records. -/
def recordsOf (path : String) : Option Value → Except Problem (List Record)
  | none => pure []
  | some (.array items) => items.mapM (recordOf path)
  | some _ => throw .notAnArray

/-- The records under member `name` of a file. -/
def records (name : String) (file : SourceFile) : Except Problem (List Record) := do
  recordsOf file.path (← member name file.content)

/-- A reader of the records under member `name` in files with extension `extension`. -/
def source (name extension : String) : Source where
  supports file := file.hasExtension extension
  parse file := (records name file).mapError fun p => .decode file.path p.message

/-- The contents of an ignore document under member `name`. -/
def ignoreContents (name : String) (file : SourceFile) : Except Problem IgnoreContents := do
  match ← member name file.content with
  | none => pure {}
  | some v@(.object _) =>
    let keys ← recordsOf file.path (v.field? "keys")
    let missingOwner := match v.field? "missing_owner" with
      | some (.bool true) => true
      | _ => false
    pure { keys := keys.map fun r => ⟨r.key, r.location⟩,
           findings := if missingOwner then [.missingOwner { file := file.path }] else [] }
  | some _ => throw .notAnArray

/-- A reader of ignore documents under member `name` in files with extension `extension`. -/
def ignoreSource (name extension : String) : IgnoreSource where
  supports file := file.hasExtension extension
  parse file := (ignoreContents name file).mapError fun p => .decode file.path p.message

end L10nLint.JsonRecords
