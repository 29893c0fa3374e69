import L10nLint.Rule.Reason
import L10nLint.Ignore
import L10nLint.Config
import L10nLint.Key.Accessor

/-!
# The usage rule

Strings are declared under keys and used through generated accessors. The usage rule
(`unused_swiftgen_strings`) compares the two:

* A declared key is turned into its accessor (`Key.accessor`) and compared by the accessor's
  match key; a used key is compared lower-cased. The keys of the rule's `ignored` and
  `work_in_progress` lists and of ignore files are declared keys.
* A declaration is *unused* when its match key is neither used, ignored, in progress nor in an
  ignore file. It is reported once per declaration, naming the key as declared, unless that
  key is empty.
* A usage of a key that is in progress or in an ignore file is reported.
* Every finding of an ignore file is reported.

The rule reads the files handed to it one at a time into its buffers (`Buffers.read`): a
declared record is kept with its accessor as key and its key as declared as comment. Reports
are computed from the buffers (`violations`), in this order: unused declarations, then usages
of keys in progress, then ignore-file findings. Each kind is graded by `severity` and
`severity_map`, under the kinds `unusedString`, `workInProgressReferenced` and `missingOwner`,
and the block's `help_link` closes every reason.
-/

namespace L10nLint.Rule

/-- A usage problem. -/
inductive UsageProblem where
  /-- A declared string is not used; the key is as declared. -/
  | unused (key : String)
  /-- A string in progress is used. -/
  | inProgressUsed
  deriving DecidableEq, Repr

namespace UsageProblem

/-- The configuration identifier of a usage problem. -/
def identifier : UsageProblem → String
  | .unused _ => "unusedString"
  | .inProgressUsed => "workInProgressReferenced"

/-- Why it is reported. -/
def reason : UsageProblem → String
  | .unused key => "Localized string \"" ++ key ++ "\" is unused. If you intend to use this " ++
    "string in a later PR, please add it to the \"work_in_progress\" list in the lint " ++
    "configuration or create an ignore file."
  | .inProgressUsed => "This string is marked as WIP but is referenced here."

end UsageProblem

/-- The settings of the usage rule. -/
structure UsageRule where
  /-- Match keys of strings that may stay unused. -/
  ignored : List String := []
  /-- Match keys of strings in progress: they may stay unused and must not be used. -/
  inProgress : List String := []
  severities : SeverityPolicy := { default := .warning }
  helpLink : Option String := none
  deriving Repr

namespace UsageRule

/-- The rule's identifier. -/
def identifier : String := "unused_swiftgen_strings"

/-- The rule's display name. -/
def name : String := "Unused SwiftGen String"

/-- What the rule checks. -/
def description : String := "L10n string is not used in the app"

/-- The usage rule as a configuration sets it up. -/
def ofConfig (config : Config) : UsageRule :=
  let block := config.rule? identifier
  { ignored := ((block.bind (·.strings? "ignored")).getD []).map Key.declaredMatchKey
    inProgress := ((block.bind (·.strings? "work_in_progress")).getD []).map Key.declaredMatchKey
    severities := SeverityPolicy.ofRule block .warning
    helpLink := block.bind (·.string? "help_link") }

/-- A violation of this rule. -/
def violation (r : UsageRule) (kind reason : String) (location : Location) : Violation :=
  { ruleId := identifier, ruleName := name, severity := r.severities.resolve kind, location,
    reason := withHelpLink reason r.helpLink }

/-- A declared record as the rule keeps it: its key is rewritten to the key's accessor, and
the key as declared is kept in the comment, to be named in reports. -/
def declaredRecord (r : Record) : Record := { r with key := Key.accessor r.key, comment := some r.key }

/-- A used record as the rule keeps it: its key lower-cased. -/
def usedRecord (r : Record) : Record := { r with key := Text.toLower r.key }

/-- Everything the rule has read, each in the order read: declared and used records (as
`declaredRecord` and `usedRecord` keep them), and the keys and findings of ignore files. -/
structure Buffers where
  declared : List Record := []
  used : List Record := []
  ignoredKeys : List IgnoredKey := []
  findings : List IgnoreFinding := []
  deriving DecidableEq, Repr

/-- What a file contributes as an ignore file: nothing when there is no ignore reader. -/
def ignoreContents (ignoreFiles : Option IgnoreSource) (file : SourceFile) : IgnoreContents :=
  match ignoreFiles with
  | some s => s.collect file
  | none => {}

/-- Reads one file: its declarations, its usages and, when the ignore reader takes it, its
contents as an ignore file. A file a reader does not support or cannot read adds nothing. -/
def Buffers.read (declarations usages : Source) (ignoreFiles : Option IgnoreSource)
    (b : Buffers) (file : SourceFile) : Buffers :=
  let contents := ignoreContents ignoreFiles file
  { declared := b.declared ++ (declarations.collect file).map declaredRecord
    used := b.used ++ (usages.collect file).map usedRecord
    ignoredKeys := b.ignoredKeys ++ contents.keys
    findings := b.findings ++ contents.findings }

@[simp] theorem Buffers.read_declared (d u : Source) (i : Option IgnoreSource) (b : Buffers)
    (f : SourceFile) : (b.read d u i f).declared = b.declared ++ (d.collect f).map declaredRecord :=
  rfl

@[simp] theorem Buffers.read_used (d u : Source) (i : Option IgnoreSource) (b : Buffers)
    (f : SourceFile) : (b.read d u i f).used = b.used ++ (u.collect f).map usedRecord := rfl

@[simp] theorem Buffers.read_ignoredKeys (d u : Source) (i : Option IgnoreSource) (b : Buffers)
    (f : SourceFile) : (b.read d u i f).ignoredKeys = b.ignoredKeys ++ (ignoreContents i f).keys :=
  rfl

@[simp] theorem Buffers.read_findings (d u : Source) (i : Option IgnoreSource) (b : Buffers)
    (f : SourceFile) : (b.read d u i f).findings = b.findings ++ (ignoreContents i f).findings :=
  rfl

/-- The match keys of the ignore files' keys read so far. -/
def Buffers.ignoreFileKeys (b : Buffers) : List String :=
  b.ignoredKeys.map (Key.declaredMatchKey ·.key)

/-- The match keys under which a declaration is live: used, ignored, in progress or in an
ignore file. -/
def live (r : UsageRule) (b : Buffers) : List String :=
  b.used.map (·.key) ++ r.ignored ++ r.inProgress ++ b.ignoreFileKeys

/-- The match keys whose usages are reported: in progress or in an ignore file. -/
def watched (r : UsageRule) (b : Buffers) : List String := r.inProgress ++ b.ignoreFileKeys

/-- Declarations reported as unused: those whose match key is not live, unless the key as
declared is empty. -/
def unused (r : UsageRule) (b : Buffers) : List Violation :=
  (b.declared.filter fun d => !(r.live b).contains (Key.matchKey d.key)).filterMap fun d =>
    d.comment.bind fun key =>
      if key.isEmpty then none
      else
        let p := UsageProblem.unused key
        some (r.violation p.identifier p.reason d.location)

/-- Usages of strings in progress or in an ignore file. -/
def inProgressUsed (r : UsageRule) (b : Buffers) : List Violation :=
  (b.used.filter fun u => (r.watched b).contains u.key).map fun u =>
    let p := UsageProblem.inProgressUsed
    r.violation p.identifier p.reason u.location

/-- All violations, in the rule's order. -/
def violations (r : UsageRule) (b : Buffers) : List Violation :=
  r.unused b ++ r.inProgressUsed b ++
    b.findings.map fun f => r.violation f.identifier f.reason f.location

end UsageRule

end L10nLint.Rule
