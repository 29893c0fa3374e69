import L10nLint.Rule.Comment
import L10nLint.Rule.Usage
import L10nLint.Source

/-!
# Rules

A rule with the readers it takes its records from and the buffers it has filled so far. The
linter hands every file to every rule, in order (`Rule.processFile`): a rule reads the file
with its readers and appends what it found to its buffers. When asked, a rule reports the
violations of its buffers (`Rule.violations`). A fresh rule has empty buffers.
-/

namespace L10nLint

/-- A rule with its readers and buffers. -/
inductive Rule where
  /-- A comment rule, reading declarations; `declared` holds the records read so far. -/
  | comments (rule : Rule.CommentRule) (declarations : Source) (declared : List Record)
  /-- The usage rule, reading declarations, usages and, if it has a reader, ignore files. -/
  | usage (rule : Rule.UsageRule) (declarations usages : Source)
      (ignoreFiles : Option IgnoreSource) (buffers : Rule.UsageRule.Buffers)

namespace Rule

/-- The rule's identifier. -/
def identifier : Rule → String
  | .comments r .. => r.identifier
  | .usage .. => UsageRule.identifier

/-- The rule's display name. -/
def name : Rule → String
  | .comments r .. => r.name
  | .usage .. => UsageRule.name

/-- What the rule checks. -/
def description : Rule → String
  | .comments r .. => r.description
  | .usage .. => UsageRule.description

/-- The severity the rule's block sets for the rule as a whole. -/
def defaultSeverity : Rule → Severity
  | .comments r .. => r.severities.default
  | .usage r .. => r.severities.default

/-- Reads one file into the rule's buffers. -/
def processFile : Rule → SourceFile → Rule
  | .comments r declarations declared, file =>
    .comments r declarations (declared ++ declarations.collect file)
  | .usage r declarations usages ignoreFiles b, file =>
    .usage r declarations usages ignoreFiles (b.read declarations usages ignoreFiles file)

/-- The violations a rule reports from its buffers. -/
def violations : Rule → List Violation
  | .comments r _ declared => r.violations declared
  | .usage r _ _ _ b => r.violations b

end Rule

end L10nLint
