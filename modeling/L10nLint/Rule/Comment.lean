import L10nLint.Rule.Reason
import L10nLint.Comment.Validator
import L10nLint.Config
import L10nLint.Violation

/-!
# Comment rules

A comment rule validates the comment of every declared record (`Comment.Validator`) and
reports each problem at the record's location. Two rules differ in their settings only:

* the JSON comment rule (`json_comment_rule`) uses the full profile; its block may replace the
  vocabulary (`valid_placeholders`, when it is a non-empty array of strings), grade each kind
  of problem (`severity`, `severity_map`) and add a help link (`help_link`);
* the legacy rule (`structured_placeholder_comment`) uses the legacy profile and one severity
  for every problem (`severity`), without a help link.
-/

namespace L10nLint.Rule

/-- The settings of a comment rule. -/
structure CommentRule where
  identifier : String
  name : String
  description : String
  validator : Comment.Validator
  severities : SeverityPolicy
  helpLink : Option String := none
  deriving Repr

namespace CommentRule

/-- The JSON comment rule as a configuration sets it up. -/
def json (config : Config) : CommentRule :=
  let id := "json_comment_rule"
  let block := config.rule? id
  let vocabulary := match block.bind (·.strings? "valid_placeholders") with
    | some (w :: ws) => w :: ws
    | _ => Comment.defaultPlaceholders
  { identifier := id
    name := "JSONCommentRule"
    description := "Placeholder comment is incorrect"
    validator := Comment.Validator.full vocabulary
    severities := SeverityPolicy.ofRule block .warning
    helpLink := block.bind (·.string? "help_link") }

/-- The legacy comment rule as a configuration sets it up. -/
def legacy (config : Config) : CommentRule :=
  let id := "structured_placeholder_comment"
  { identifier := id
    name := "StructuredPlaceholderComment"
    description := "Structured placeholder comment is incorrect"
    validator := Comment.Validator.legacy
    severities := { default := (SeverityPolicy.ofRule (config.rule? id) .warning).default } }

/-- The violation a declared record gives, if its comment has a problem. -/
def check (r : CommentRule) (record : Record) : Option Violation :=
  (r.validator.validate record).map fun p =>
    { ruleId := r.identifier
      ruleName := r.name
      severity := r.severities.resolve p.identifier
      location := record.location
      reason := commentReason record.key p.reason r.helpLink }

/-- The violations of declared records, in their order. -/
def violations (r : CommentRule) (declared : List Record) : List Violation :=
  declared.filterMap r.check

end CommentRule

end L10nLint.Rule
