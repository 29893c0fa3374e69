import L10nLint.Proofs.FileOrder
import L10nLint.JsonRecords

/-
# What the JSON comment rule reports

The JSON comment rule collects the declared records of every file it is given and then checks
each one's comment. Its configuration is read leniently, option by option:

* the vocabulary is the strings of `valid_placeholders` when that option is an array holding at
  least one string, and the default vocabulary otherwise (`CommentRule.json_validator`);
* the help link is `help_link` when that option is a string (`CommentRule.json_helpLink`);
* the severity of a kind of problem is the first severity that `severity_map` names for the kind,
  else the one `severity` names, else `warning` (`Config.resolve_ofRule`); a value that is not a
  string or names no severity is passed over.

So the report is one violation per declared record whose comment fails, in the order the
records were read, at the record's location, with the problem's severity and a reason that
quotes the key (`CommentRule.json_violations_run`). Since the severity of a kind depends only on
the entries written for that kind, two configurations that differ only in the `severity_map`
entry of one kind report the same violations, with the severities of that kind's violations
changed and nothing else (`CommentRule.json_violations_severityMapVariant`).

**Main statement** (`CommentRule.json_comment_report`): both, for every configuration, every
reader of declarations and every sequence of files.
-/

namespace L10nLint

/-! ## 1. Options as written -/

/-- The value a configuration writes for an option in a rule's block. -/
def Config.option (c : Config) (rule key : String) : Option Toml.Value :=
  (c.rule? rule).bind fun o => o.entries.lookup key

/-- The values a block's `severity_map` table gives one kind, in order. -/
def RuleOptions.severityEntries (o : RuleOptions) (kind : String) : List Toml.Value :=
  match o.entries.lookup "severity_map" with
  | some (.table entries) => (entries.filter (·.1 == kind)).map (·.2)
  | _ => []

/-- The values a rule's `severity_map` table gives one kind, in order: none when the rule has no
block, the block no table, or the table no entry for the kind. -/
def Config.severityEntries (c : Config) (rule kind : String) : List Toml.Value :=
  match c.rule? rule with
  | some o => o.severityEntries kind
  | none => []

/-- Two configurations that agree on every option of a rule's block but `severity_map`, and on
every entry of `severity_map` but the one of `kind`. -/
structure Config.SeverityMapVariant (c c' : Config) (rule kind : String) : Prop where
  options : ∀ key, key ≠ "severity_map" → c.option rule key = c'.option rule key
  entries : ∀ other, other ≠ kind → c.severityEntries rule other = c'.severityEntries rule other

/-- The severity a configuration value names: a string that reads as a severity. -/
def Toml.Value.severity? (v : Toml.Value) : Option Severity :=
  v.asString?.bind Severity.parse?

/-! ## 2. Resolving a severity -/

/-- Looking a key up after a `filterMap` that keeps keys: the first value written under the key
that the map keeps. -/
theorem lookup_filterMap_values {β γ : Type} (g : β → Option γ) (key : String) :
    ∀ l : List (String × β),
      (l.filterMap fun p => (g p.2).map fun x => (p.1, x)).lookup key =
        (((l.filter (·.1 == key)).map (·.2)).filterMap g).head? := by
  intro l
  induction l with
  | nil => rfl
  | cons p rest ih =>
    obtain ⟨k, v⟩ := p
    by_cases hk : k = key
    · subst hk
      cases hg : g v with
      | none => simp [hg, ih]
      | some x => simp [hg]
    · have hk' : (key == k) = false := beq_false_of_ne (Ne.symm hk)
      cases hg : g v with
      | none => simp [hg, hk, ih]
      | some x => simp [hg, hk, List.lookup_cons, hk', ih]

/-- The overrides of a block, looked up: the first severity named for the kind. -/
theorem lookup_overrides (o : RuleOptions) (fallback : Severity) (kind : String) :
    (SeverityPolicy.ofRule (some o) fallback).overrides.lookup kind =
      ((o.severityEntries kind).filterMap Toml.Value.severity?).head? := by
  simp only [SeverityPolicy.ofRule, RuleOptions.stringMap?, RuleOptions.severityEntries]
  cases o.entries.lookup "severity_map" with
  | none => rfl
  | some v =>
    cases v with
    | table entries =>
      dsimp only
      rw [Option.getD_some, List.filterMap_filterMap, ← lookup_filterMap_values]
      congr 1
      apply List.filterMap_congr
      rintro ⟨k, v⟩ -
      simp only [Toml.Value.severity?]
      cases v.asString? <;> simp
    | string _ | integer _ | float _ | boolean _ | datetime _ | array _ => rfl

/-- A string option is the value written for it, when that value is a string. -/
theorem RuleOptions.string?_eq_bind (o : RuleOptions) (key : String) :
    o.string? key = (o.entries.lookup key).bind Toml.Value.asString? := by
  unfold RuleOptions.string?
  cases o.entries.lookup key with
  | none => rfl
  | some v => cases v <;> rfl

/-- A block's `severity`, read as a severity. -/
theorem RuleOptions.bind_string? (o : RuleOptions) (key : String) :
    (o.string? key).bind Severity.parse? = (o.entries.lookup key).bind Toml.Value.severity? := by
  rw [RuleOptions.string?_eq_bind, Option.bind_assoc]
  rfl

/-- **How a rule's block grades a kind of finding**: the first severity its `severity_map` names
for the kind, else the severity its `severity` names, else the fallback. -/
theorem Config.resolve_ofRule (c : Config) (rule kind : String) (fallback : Severity) :
    (SeverityPolicy.ofRule (c.rule? rule) fallback).resolve kind =
      ((c.severityEntries rule kind).filterMap Toml.Value.severity?).head?.getD
        (((c.option rule "severity").bind Toml.Value.severity?).getD fallback) := by
  cases hblock : c.rule? rule with
  | none => simp [SeverityPolicy.ofRule, SeverityPolicy.resolve, severityEntries, option, hblock]
  | some o =>
    rw [SeverityPolicy.resolve, lookup_overrides]
    simp only [severityEntries, option, hblock, Option.bind_some, SeverityPolicy.ofRule,
      RuleOptions.bind_string?]

/-- Configurations that differ at most in the `severity_map` entry of `kind` grade every other
kind alike. -/
theorem Config.SeverityMapVariant.resolve_eq {c c' : Config} {rule kind : String}
    (h : c.SeverityMapVariant c' rule kind) {other : String} (hother : other ≠ kind)
    (fallback : Severity) :
    (SeverityPolicy.ofRule (c.rule? rule) fallback).resolve other =
      (SeverityPolicy.ofRule (c'.rule? rule) fallback).resolve other := by
  rw [Config.resolve_ofRule, Config.resolve_ofRule, h.entries other hother,
    h.options "severity" (by decide)]

/-! ## 3. The JSON comment rule's settings -/

/-- The vocabulary of the JSON comment rule: the strings of `valid_placeholders` when that option
is an array holding at least one string, else the default vocabulary. -/
def Config.commentVocabulary (c : Config) : List String :=
  match c.option "json_comment_rule" "valid_placeholders" with
  | some (.array items) =>
    match items.filterMap Toml.Value.asString? with
    | [] => Comment.defaultPlaceholders
    | words => words
  | _ => Comment.defaultPlaceholders

/-- The help link of the JSON comment rule: `help_link` when it is a string. -/
def Config.commentHelpLink (c : Config) : Option String :=
  (c.option "json_comment_rule" "help_link").bind Toml.Value.asString?

namespace Rule.CommentRule

theorem json_validator (c : Config) :
    (json c).validator = Comment.Validator.full c.commentVocabulary := by
  simp only [json, Config.commentVocabulary, Config.option]
  cases c.rule? "json_comment_rule" with
  | none => rfl
  | some o =>
    simp only [Option.bind_some, RuleOptions.strings?]
    cases o.entries.lookup "valid_placeholders" with
    | none => rfl
    | some v =>
      cases v with
      | array items =>
        dsimp only
        cases items.filterMap Toml.Value.asString? <;> rfl
      | string _ | integer _ | float _ | boolean _ | datetime _ | table _ => rfl

theorem json_helpLink (c : Config) : (json c).helpLink = c.commentHelpLink := by
  simp only [json, Config.commentHelpLink, Config.option, RuleOptions.string?_eq_bind,
    Option.bind_assoc]

/-- The violation the JSON comment rule reports for a declared record whose comment has the
problem `p`. -/
def jsonViolation (c : Config) (r : Record) (p : Comment.Problem) : Violation where
  ruleId := "json_comment_rule"
  ruleName := "JSONCommentRule"
  severity := (SeverityPolicy.ofRule (c.rule? "json_comment_rule") .warning).resolve p.identifier
  location := r.location
  reason := "Comment for Localized string \"" ++ r.key ++ "\" " ++ p.reason ++
    match c.commentHelpLink with
    | some link => " For more information, please see: " ++ link
    | none => ""

theorem json_check (c : Config) (r : Record) :
    (json c).check r = ((Comment.Validator.full c.commentVocabulary).validate r).map
      (jsonViolation c r) := by
  rw [check, json_validator]
  congr 1
  funext p
  simp only [jsonViolation, commentReason, json_helpLink]
  cases c.commentHelpLink with
  | none => simp [withHelpLink, json]
  | some link => simp [withHelpLink, json, String.append_assoc]

/-- **The JSON comment rule's report after a run**: one violation for each declared record whose
comment fails, in the order the records were read from the files. -/
theorem json_violations_run (c : Config) (declarations : Source) (files : List SourceFile) :
    (files.foldl Rule.processFile (.comments (json c) declarations [])).violations =
      (files.flatMap declarations.collect).filterMap fun r =>
        ((Comment.Validator.full c.commentVocabulary).validate r).map (jsonViolation c r) := by
  rw [Rule.foldl_processFile_comments, List.nil_append, Rule.violations, violations]
  exact List.filterMap_congr fun r _ => json_check c r

/-! ## 4. Changing the severity of one kind -/

/-- Pairing the results of a check with the problems it found, record by record. -/
theorem zipWith_filterMap {α β γ δ : Type} (f : α → Option β) (g : α → β → γ)
    (h : γ → β → δ) (l : List α) :
    List.zipWith h (l.filterMap fun a => (f a).map (g a)) (l.filterMap f) =
      l.filterMap fun a => (f a).map fun b => h (g a b) b := by
  induction l with
  | nil => rfl
  | cons a rest ih =>
    cases hf : f a with
    | none => simp [hf, ih]
    | some b => simp [hf, ih]

/-- Under a configuration that differs only in the `severity_map` entry of `kind`, a record's
violation is the same but for its severity, which changes only for problems of that kind. -/
theorem jsonViolation_severityMapVariant {c c' : Config} {kind : String}
    (h : c.SeverityMapVariant c' "json_comment_rule" kind) (r : Record) (p : Comment.Problem) :
    jsonViolation c' r p =
      if p.identifier = kind then
        { jsonViolation c r p with
          severity := (SeverityPolicy.ofRule (c'.rule? "json_comment_rule") .warning).resolve kind }
      else jsonViolation c r p := by
  have hlink : c'.commentHelpLink = c.commentHelpLink := by
    simp only [Config.commentHelpLink, h.options "help_link" (by decide)]
  split
  · rename_i hp
    simp only [jsonViolation, hlink, hp]
  · rename_i hp
    simp only [jsonViolation, hlink, h.resolve_eq hp]

/-- **Changing the severity of one kind changes only that kind's severities.** -/
theorem json_violations_severityMapVariant {c c' : Config} {kind : String}
    (h : c.SeverityMapVariant c' "json_comment_rule" kind) (declarations : Source)
    (files : List SourceFile) :
    (files.foldl Rule.processFile (.comments (json c') declarations [])).violations =
      List.zipWith
        (fun v p => if p.identifier = kind then
          { v with
            severity := (SeverityPolicy.ofRule (c'.rule? "json_comment_rule") .warning).resolve kind }
          else v)
        (files.foldl Rule.processFile (.comments (json c) declarations [])).violations
        ((files.flatMap declarations.collect).filterMap
          (Comment.Validator.full c.commentVocabulary).validate) := by
  have hvocab : c'.commentVocabulary = c.commentVocabulary := by
    simp only [Config.commentVocabulary, h.options "valid_placeholders" (by decide)]
  rw [json_violations_run, json_violations_run, hvocab, zipWith_filterMap]
  apply List.filterMap_congr
  intro r _
  congr 1
  funext p
  exact jsonViolation_severityMapVariant h r p

/-! ## 5. The report -/

/-- **What the JSON comment rule reports.** For every configuration, reader of declarations and
sequence of files: the report holds one violation for each declared record whose comment fails,
in the order read, at the record's location, graded by the problem's kind and giving the key and
the problem (and the help link, when one is configured); and a configuration that differs only
in the `severity_map` entry of one kind gives the same violations, with only the severities of
that kind's violations changed. -/
theorem json_comment_report (c : Config) (declarations : Source) (files : List SourceFile) :
    (files.foldl Rule.processFile (.comments (json c) declarations [])).violations =
        (files.flatMap declarations.collect).filterMap (fun r =>
          ((Comment.Validator.full c.commentVocabulary).validate r).map fun p =>
            { ruleId := "json_comment_rule"
              ruleName := "JSONCommentRule"
              severity :=
                (SeverityPolicy.ofRule (c.rule? "json_comment_rule") .warning).resolve p.identifier
              location := r.location
              reason := "Comment for Localized string \"" ++ r.key ++ "\" " ++ p.reason ++
                match c.commentHelpLink with
                | some link => " For more information, please see: " ++ link
                | none => "" }) ∧
      ∀ c' kind, c.SeverityMapVariant c' "json_comment_rule" kind →
        (files.foldl Rule.processFile (.comments (json c') declarations [])).violations =
          List.zipWith
            (fun v p => if p.identifier = kind then
              { v with
                severity :=
                  (SeverityPolicy.ofRule (c'.rule? "json_comment_rule") .warning).resolve kind }
              else v)
            (files.foldl Rule.processFile (.comments (json c) declarations [])).violations
            ((files.flatMap declarations.collect).filterMap
              (Comment.Validator.full c.commentVocabulary).validate) :=
  ⟨json_violations_run c declarations files,
    fun _ _ h => json_violations_severityMapVariant h declarations files⟩

/-- An empty configuration and one that grades a missing description as an error differ only
in the `severity_map` entry of `missingDescription`; so the second reports what the first does,
with that kind's violations graded anew. -/
theorem json_comment_report_missingDescription :
    (default : Config).SeverityMapVariant
        { rules := [("json_comment_rule",
          ⟨[("severity_map", .table [("missingDescription", .string "error")])]⟩)] }
        "json_comment_rule" "missingDescription" ∧
      (([⟨"en.lproj/Localizable.strings", ""⟩] : List SourceFile).foldl Rule.processFile
          (.comments (json { rules := [("json_comment_rule",
            ⟨[("severity_map", .table [("missingDescription", .string "error")])]⟩)] })
            (JsonRecords.source "declared" "strings") [])).violations =
        List.zipWith
          (fun v p => if p.identifier = "missingDescription" then
            { v with severity := .error } else v)
          (([⟨"en.lproj/Localizable.strings", ""⟩] : List SourceFile).foldl Rule.processFile
            (.comments (json default) (JsonRecords.source "declared" "strings") [])).violations
          ((([⟨"en.lproj/Localizable.strings", ""⟩] : List SourceFile).flatMap
            (JsonRecords.source "declared" "strings").collect).filterMap
              (Comment.Validator.full (default : Config).commentVocabulary).validate) := by
  have hvariant : (default : Config).SeverityMapVariant
      { rules := [("json_comment_rule",
        ⟨[("severity_map", .table [("missingDescription", .string "error")])]⟩)] }
      "json_comment_rule" "missingDescription" := by
    constructor
    · intro key hkey
      have hne : (key == "severity_map") = false := beq_false_of_ne hkey
      dsimp only [Config.option, Config.rule?]
      rw [List.lookup_cons_self, Option.bind_some, List.lookup_cons, hne]
      rfl
    · intro other hother
      have hne : ("missingDescription" == other) = false := beq_false_of_ne (Ne.symm hother)
      dsimp only [Config.severityEntries, Config.rule?]
      rw [List.lookup_cons_self]
      dsimp only [RuleOptions.severityEntries]
      rw [List.lookup_cons_self]
      dsimp only
      rw [List.filter_cons, hne]
      rfl
  refine ⟨hvariant, ?_⟩
  have hreport := (json_comment_report default (JsonRecords.source "declared" "strings")
    [⟨"en.lproj/Localizable.strings", ""⟩]).2 _ _ hvariant
  rw [hreport]
  rfl

end Rule.CommentRule

end L10nLint
