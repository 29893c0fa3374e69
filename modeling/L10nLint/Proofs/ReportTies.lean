import Mathlib.Data.List.Nodup
import L10nLint.Linter

/-
# Tied reports are one report

Two violations tie in the report order when they agree in location, rule identifier and
reason. A linter never reports two tied violations that differ in anything else: a rule's
identifier fixes its name, and within a rule the reason fixes the kind of problem, by which
the rule's settings grade it. So the stable sort can only swap violations that are equal,
apart from how their files are spelled.

Why a reason fixes its kind:

* a help link, if any, is the same suffix of every reason of a rule (`withHelpLink_inj`);
* every comment problem's sentence ends in a text of its own kind (`Problem.ending`), and
  no two kinds' endings are suffixes of one another; two reasons that are equal end in both
  problems' fragments, so their kinds agree (`Problem.identifier_eq_of_commentReason`);
* the usage rule's three kinds of reports end differently too
  (`UsageReason.kind_eq`).

**Main statement** (`Linter.ties_agree`): in the violations of any linter built from a
configuration, after any files, two violations with one rule identifier and one reason have
one rule name and one severity.
-/

namespace L10nLint

open Rule

/-! ## 1. Reasons name their kind -/

/-- The help link is one suffix of all of a rule's reasons. -/
theorem Rule.withHelpLink_inj {s₁ s₂ : String} {link : Option String}
    (h : withHelpLink s₁ link = withHelpLink s₂ link) : s₁ = s₂ := by
  cases link with
  | none => exact h
  | some l =>
    apply String.toList_injective
    have hl := congrArg String.toList h
    simp only [withHelpLink, String.toList_append] at hl
    simpa using hl

theorem suffix_toList_append (a b : String) : b.toList <:+ (a ++ b).toList := by
  rw [String.toList_append]
  exact List.suffix_append _ _

namespace Comment.Problem

/-- The fixed end of a problem's fragment: the whole fragment, or the words after its
details. -/
def ending : Problem → String
  | .invalidJson => "is not valid JSON"
  | .invalidKey _ => " is not allowed in this structured comment"
  | .missingDescription => "is missing the `description`"
  | .emptyDescription => "has an empty `description`"
  | .invalidPlaceholders _ => "\""
  | .placeholderCountMismatch => "number of placeholders don't match"
  | .missingScreenshot => "screenshot URL for this localized string is missing"
  | .invalidScreenshot => "screenshot URL for this localized string is invalid"
  | .tooLong => "the string is longer than the max character count allowed"

theorem ending_suffix (p : Problem) : p.ending.toList <:+ p.reason.toList := by
  cases p with
  | invalidKey k => exact suffix_toList_append ("the key " ++ k) _
  | invalidPlaceholders names =>
    exact suffix_toList_append ("contains invalid placeholders: \"" ++ joinQuoted names) _
  | _ => exact List.suffix_refl _

/-- Endings of different kinds are not suffixes of one another. -/
theorem identifier_eq_of_ending {p q : Problem}
    (h : p.ending.toList <:+ q.ending.toList ∨ q.ending.toList <:+ p.ending.toList) :
    p.identifier = q.identifier := by
  cases p <;> cases q <;>
    first
    | rfl
    | (revert h; simp only [ending, identifier, String.reduceToList, String.reduceEq]; decide)

/-- **A comment reason names its problem's kind.** Two equal reasons of one rule end in both
problems' fragments, so one fragment is a suffix of the other, and so are their endings. -/
theorem identifier_eq_of_commentReason {k₁ k₂ : String} {p₁ p₂ : Problem}
    {link : Option String}
    (h : commentReason k₁ p₁.reason link = commentReason k₂ p₂.reason link) :
    p₁.identifier = p₂.identifier := by
  have hs := withHelpLink_inj h
  have h₁ := suffix_toList_append ("Comment for Localized string \"" ++ k₁ ++ "\" ") p₁.reason
  have h₂ := suffix_toList_append ("Comment for Localized string \"" ++ k₂ ++ "\" ") p₂.reason
  rw [← hs] at h₂
  apply identifier_eq_of_ending
  rcases List.suffix_or_suffix_of_suffix h₁ h₂ with h₁₂ | h₂₁
  · exact List.suffix_or_suffix_of_suffix ((ending_suffix p₁).trans h₁₂) (ending_suffix p₂)
  · exact List.suffix_or_suffix_of_suffix (ending_suffix p₁) ((ending_suffix p₂).trans h₂₁)

end Comment.Problem

/-- The kinds of the usage rule's reports, each with its reason. -/
def Rule.UsageReason (kind reason : String) : Prop :=
  (∃ p : UsageProblem, kind = p.identifier ∧ reason = p.reason) ∨
    ∃ f : IgnoreFinding, kind = f.identifier ∧ reason = f.reason

namespace Rule.UsageProblem

/-- An unused string's reason ends in the advice to add an ignore file. -/
theorem unused_reason_ending (key : String) :
    "configuration or create an ignore file.".toList <:+ (unused key).reason.toList :=
  suffix_toList_append _ _

/-- Only an unused string's reason ends in the advice. -/
theorem unused_reason_ne_inProgressUsed (key : String) :
    (unused key).reason ≠ inProgressUsed.reason := by
  intro hs
  have he := unused_reason_ending key
  rw [hs] at he
  revert he
  unfold UsageProblem.reason
  simp only [String.reduceToList]
  decide

theorem unused_reason_ne_finding (key : String) (f : IgnoreFinding) :
    (unused key).reason ≠ f.reason := by
  intro hs
  have he := unused_reason_ending key
  cases f
  rw [hs] at he
  revert he
  simp only [IgnoreFinding.reason, String.reduceToList]
  decide

/-- The two fixed reasons differ. -/
theorem inProgressUsed_reason_ne_finding (f : IgnoreFinding) :
    inProgressUsed.reason ≠ f.reason := by
  cases f
  unfold UsageProblem.reason IgnoreFinding.reason
  simp only [ne_eq, String.reduceEq, not_false_eq_true]

end Rule.UsageProblem

/-- **A usage reason names its kind.** -/
theorem Rule.UsageReason.kind_eq {k₁ k₂ s : String} (h₁ : UsageReason k₁ s)
    (h₂ : UsageReason k₂ s) : k₁ = k₂ := by
  rcases h₁ with ⟨p₁, rfl, rfl⟩ | ⟨f₁, rfl, rfl⟩ <;>
    rcases h₂ with ⟨p₂, rfl, hs⟩ | ⟨f₂, rfl, hs⟩
  · -- two problems
    cases p₁ <;> cases p₂
    · rfl
    · exact absurd hs (UsageProblem.unused_reason_ne_inProgressUsed _)
    · exact absurd hs.symm (UsageProblem.unused_reason_ne_inProgressUsed _)
    · rfl
  · -- a problem and an ignore file's finding
    cases p₁
    · exact absurd hs (UsageProblem.unused_reason_ne_finding _ f₂)
    · exact absurd hs (UsageProblem.inProgressUsed_reason_ne_finding f₂)
  · cases p₂
    · exact absurd hs.symm (UsageProblem.unused_reason_ne_finding _ f₁)
    · exact absurd hs.symm (UsageProblem.inProgressUsed_reason_ne_finding f₁)
  · -- two findings, of the one kind an ignore file reports
    cases f₁
    cases f₂
    rfl

/-! ## 2. Each rule grades a reason one way -/

/-- Violations that agree in rule identifier and reason agree in rule name and severity. -/
def TiesAgree (vs : List Violation) : Prop :=
  ∀ v ∈ vs, ∀ w ∈ vs, v.ruleId = w.ruleId → v.reason = w.reason →
    v.ruleName = w.ruleName ∧ v.severity = w.severity

/-- A comment rule reports a record's problem under its own name, graded by the problem's
kind. -/
theorem Rule.CommentRule.mem_violations {r : CommentRule} {declared : List Record}
    {v : Violation} (h : v ∈ r.violations declared) :
    ∃ (record : Record) (p : Comment.Problem),
      v = { ruleId := r.identifier, ruleName := r.name,
            severity := r.severities.resolve p.identifier, location := record.location,
            reason := commentReason record.key p.reason r.helpLink } := by
  obtain ⟨record, -, hcheck⟩ := List.mem_filterMap.mp h
  obtain ⟨p, -, hp⟩ := Option.map_eq_some_iff.mp hcheck
  exact ⟨record, p, hp.symm⟩

theorem Rule.CommentRule.tiesAgree (r : CommentRule) (declared : List Record) :
    TiesAgree (r.violations declared) := by
  intro v hv w hw _ hreason
  obtain ⟨a, p, rfl⟩ := CommentRule.mem_violations hv
  obtain ⟨b, q, rfl⟩ := CommentRule.mem_violations hw
  have hid : p.identifier = q.identifier := Comment.Problem.identifier_eq_of_commentReason hreason
  exact ⟨rfl, by simp only [hid]⟩

/-- The usage rule reports each of its kinds with that kind's reason. -/
theorem Rule.UsageRule.mem_violations {r : UsageRule} {b : UsageRule.Buffers} {v : Violation}
    (h : v ∈ r.violations b) :
    ∃ kind reason location, UsageReason kind reason ∧ v = r.violation kind reason location := by
  simp only [UsageRule.violations, List.mem_append, List.mem_map] at h
  rcases h with (hu | hw) | ⟨f, -, rfl⟩
  · -- an unused declaration, reported under the key it was declared with
    obtain ⟨d, -, hd⟩ := List.mem_filterMap.mp hu
    obtain ⟨key, -, hkey⟩ := Option.bind_eq_some_iff.mp hd
    split at hkey
    · cases hkey
    · exact ⟨_, _, _, .inl ⟨.unused key, rfl, rfl⟩, (Option.some.inj hkey).symm⟩
  · obtain ⟨u, -, rfl⟩ := List.mem_map.mp hw
    exact ⟨_, _, _, .inl ⟨.inProgressUsed, rfl, rfl⟩, rfl⟩
  · exact ⟨_, _, _, .inr ⟨f, rfl, rfl⟩, rfl⟩

theorem Rule.UsageRule.tiesAgree (r : UsageRule) (b : UsageRule.Buffers) :
    TiesAgree (r.violations b) := by
  intro v hv w hw _ hreason
  obtain ⟨k₁, s₁, l₁, hk₁, rfl⟩ := UsageRule.mem_violations hv
  obtain ⟨k₂, s₂, l₂, hk₂, rfl⟩ := UsageRule.mem_violations hw
  have hs : s₁ = s₂ := withHelpLink_inj hreason
  subst hs
  have hk : k₁ = k₂ := hk₁.kind_eq hk₂
  subst hk
  exact ⟨rfl, rfl⟩

theorem Rule.tiesAgree (R : Rule) : TiesAgree R.violations := by
  cases R with
  | comments r _ declared => exact CommentRule.tiesAgree r declared
  | usage r _ _ _ b => exact UsageRule.tiesAgree r b

/-- A rule reports under its own identifier. -/
theorem Rule.ruleId_of_mem_violations {R : Rule} {v : Violation} (h : v ∈ R.violations) :
    v.ruleId = R.identifier := by
  cases R with
  | comments r _ declared =>
    obtain ⟨record, p, rfl⟩ := CommentRule.mem_violations h
    rfl
  | usage r _ _ _ b =>
    obtain ⟨kind, reason, location, -, rfl⟩ := UsageRule.mem_violations h
    rfl

/-! ## 3. A linter's rules -/

/-- Rules with distinct identifiers: violations that tie come from one rule, which grades
them alike. -/
theorem tiesAgree_flatMap {rs : List Rule} (hnd : (rs.map Rule.identifier).Nodup) :
    TiesAgree (rs.flatMap Rule.violations) := by
  intro v hv w hw hid hreason
  obtain ⟨R, hR, hvR⟩ := List.mem_flatMap.mp hv
  obtain ⟨R', hR', hwR'⟩ := List.mem_flatMap.mp hw
  have hRR' : R = R' := by
    apply List.inj_on_of_nodup_map hnd hR hR'
    rw [← Rule.ruleId_of_mem_violations hvR, ← Rule.ruleId_of_mem_violations hwR', hid]
  subst hRR'
  exact Rule.tiesAgree R v hvR w hwR' hid hreason

theorem Rule.identifier_processFile (R : Rule) (f : SourceFile) :
    (R.processFile f).identifier = R.identifier := by
  cases R <;> rfl

/-- **Run lemma of the linter**: after a run, each rule has read every file in order, and the
count has gone up by the number of files. -/
theorem Linter.foldl_process (files : List SourceFile) :
    ∀ l : Linter, files.foldl Linter.process l =
      { rules := l.rules.map (fun R => files.foldl Rule.processFile R),
        filesChecked := l.filesChecked + files.length } := by
  induction files with
  | nil => intro l; simp
  | cons f fs ih =>
    intro l
    rw [List.foldl_cons, ih]
    simp [Nat.add_assoc, Nat.add_comm 1]

theorem Rule.identifier_foldl_processFile (files : List SourceFile) (R : Rule) :
    (files.foldl Rule.processFile R).identifier = R.identifier := by
  induction files generalizing R with
  | nil => rfl
  | cons f fs ih => rw [List.foldl_cons, ih, Rule.identifier_processFile]

/-- A preset's rules have distinct identifiers. -/
theorem Preset.identifiers_nodup (p : Preset) (config : Config) (c : Collaborators) :
    ((p.rules config c).map Rule.identifier).Nodup := by
  cases p <;>
    simp [Preset.rules, Rule.identifier, CommentRule.json, CommentRule.legacy,
      Collaborators.usageRule, UsageRule.identifier]

/-- **Ties agree in every linter report.** For any configuration, collaborators and files,
two violations of the linter with one rule identifier and one reason have one rule name and
one severity. -/
theorem Linter.ties_agree (config : Config) (c : Collaborators) (files : List SourceFile) :
    TiesAgree ((files.foldl Linter.process (Linter.ofConfig config c)).rules.flatMap
      Rule.violations) := by
  apply tiesAgree_flatMap
  -- processing keeps each rule's identifier; the enabled rules are some of the preset's
  rw [Linter.foldl_process, List.map_map]
  have hids : (Rule.identifier ∘ fun R => files.foldl Rule.processFile R) = Rule.identifier :=
    funext (Rule.identifier_foldl_processFile files)
  rw [hids]
  exact (Preset.identifiers_nodup _ config c).sublist ((List.filter_sublist).map _)

end L10nLint
