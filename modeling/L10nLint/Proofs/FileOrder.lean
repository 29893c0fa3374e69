import Mathlib.Data.List.Perm.Basic
import L10nLint.Proofs.ReportOrder
import L10nLint.Proofs.ReportTies
import L10nLint.Proofs.UsageReport

/-
# The order of files does not matter

`lint` hands the files to every rule one after the other and sorts what the rules report. The
report is the same for any order of the files, up to how tied violations' files are spelled:

* each rule's report, after a run, is a permutation of its report after the same files in
  another order: a comment rule checks the records it collected one by one, and the usage
  rule filters its collected records by membership in the keys it collected, which no order
  changes (`Rule.violations_foldl_perm`, from `UsageRule.violations_perm`);
* the sort then receives two permutations of one list; violations that tie in the report
  order agree in everything but the spelling of their files (`Linter.ties_agree`), so the
  sorted lists agree once files are read as path components, and outright when tied files are
  spelled alike (`mergeSort_eq_of_perm`).

**Main statement** (`lint_perm`): for every configuration, every collaborators and any two
orders of the same files, the two results are `SameUpToFileOrder`.
-/

namespace L10nLint

open Rule

/-! ## 1. Each rule reports a permutation -/

/-- Handing files to a comment rule appends what it reads of each file, in order. -/
theorem Rule.foldl_processFile_comments (r : CommentRule) (declarations : Source)
    (files : List SourceFile) :
    ∀ declared : List Record,
      files.foldl Rule.processFile (.comments r declarations declared) =
        .comments r declarations (declared ++ files.flatMap declarations.collect) := by
  induction files with
  | nil => intro declared; simp
  | cons f fs ih =>
    intro declared
    rw [List.foldl_cons, Rule.processFile, ih]
    simp

/-- Usage buffers that hold the same records, each buffer in its own order. -/
structure Rule.UsageRule.Buffers.Perm (b₁ b₂ : UsageRule.Buffers) : Prop where
  declared : b₁.declared.Perm b₂.declared
  used : b₁.used.Perm b₂.used
  ignoredKeys : b₁.ignoredKeys.Perm b₂.ignoredKeys
  findings : b₁.findings.Perm b₂.findings

section UsagePerm

variable {r : UsageRule} {b₁ b₂ : UsageRule.Buffers}

theorem Rule.UsageRule.live_perm (h : b₁.Perm b₂) : (r.live b₁).Perm (r.live b₂) := by
  unfold UsageRule.live UsageRule.Buffers.ignoreFileKeys
  exact (((h.used.map _).append_right _).append_right _).append (h.ignoredKeys.map _)

theorem Rule.UsageRule.watched_perm (h : b₁.Perm b₂) :
    (r.watched b₁).Perm (r.watched b₂) := by
  unfold UsageRule.watched UsageRule.Buffers.ignoreFileKeys
  exact (h.ignoredKeys.map _).append_left _

/-- **The usage rule's report does not depend on the order of its buffers**, up to order:
its filters ask only whether a key is among the collected ones. -/
theorem Rule.UsageRule.violations_perm (h : b₁.Perm b₂) :
    (r.violations b₁).Perm (r.violations b₂) := by
  have hlive : ∀ k, (r.live b₁).contains k = (r.live b₂).contains k :=
    fun _ => (UsageRule.live_perm h).contains_eq
  have hwatched : ∀ k, (r.watched b₁).contains k = (r.watched b₂).contains k :=
    fun _ => (UsageRule.watched_perm h).contains_eq
  unfold UsageRule.violations UsageRule.unused UsageRule.inProgressUsed
  simp only [hlive, hwatched]
  exact (((h.declared.filter _).filterMap _).append ((h.used.filter _).map _)).append
    (h.findings.map _)

end UsagePerm

/-- **Every rule reports a permutation after the same files in another order.** -/
theorem Rule.violations_foldl_perm (R : Rule) {files files' : List SourceFile}
    (h : files.Perm files') :
    (files.foldl Rule.processFile R).violations.Perm
      (files'.foldl Rule.processFile R).violations := by
  cases R with
  | comments r declarations declared =>
    rw [Rule.foldl_processFile_comments, Rule.foldl_processFile_comments]
    exact ((h.flatMap_right _).append_left declared).filterMap _
  | usage r declarations usages ignoreFiles b =>
    rw [UsageRule.foldl_processFile_usage, UsageRule.foldl_processFile_usage,
      UsageRule.foldl_read, UsageRule.foldl_read]
    exact UsageRule.violations_perm
      ⟨((h.flatMap_right _).map _).append_left _, ((h.flatMap_right _).map _).append_left _,
        (h.flatMap_right _).append_left _, (h.flatMap_right _).append_left _⟩

/-! ## 2. The sorted report -/

/-- The violations a run of the linter sorts: each enabled rule's report after the files. -/
def Linter.reports (config : Config) (c : Collaborators) (files : List SourceFile) :
    List Violation :=
  (Linter.ofConfig config c).rules.flatMap fun R => (files.foldl Rule.processFile R).violations

theorem lint_eq (files : List SourceFile) (config : Config) (c : Collaborators) :
    lint files config c =
      { violations := Violation.sort (Linter.reports config c files),
        filesChecked := (Linter.ofConfig config c).filesChecked + files.length } := by
  rw [lint, Linter.foldl_process, Linter.result, Linter.reports, List.flatMap_map]

theorem Linter.tiesAgree_reports (config : Config) (c : Collaborators)
    (files : List SourceFile) : TiesAgree (Linter.reports config c files) := by
  have h := Linter.ties_agree config c files
  rwa [Linter.foldl_process, List.flatMap_map] at h

theorem Linter.reports_perm (config : Config) (c : Collaborators) {files files' : List SourceFile}
    (h : files.Perm files') :
    (Linter.reports config c files').Perm (Linter.reports config c files) :=
  List.Perm.flatMap_left _ fun R _ => (Rule.violations_foldl_perm R h).symm

/-- Tied violations whose ties agree have one view by path components. -/
theorem Violation.byPath_eq_of_compare {v w : Violation}
    (hties : v.ruleId = w.ruleId → v.reason = w.reason →
      v.ruleName = w.ruleName ∧ v.severity = w.severity)
    (h : v.byPath.compare w.byPath = .eq) : v.byPath = w.byPath := by
  obtain ⟨hc, hl, hcol, hid, hr⟩ := Violation.ByPath.compare_eq_eq_iff.mp h
  obtain ⟨hn, hs⟩ := hties hid hr
  simp only [Violation.byPath, Violation.ByPath.mk.injEq] at hc hl hcol hid hr ⊢
  exact ⟨hc, hl, hcol, hid, hn, hs, hr⟩

/-- Tied violations whose ties agree and whose files are spelled alike are equal. -/
theorem Violation.eq_of_compare {v w : Violation}
    (hties : v.ruleId = w.ruleId → v.reason = w.reason →
      v.ruleName = w.ruleName ∧ v.severity = w.severity)
    (hfile : Path.compare v.location.file w.location.file = .eq →
      v.location.file = w.location.file)
    (h : v.compare w = .eq) : v = w := by
  rw [Violation.compare_eq_byPath] at h
  have hview := Violation.byPath_eq_of_compare hties h
  have hpath : Path.compare v.location.file w.location.file = .eq :=
    Path.compare_eq_eq_iff.mpr (congrArg Violation.ByPath.components hview)
  obtain ⟨ruleId, ruleName, severity, ⟨file, line, column⟩, reason⟩ := v
  obtain ⟨ruleId', ruleName', severity', ⟨file', line', column'⟩, reason'⟩ := w
  simp only [Violation.byPath, Violation.ByPath.mk.injEq] at hview hfile hpath
  obtain ⟨-, rfl, rfl, rfl, rfl, rfl, rfl⟩ := hview
  cases hfile hpath
  rfl

/-- Two lint results agree as the reports of one set of files in two orders: they read as
many files and report the same violations, in the same order once each file is read as its
path components, and in the same order outright unless two reported files compare equal as
paths but are spelled differently. -/
structure SameUpToFileOrder (r r' : LintResult) : Prop where
  filesChecked : r'.filesChecked = r.filesChecked
  perm : r'.violations.Perm r.violations
  byPath : r'.violations.map Violation.byPath = r.violations.map Violation.byPath
  eq_of_spelling : (∀ v ∈ r.violations, ∀ w ∈ r.violations,
      Path.compare v.location.file w.location.file = .eq →
        v.location.file = w.location.file) →
    r'.violations = r.violations

/-- **The order of files does not matter.** For every configuration and collaborators, linting
the same files in another order gives the same result, up to the spelling of tied files. -/
theorem lint_perm (config : Config) (c : Collaborators) {files files' : List SourceFile}
    (h : files.Perm files') :
    SameUpToFileOrder (lint files config c) (lint files' config c) := by
  rw [lint_eq, lint_eq]
  have hp := Linter.reports_perm config c h
  have hties := Linter.tiesAgree_reports config c files'
  refine ⟨by simp [h.length_eq], ?_, ?_, ?_⟩
  · exact (Violation.sort_perm _).trans (hp.trans (Violation.sort_perm _).symm)
  · -- by path components, tied views are equal views
    rw [Violation.map_byPath_sort, Violation.map_byPath_sort]
    refine mergeSort_eq_of_perm (hp.map _) ?_
    intro x hx y hy hxy
    obtain ⟨v, hv, rfl⟩ := List.mem_map.mp hx
    obtain ⟨w, hw, rfl⟩ := List.mem_map.mp hy
    exact Violation.byPath_eq_of_compare (hties v hv w hw) hxy
  · -- when tied files are spelled alike, tied violations are equal
    intro hspell
    refine Violation.sort_eq_of_perm hp fun v hv w hw hvw => ?_
    refine Violation.eq_of_compare (hties v hv w hw) ?_ hvw
    exact hspell v ((Violation.sort_perm _).symm.subset (hp.subset hv))
      w ((Violation.sort_perm _).symm.subset (hp.subset hw))

/-- Two spellings of one path, linted in both orders with a reader that declares each file's
path as a string without a comment. -/
theorem lint_perm_spellings :
    ([⟨"a/b.strings", ""⟩, ⟨"a//b.strings", ""⟩] : List SourceFile).Perm
        [⟨"a//b.strings", ""⟩, ⟨"a/b.strings", ""⟩] ∧
      SameUpToFileOrder
        (lint [⟨"a/b.strings", ""⟩, ⟨"a//b.strings", ""⟩] {}
          ⟨[⟨fun _ => true, fun f => .ok [{ key := f.path, location := { file := f.path } }]⟩],
            [], none⟩)
        (lint [⟨"a//b.strings", ""⟩, ⟨"a/b.strings", ""⟩] {}
          ⟨[⟨fun _ => true, fun f => .ok [{ key := f.path, location := { file := f.path } }]⟩],
            [], none⟩) :=
  ⟨List.Perm.swap _ _ _, lint_perm _ _ (List.Perm.swap _ _ _)⟩

end L10nLint
