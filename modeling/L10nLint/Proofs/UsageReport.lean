import L10nLint.Rule

/-
# What the usage rule reports after a run

The usage rule never looks at a file twice: `Rule.processFile` appends what the readers return
for the file to the rule's four buffers, and `violations` reads the buffers. So the report
after any sequence of files is a function of the readers' outputs file by file, and this module
states that function in terms of the records themselves, without the rule's bookkeeping:

* the buffers after a run are the readers' outputs, concatenated in file order
  (`foldl_read`, from the one-step lemmas `Buffers.read_*`);
* a declared record is kept with its accessor as key and its key as declared as comment; the
  unused check reads the match key of the first and names the second, so on the records as
  returned it is a filter by `Key.declaredMatchKey` and a non-empty key (`unused_map`);
* a key is live when it is a used key lower-cased, or the match key of an ignored key, a key in
  progress or an ignore file's key (`mem_live`).

**Main statement** (`usage_violations_run`): for any `ignored` keys `I`, keys in progress `W`,
severities, help link, readers and files, the rule reports exactly the unused declarations,
the usages of watched keys and the ignore files' findings, in that order.
-/

namespace L10nLint.Rule.UsageRule

open L10nLint

/-! ## 1. The buffers after a run -/

section Run

variable (declarations usages : Source) (ignoreFiles : Option IgnoreSource)

/-- **Run lemma for the buffers.** Reading files one by one appends, to each buffer, the
outputs of its reader for every file in order. -/
theorem foldl_read (files : List SourceFile) :
    ∀ b : Buffers, files.foldl (Buffers.read declarations usages ignoreFiles) b =
      { declared := b.declared ++ (files.flatMap declarations.collect).map declaredRecord
        used := b.used ++ (files.flatMap usages.collect).map usedRecord
        ignoredKeys := b.ignoredKeys ++ files.flatMap fun f => (ignoreContents ignoreFiles f).keys
        findings := b.findings ++
          files.flatMap fun f => (ignoreContents ignoreFiles f).findings } := by
  induction files with
  | nil => intro b; simp
  | cons f fs ih =>
    intro b
    rw [List.foldl_cons, ih]
    simp [List.append_assoc]

end Run

/-- Handing files to the usage rule runs its buffers and leaves its settings and readers. -/
theorem foldl_processFile_usage (r : UsageRule) (declarations usages : Source)
    (ignoreFiles : Option IgnoreSource) (files : List SourceFile) :
    ∀ b : Buffers, files.foldl Rule.processFile (.usage r declarations usages ignoreFiles b) =
      .usage r declarations usages ignoreFiles
        (files.foldl (Buffers.read declarations usages ignoreFiles) b) := by
  induction files with
  | nil => intro b; rfl
  | cons f fs ih =>
    intro b
    exact ih _

/-! ## 2. Live keys -/

/-- **Live keys.** A match key is live exactly when it is a used key, or an ignored key, a key
in progress or the match key of an ignore file's key. -/
theorem mem_live (r : UsageRule) (b : Buffers) (k : String) :
    k ∈ r.live b ↔
      k ∈ b.used.map (·.key) ∨ k ∈ r.ignored ∨ k ∈ r.inProgress ∨
        k ∈ b.ignoredKeys.map (Key.declaredMatchKey ·.key) := by
  simp [live, Buffers.ignoreFileKeys]

/-- A match key is watched exactly when it is a key in progress or an ignore file's. -/
theorem mem_watched (r : UsageRule) (b : Buffers) (k : String) :
    k ∈ r.watched b ↔
      k ∈ r.inProgress ∨ k ∈ b.ignoredKeys.map (Key.declaredMatchKey ·.key) := by
  simp [watched, Buffers.ignoreFileKeys]

/-! ## 3. The unused check on the records as read -/

@[simp] theorem matchKey_declaredRecord (r : Record) :
    Key.matchKey (declaredRecord r).key = Key.declaredMatchKey r.key := rfl

@[simp] theorem location_declaredRecord (r : Record) :
    (declaredRecord r).location = r.location := rfl

@[simp] theorem key_usedRecord (r : Record) : (usedRecord r).key = Text.toLower r.key := rfl

@[simp] theorem location_usedRecord (r : Record) : (usedRecord r).location = r.location := rfl

/-- The unused check reads a declared record's comment only for the key it holds: a record
whose key is empty gives nothing, any other gives the report that names its key. -/
theorem unusedReport_declaredRecord (r : UsageRule) (d : Record) :
    ((declaredRecord d).comment.bind fun key =>
        if key.isEmpty then none
        else
          let p := UsageProblem.unused key
          some (r.violation p.identifier p.reason (declaredRecord d).location)) =
      if d.key.isEmpty then none
      else some (r.violation "unusedString" (UsageProblem.unused d.key).reason d.location) := by
  simp [declaredRecord, UsageProblem.identifier]

/-- **The unused check on the records as read.** Over buffers whose declarations are kept
records, the unused report is the filter of the records by a non-empty key and a match key
that is not live. -/
theorem unused_map (r : UsageRule) (b : Buffers) (records : List Record)
    (h : b.declared = records.map declaredRecord) :
    r.unused b =
      (records.filter fun d =>
          !d.key.isEmpty && !(r.live b).contains (Key.declaredMatchKey d.key)).map
        fun d => r.violation "unusedString" (UsageProblem.unused d.key).reason d.location := by
  -- both sides as one `filterMap` over the records, compared record by record
  rw [unused, h, List.filterMap_filter, List.filterMap_map, ← List.filterMap_eq_map,
    List.filterMap_filter]
  congr 1
  funext d
  simp only [Function.comp_apply, matchKey_declaredRecord]
  rw [unusedReport_declaredRecord]
  by_cases he : d.key.isEmpty = true <;> simp [he]

/-- The usages reported are the used records whose key, lower-cased, is watched. -/
theorem inProgressUsed_map (r : UsageRule) (b : Buffers) (records : List Record)
    (h : b.used = records.map usedRecord) :
    r.inProgressUsed b =
      (records.filter fun u => (r.watched b).contains (Text.toLower u.key)).map
        fun u => r.violation "workInProgressReferenced" UsageProblem.inProgressUsed.reason
          u.location := by
  rw [inProgressUsed, h, List.filter_map, List.map_map]
  rfl

/-! ## 4. The report after a run -/

/-- **What the usage rule reports.** Build the rule with `ignored` keys `I` and keys in
progress `W` (both read as declared keys), any severities and help link, and hand it any
files. Then it reports exactly, in this order:

* every declared record whose key is not empty and whose match key is not live, where a key is
  live when it is a used key lower-cased or the match key of a key of `I`, of `W` or of an
  ignore file (`unusedString`, at the declaration, naming its key);
* every used record whose key, lower-cased, is the match key of a key of `W` or of an ignore
  file (`workInProgressReferenced`, at the usage);
* every finding of every ignore file read (at the finding's location). -/
theorem usage_violations_run (I W : List String) (severities : SeverityPolicy)
    (helpLink : Option String) (declarations usages : Source)
    (ignoreFiles : Option IgnoreSource) (files : List SourceFile) :
    let rule : UsageRule :=
      { ignored := I.map Key.declaredMatchKey, inProgress := W.map Key.declaredMatchKey,
        severities, helpLink }
    let declared := files.flatMap declarations.collect
    let used := files.flatMap usages.collect
    let fileKeys := (files.flatMap fun f => (ignoreContents ignoreFiles f).keys).map (·.key)
    let live := used.map (Text.toLower ·.key) ++ (I ++ W ++ fileKeys).map Key.declaredMatchKey
    (files.foldl Rule.processFile (.usage rule declarations usages ignoreFiles {})).violations =
      (declared.filter fun d => d.key ≠ "" ∧ Key.declaredMatchKey d.key ∉ live).map
          (fun d => rule.violation "unusedString" (UsageProblem.unused d.key).reason d.location) ++
        (used.filter fun u => Text.toLower u.key ∈ (W ++ fileKeys).map Key.declaredMatchKey).map
          (fun u => rule.violation "workInProgressReferenced" UsageProblem.inProgressUsed.reason
            u.location) ++
        (files.flatMap fun f => (ignoreContents ignoreFiles f).findings).map
          (fun f => rule.violation f.identifier f.reason f.location) := by
  intro rule declared used fileKeys live
  rw [foldl_processFile_usage, foldl_read]
  simp only [Rule.violations, violations]
  rw [unused_map _ _ declared (by simp [declared]), inProgressUsed_map _ _ used (by simp [used])]
  congr 2
  · -- the unused filter: the live keys of the run's buffers are `live`
    congr 1
    apply List.filter_congr
    intro d _
    rw [Bool.eq_iff_iff]
    simp [mem_live, live, fileKeys, rule, used]
  · -- the watched filter: the watched keys of the run's buffers are those of `W` and files
    congr 1
    apply List.filter_congr
    intro u _
    rw [Bool.eq_iff_iff]
    simp [mem_watched, fileKeys, rule]

end L10nLint.Rule.UsageRule
