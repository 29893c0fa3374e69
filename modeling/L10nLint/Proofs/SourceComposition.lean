import L10nLint.JsonRecords

/-
# Composed sources

A rule reads its records through one source that composes several readers (`Source.compose`).
To read a file, the composition asks every member that supports it, in order:

* the records a rule takes from the file are the records each member gives, joined in the
  members' order (`collect_compose`): a member that fails, or does not support the file, gives
  none and never hides the records of the others;
* the composition supports a file when a member does (`supports_compose`);
* a file that no member supports is an `unsupported` failure (`parse_compose_of_unsupported`);
  otherwise the composition succeeds with the members' records as soon as one supporting member
  succeeds (`parse_compose_of_success`), and fails exactly as its first supporting member does
  when all of them fail (`parse_compose_of_failures`).

A member's failure is passed on unchanged. So a file that no member supports is not the only
one the composition reports `unsupported`: a member that supports a file and yet reports it
unsupported (it disowns the file, `Source.Disowns`) makes the composition do the same when all
supporting members fail (`parse_compose_eq_unsupported_iff`,
`parse_compose_unsupported_with_supporting_member`). Readers that fail only when they cannot
decode the content disown nothing, as the fixture readers show
(`JsonRecords.source_not_disowns`), and a composition of such readers disowns nothing either
(`compose_not_disowns`); for them `unsupported` means that no member supports the file
(`JsonRecords.compose_unsupported_iff`).

Composition is associative in the strongest sense: a composition of compositions is the
composition of all their members, as one source (`compose_map_compose`).

**Main statement** (`compose_reads_supporting_members`): the facts above, for every list of
members and every file.
-/

namespace L10nLint.Source

variable {sources : List Source} {file : SourceFile}

/-! ## 1. The results of the supporting members -/

/-- The supporting members' records, joined, are the records each member gives. -/
theorem successes_supporting (sources : List Source) (file : SourceFile) :
    successes ((sources.filter (·.supports file)).map (·.parse file)) =
      sources.flatMap (·.collect file) := by
  induction sources with
  | nil => rfl
  | cons s rest ih =>
    by_cases hs : s.supports file = true
    · have hcollect : s.collect file = successes [s.parse file] := by
        cases hp : s.parse file with
        | error e => simp [collect, hs, hp, successes]
        | ok rs => simp [collect, hs, hp, successes]
      have hkeep : (s :: rest).filter (·.supports file) = s :: rest.filter (·.supports file) :=
        List.filter_cons_of_pos hs
      rw [hkeep, List.map_cons, List.flatMap_cons, hcollect, ← ih]
      cases s.parse file <;> simp [successes]
    · have hs' : s.supports file = false := by simpa using hs
      have hdrop : (s :: rest).filter (·.supports file) = rest.filter (·.supports file) :=
        List.filter_cons_of_neg hs
      rw [hdrop, List.flatMap_cons, collect_of_supports_false hs', ih, List.nil_append]

theorem supporting_eq_nil_iff :
    (sources.filter (·.supports file)).map (·.parse file) = [] ↔
      ∀ s ∈ sources, s.supports file = false := by
  simp [List.filter_eq_nil_iff]

theorem any_succeeded_supporting :
    ((sources.filter (·.supports file)).map (·.parse file)).any succeeded = true ↔
      ∃ s ∈ sources, s.supports file = true ∧ succeeded (s.parse file) = true := by
  simp [List.any_eq_true]

/-- A file that no member supports is unsupported by each. -/
theorem unsupported_of_not_exists (h : ¬ ∃ s ∈ sources, s.supports file = true) :
    ∀ s ∈ sources, s.supports file = false := by
  simp only [not_exists, not_and] at h
  exact fun s hs => by simpa using h s hs

/-- A file that no supporting member reads is failed by each supporting member. -/
theorem failures_of_not_exists
    (h : ¬ ∃ s ∈ sources, s.supports file = true ∧ succeeded (s.parse file) = true) :
    ∀ s ∈ sources, s.supports file = true → succeeded (s.parse file) = false := by
  simp only [not_exists, not_and] at h
  exact fun s hs hss => by simpa using h s hs hss

/-- A file that some member supports has a first supporting member. -/
theorem exists_first_supporting (h : ∃ s ∈ sources, s.supports file = true) :
    ∃ first, sources.find? (·.supports file) = some first := by
  obtain ⟨s, hs, hss⟩ := h
  exact Option.isSome_iff_exists.mp (List.find?_isSome.mpr ⟨s, hs, hss⟩)

theorem first_supporting_spec {first : Source} (h : sources.find? (·.supports file) = some first) :
    first ∈ sources ∧ first.supports file = true := by
  have hsup := List.find?_some h
  exact ⟨List.mem_of_find?_eq_some h, hsup⟩

/-! ## 2. Reading a file with a composition -/

/-- A file that no member supports is an `unsupported` failure. -/
theorem parse_compose_of_unsupported (h : ∀ s ∈ sources, s.supports file = false) :
    (compose sources).parse file = .error (.unsupported file.path) := by
  have hnil := supporting_eq_nil_iff.mpr h
  simp only [compose, composedParse, hnil, List.isEmpty_nil, if_true]

/-- **One supporting member that succeeds is enough**: the composition then gives the records
of every member that supports the file and succeeds, in order. -/
theorem parse_compose_of_success
    (h : ∃ s ∈ sources, s.supports file = true ∧ succeeded (s.parse file) = true) :
    (compose sources).parse file = .ok (sources.flatMap (·.collect file)) := by
  obtain ⟨s, hs, hsup, _⟩ := h
  have hne : (sources.filter (·.supports file)).map (·.parse file) ≠ [] := by
    rw [Ne, supporting_eq_nil_iff]
    intro hall
    simp [hall s hs] at hsup
  have hany := any_succeeded_supporting.mpr ⟨s, hs, hsup, ‹_›⟩
  simp only [compose, composedParse, List.isEmpty_eq_false_iff.mpr hne, Bool.false_eq_true,
    if_false, hany, if_true, successes_supporting]

/-- **When every supporting member fails, the composition fails as the first one does.** -/
theorem parse_compose_of_failures {first : Source}
    (hfail : ∀ s ∈ sources, s.supports file = true → succeeded (s.parse file) = false)
    (hfirst : sources.find? (·.supports file) = some first) :
    (compose sources).parse file = first.parse file := by
  -- the supporting members are `first` followed by the others
  obtain ⟨rest, hsplit⟩ : ∃ rest, sources.filter (·.supports file) = first :: rest := by
    rw [← List.head?_filter] at hfirst
    cases hf : sources.filter (·.supports file) with
    | nil => simp [hf] at hfirst
    | cons x xs =>
      rw [hf, List.head?_cons, Option.some.injEq] at hfirst
      exact ⟨xs, by rw [hfirst]⟩
  have hmem := first_supporting_spec hfirst
  have hnone : ((sources.filter (·.supports file)).map (·.parse file)).any succeeded = false := by
    rw [Bool.eq_false_iff, Ne, any_succeeded_supporting]
    rintro ⟨s, hs, hsup, hok⟩
    rw [hfail s hs hsup] at hok
    exact Bool.false_ne_true hok
  have hfirstFails := hfail first hmem.1 hmem.2
  cases hp : first.parse file with
  | ok rs => rw [hp] at hfirstFails; simp [succeeded] at hfirstFails
  | error e =>
    rw [hsplit, List.map_cons, hp] at hnone
    simp only [compose, composedParse, hsplit, List.map_cons, hp, List.isEmpty_cons, hnone,
      Bool.false_eq_true, if_false, firstFailure]

/-- A composition whose supporting members all fail fails too. -/
theorem succeeded_parse_compose_of_failures
    (hfail : ∀ s ∈ sources, s.supports file = true → succeeded (s.parse file) = false)
    (hsup : ∃ s ∈ sources, s.supports file = true) :
    succeeded ((compose sources).parse file) = false := by
  obtain ⟨first, hfirst⟩ := exists_first_supporting hsup
  obtain ⟨hmem, hfirstSup⟩ := first_supporting_spec hfirst
  rw [parse_compose_of_failures hfail hfirst]
  exact hfail first hmem hfirstSup

/-- **A composition reads a file as its members do.** The records a rule takes from a file
through a composition are the records it would take through each member, joined in order. -/
theorem collect_compose (sources : List Source) (file : SourceFile) :
    (compose sources).collect file = sources.flatMap (·.collect file) := by
  by_cases hsup : ∃ s ∈ sources, s.supports file = true
  · by_cases hok : ∃ s ∈ sources, s.supports file = true ∧ succeeded (s.parse file) = true
    · have hcs : (compose sources).supports file = true := by simpa using hsup
      exact collect_of_parse_ok hcs (parse_compose_of_success hok)
    · -- every supporting member fails: neither side has records
      have hfail := failures_of_not_exists hok
      have hright : sources.flatMap (·.collect file) = [] := by
        rw [List.flatMap_eq_nil_iff]
        intro s hs
        by_cases hss : s.supports file = true
        · have := hfail s hs hss
          cases hp : s.parse file with
          | ok rs => simp [hp, succeeded] at this
          | error e => simp [collect, hss, hp]
        · exact collect_of_supports_false (by simpa using hss)
      have hleft := succeeded_parse_compose_of_failures hfail hsup
      rw [hright, collect, if_pos (by simpa using hsup)]
      cases hp : (compose sources).parse file with
      | ok rs => simp [hp, succeeded] at hleft
      | error e => rfl
  · have hall := unsupported_of_not_exists hsup
    have hcs : (compose sources).supports file = false := by simpa using hall
    rw [collect_of_supports_false hcs, eq_comm, List.flatMap_eq_nil_iff]
    exact fun s hs => collect_of_supports_false (hall s hs)

/-! ## 3. Failures -/

/-- When some member supports a file, the composition fails exactly when every supporting
member fails, and then with the failure of the first. -/
theorem parse_compose_eq_error_iff (hsup : ∃ s ∈ sources, s.supports file = true)
    (e : FormatError) :
    (compose sources).parse file = .error e ↔
      (∀ s ∈ sources, s.supports file = true → succeeded (s.parse file) = false) ∧
        ∃ first, sources.find? (·.supports file) = some first ∧ first.parse file = .error e := by
  obtain ⟨first, hfirst⟩ := exists_first_supporting hsup
  constructor
  · intro herr
    have hfail : ∀ s ∈ sources, s.supports file = true → succeeded (s.parse file) = false := by
      intro s hs hss
      cases hok : succeeded (s.parse file) with
      | false => rfl
      | true =>
        rw [parse_compose_of_success ⟨s, hs, hss, hok⟩] at herr
        cases herr
    exact ⟨hfail, first, hfirst, (parse_compose_of_failures hfail hfirst).symm.trans herr⟩
  · rintro ⟨hfail, first', hfirst', herr⟩
    rw [parse_compose_of_failures hfail hfirst', herr]

/-- A source disowns a file when it supports the file and yet reports it as unsupported. -/
def Disowns (s : Source) (file : SourceFile) : Prop :=
  s.supports file = true ∧ s.parse file = .error (.unsupported file.path)

/-- **When a composition reports a file unsupported.** Either no member supports it, or every
supporting member fails and the first one disowns it. -/
theorem parse_compose_eq_unsupported_iff :
    (compose sources).parse file = .error (.unsupported file.path) ↔
      (∀ s ∈ sources, s.supports file = false) ∨
        (∀ s ∈ sources, s.supports file = true → succeeded (s.parse file) = false) ∧
          ∃ first, sources.find? (·.supports file) = some first ∧ first.Disowns file := by
  by_cases hsup : ∃ s ∈ sources, s.supports file = true
  · have hsome : ¬ ∀ s ∈ sources, s.supports file = false := by
      obtain ⟨s, hs, hss⟩ := hsup
      exact fun hall => by simp [hall s hs] at hss
    rw [parse_compose_eq_error_iff hsup, or_iff_right hsome]
    constructor
    · rintro ⟨hfail, first, hfirst, herr⟩
      exact ⟨hfail, first, hfirst, (first_supporting_spec hfirst).2, herr⟩
    · rintro ⟨hfail, first, hfirst, -, herr⟩
      exact ⟨hfail, first, hfirst, herr⟩
  · have hall := unsupported_of_not_exists hsup
    exact iff_of_true (parse_compose_of_unsupported hall) (Or.inl hall)

/-- A member that supports every file and reports each one unsupported: the composition reports
`a.strings` unsupported although its member supports it. -/
theorem parse_compose_unsupported_with_supporting_member :
    ¬ ((compose [⟨fun _ => true, fun f => .error (.unsupported f.path)⟩]).parse
          ⟨"a.strings", ""⟩ = .error (.unsupported "a.strings") ↔
        ∀ s ∈ [(⟨fun _ => true, fun f => .error (.unsupported f.path)⟩ : Source)],
          s.supports ⟨"a.strings", ""⟩ = false) := by
  intro h
  -- the member's failure is the composition's
  have hparse : (compose [⟨fun _ => true, fun f => .error (.unsupported f.path)⟩]).parse
      ⟨"a.strings", ""⟩ = .error (.unsupported "a.strings") := rfl
  exact Bool.noConfusion (h.mp hparse _ List.mem_cons_self)

/-- With members that disown nothing, a composition reports a file unsupported exactly when no
member supports it. -/
theorem parse_compose_eq_unsupported_iff_of_not_disowns
    (hown : ∀ s ∈ sources, ¬ s.Disowns file) :
    (compose sources).parse file = .error (.unsupported file.path) ↔
      ∀ s ∈ sources, s.supports file = false := by
  rw [parse_compose_eq_unsupported_iff]
  constructor
  · rintro (hall | ⟨-, first, hfirst, hdis⟩)
    · exact hall
    · exact absurd hdis (hown first (first_supporting_spec hfirst).1)
  · exact Or.inl

/-- A composition of members that disown nothing disowns nothing. -/
theorem compose_not_disowns (hown : ∀ s ∈ sources, ¬ s.Disowns file) :
    ¬ (compose sources).Disowns file := by
  rintro ⟨hsup, herr⟩
  obtain ⟨s, hs, hss⟩ : ∃ s ∈ sources, s.supports file = true := by simpa using hsup
  have hall := (parse_compose_eq_unsupported_iff_of_not_disowns hown).mp herr
  simp [hall s hs] at hss

/-! ## 4. Compositions of compositions -/

/-- Two sources that agree on every file are one source. -/
theorem ext {s t : Source} (hs : ∀ file, s.supports file = t.supports file)
    (hp : ∀ file, s.parse file = t.parse file) : s = t := by
  cases s
  cases t
  simp only [Source.mk.injEq]
  exact ⟨funext hs, funext hp⟩

/-- The first element of a flattened list that satisfies `p` is the first such element of the
first part that has one. -/
theorem find?_flatten_eq_bind {α : Type} (groups : List (List α)) (p : α → Bool) :
    groups.flatten.find? p = (groups.find? (·.any p)).bind (·.find? p) := by
  induction groups with
  | nil => rfl
  | cons g gs ih =>
    rw [List.flatten_cons, List.find?_append, ih]
    cases hg : g.any p with
    | true =>
      obtain ⟨x, hx⟩ := Option.isSome_iff_exists.mp (List.find?_isSome.mpr (List.any_eq_true.mp hg))
      simp [hg, hx]
    | false =>
      have hnone : g.find? p = none := by
        rw [List.find?_eq_none]
        intro x hx hpx
        rw [List.any_eq_false] at hg
        exact hg x hx hpx
      simp [hg, hnone]

/-- **A composition of compositions is the composition of all their members.** -/
theorem compose_map_compose (groups : List (List Source)) :
    compose (groups.map compose) = compose groups.flatten := by
  apply ext
  · intro file
    simp [List.any_map, Function.comp_def]
  · intro file
    by_cases hsup : ∃ s ∈ groups.flatten, s.supports file = true
    · by_cases hok : ∃ s ∈ groups.flatten, s.supports file = true ∧ succeeded (s.parse file) = true
      · -- a member that succeeds makes its group succeed
        obtain ⟨s, hs, hss, hsok⟩ := hok
        obtain ⟨g, hg, hsg⟩ := List.mem_flatten.mp hs
        have hgsup : (compose g).supports file = true := by simpa using ⟨s, hsg, hss⟩
        have hgok : succeeded ((compose g).parse file) = true := by
          rw [parse_compose_of_success ⟨s, hsg, hss, hsok⟩]
          rfl
        rw [parse_compose_of_success ⟨compose g, List.mem_map_of_mem hg, hgsup, hgok⟩,
          parse_compose_of_success ⟨s, hs, hss, hsok⟩, List.flatMap_map]
        simp only [collect_compose]
        rw [← List.flatMap_id, List.flatMap_assoc]
        rfl
      · -- every member fails, so every group does, and the first group fails as its first member
        have hfail := failures_of_not_exists hok
        obtain ⟨first, hfirst⟩ := exists_first_supporting hsup
        rw [find?_flatten_eq_bind] at hfirst
        obtain ⟨g, hg, hgfirst⟩ := Option.bind_eq_some_iff.mp hfirst
        have hgroupFails : ∀ c ∈ groups.map compose, c.supports file = true →
            succeeded (c.parse file) = false := by
          intro c hc hcs
          obtain ⟨h, hh, rfl⟩ := List.mem_map.mp hc
          exact succeeded_parse_compose_of_failures
            (fun s hs => hfail s (List.mem_flatten.mpr ⟨h, hh, hs⟩)) (by simpa using hcs)
        have houterFirst : (groups.map compose).find? (·.supports file) = some (compose g) := by
          have hcomp : ((fun c : Source => c.supports file) ∘ compose) =
              fun g => g.any (·.supports file) := rfl
          rw [List.find?_map, hcomp, hg]
          rfl
        have hgmem := List.mem_of_find?_eq_some hg
        rw [parse_compose_of_failures hgroupFails houterFirst,
          parse_compose_of_failures (fun s hs => hfail s (List.mem_flatten.mpr ⟨g, hgmem, hs⟩))
            hgfirst,
          parse_compose_of_failures hfail (by rw [find?_flatten_eq_bind, hg]; exact hgfirst)]
    · -- no member supports the file, so no group does
      have hall := unsupported_of_not_exists hsup
      have hgroups : ∀ c ∈ groups.map compose, c.supports file = false := by
        intro c hc
        obtain ⟨g, hg, rfl⟩ := List.mem_map.mp hc
        simpa using fun s hs => hall s (List.mem_flatten.mpr ⟨g, hg, hs⟩)
      rw [parse_compose_of_unsupported hgroups, parse_compose_of_unsupported hall]

/-! ## 5. The contract of a composition -/

/-- **Reading through a composition.** For every list of members and every file: the records
a rule takes are those of the members, joined in order; the composition supports the file when
a member does; it reports the file unsupported exactly when no member supports it, or when every
supporting member fails and the first one disowns the file; when a member supports it, the
composition fails exactly when every supporting member fails, with the first one's failure, and
succeeds with the members' records as soon as one of them succeeds; and grouping the members
into compositions changes nothing. -/
theorem compose_reads_supporting_members (sources : List Source) (file : SourceFile) :
    (compose sources).collect file = sources.flatMap (·.collect file) ∧
    ((compose sources).supports file = true ↔ ∃ s ∈ sources, s.supports file = true) ∧
    ((compose sources).parse file = .error (.unsupported file.path) ↔
      (∀ s ∈ sources, s.supports file = false) ∨
        (∀ s ∈ sources, s.supports file = true → succeeded (s.parse file) = false) ∧
          ∃ first, sources.find? (·.supports file) = some first ∧ first.Disowns file) ∧
    ((∃ s ∈ sources, s.supports file = true) →
      (∀ e, (compose sources).parse file = .error e ↔
        (∀ s ∈ sources, s.supports file = true → succeeded (s.parse file) = false) ∧
          ∃ first, sources.find? (·.supports file) = some first ∧
            first.parse file = .error e) ∧
      ((∃ s ∈ sources, s.supports file = true ∧ succeeded (s.parse file) = true) →
        (compose sources).parse file = .ok (sources.flatMap (·.collect file)))) ∧
    ∀ groups : List (List Source), groups.flatten = sources →
      compose (groups.map compose) = compose sources := by
  refine ⟨collect_compose sources file, by simp [List.any_eq_true],
    parse_compose_eq_unsupported_iff, ?_, ?_⟩
  · intro hsup
    exact ⟨parse_compose_eq_error_iff hsup, parse_compose_of_success⟩
  · intro groups hflat
    rw [compose_map_compose, hflat]

end L10nLint.Source

namespace L10nLint.JsonRecords

/-- The fixture readers disown no file: every failure of theirs is a decode failure. -/
theorem source_not_disowns (name extension : String) (file : SourceFile) :
    ¬ (source name extension).Disowns file := by
  rintro ⟨-, herr⟩
  have hparse : (source name extension).parse file =
      (records name file).mapError fun p => .decode file.path p.message := rfl
  rw [hparse] at herr
  cases hr : records name file with
  | ok rs => rw [hr] at herr; cases herr
  | error p => rw [hr] at herr; cases herr

/-- **A composition of fixture readers reports a file unsupported exactly when no reader
supports it**, since none of them disowns a file. -/
theorem compose_unsupported_iff (readers : List (String × String)) (file : SourceFile) :
    (Source.compose (readers.map fun r => source r.1 r.2)).parse file =
        .error (.unsupported file.path) ↔
      ∀ s ∈ readers.map (fun r => source r.1 r.2), s.supports file = false := by
  apply Source.parse_compose_eq_unsupported_iff_of_not_disowns
  intro s hs
  obtain ⟨r, -, rfl⟩ := List.mem_map.mp hs
  exact source_not_disowns r.1 r.2 file

end L10nLint.JsonRecords
