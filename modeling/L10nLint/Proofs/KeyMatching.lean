import Mathlib.Data.List.Basic
import L10nLint.Key.Accessor

/-
# When key matching ignores case and underscores

Two declared keys are compared by the match keys of their accessors. The accessor lower-cases
each word of a segment, capitalizes some words, lower-cases the first character of each segment,
and the match key lower-cases the whole. One would like the steps to cancel, so that the match
key depends only on each segment with its underscores deleted and lower-cased.

They cancel when every character's case maps are one character each way and undo each other
(`CaseStable`): then every lower-casing step acts character by character
(`lowerChars_eq_lowerEach`), capitalizing a lower-cased word and lower-casing it again gives the
lower-cased word back (`lowerEach_capitalize`), and so the match key of an accessor is the prefix
followed by the normalized segments (`lowerChars_accessorChars`).

They do not cancel in general. `ß` capitalizes to `SS`, so `a_ß` has the match key `l10n.ass`
while `aß` keeps `l10n.aß`; a capital sigma lowers to `ς` at the end of a word and to `σ` inside
one, so `ΑΣ_Α` and `ΑΣΑ` differ too. Both keys of each pair delete their underscores and lower-case
to the same segment.

**Main statement** (`matchKey_accessor_eq_of_caseStable`): keys whose letters are case-stable and
whose segments agree once underscores are deleted and the rest lower-cased have one match key.
-/

namespace L10nLint.Key

open L10nLint.Text

/-! ## 1. Lowering character by character -/

/-- Lower-casing each character on its own, without the word-final sigma rule. -/
def lowerEach (cs : List Char) : List Char := cs.flatMap lowerChar

@[simp] theorem lowerEach_nil : lowerEach [] = [] := rfl

@[simp] theorem lowerEach_cons (c : Char) (cs : List Char) :
    lowerEach (c :: cs) = lowerChar c ++ lowerEach cs := rfl

@[simp] theorem lowerEach_append (xs ys : List Char) :
    lowerEach (xs ++ ys) = lowerEach xs ++ lowerEach ys := by
  simp [lowerEach]

/-- **Away from capital sigma, lower-casing a text lower-cases its characters one by one**: the
context that `lowerFrom` carries is read only at a capital sigma. -/
theorem lowerFrom_eq_lowerEach (cs : List Char) (h : 'Σ' ∉ cs) :
    ∀ before, lowerFrom before cs = lowerEach cs := by
  induction cs with
  | nil => intro before; rfl
  | cons c rest ih =>
    intro before
    have hc : c ≠ 'Σ' := fun hc => h (by simp [hc])
    have hrest : 'Σ' ∉ rest := fun hx => h (by simp [hx])
    rw [lowerFrom, if_neg hc, ih hrest, lowerEach_cons]

theorem lowerChars_eq_lowerEach {cs : List Char} (h : 'Σ' ∉ cs) : lowerChars cs = lowerEach cs :=
  lowerFrom_eq_lowerEach cs h []

/-- Lowering a separated list character by character lowers the pieces and the separator. -/
theorem lowerEach_intercalate (sep : Char) (xs : List (List Char)) :
    lowerEach ([sep].intercalate xs) = (lowerChar sep).intercalate (xs.map lowerEach) := by
  induction xs with
  | nil => rfl
  | cons x rest ih =>
    cases rest with
    | nil => simp [List.intercalate_singleton]
    | cons y ys =>
      rw [List.intercalate_cons_cons, lowerEach_append, lowerEach_append, ih, List.map_cons,
        List.map_cons, List.map_cons, List.intercalate_cons_cons]
      simp

/-! ## 2. Case-stable characters -/

/-- A character that is its own lower case, and is not capital sigma. -/
def Lowered (l : Char) : Prop := lowerChar l = [l] ∧ l ≠ 'Σ'

/-- **Case-stable characters.** `c` lower-cases to one character `l` that is its own lower
case, and `l` upper-cases to one character `u` that lower-cases back to `l`; capital sigma is
none of them. Every ASCII character is case-stable (`CaseStable.of_ascii`); `ß` (upper case `SS`), `İ` (lower case
`i` and a combining dot) and the sigmas are not. -/
def CaseStable (c : Char) : Prop :=
  c ≠ 'Σ' ∧ ∃ l u, lowerChar c = [l] ∧ Lowered l ∧ upperChar l = [u] ∧ lowerChar u = [l] ∧
    u ≠ 'Σ'

/-- Lower-casing an ASCII character gives an ASCII character that is its own lower case, and
whose upper case is ASCII and lowers back to it. -/
theorem ascii_toLower {c : Char} (h : c.toNat < 128) :
    c.toLower.toNat < 128 ∧ c.toLower.toLower = c.toLower ∧
      c.toLower.toUpper.toNat < 128 ∧ c.toLower.toUpper.toLower = c.toLower := by
  have hall : ∀ n < 128, (Char.ofNat n).toLower.toNat < 128 ∧
      (Char.ofNat n).toLower.toLower = (Char.ofNat n).toLower ∧
      (Char.ofNat n).toLower.toUpper.toNat < 128 ∧
      (Char.ofNat n).toLower.toUpper.toLower = (Char.ofNat n).toLower := by
    decide
  simpa using hall c.toNat h

theorem ne_sigma_of_ascii {c : Char} (h : c.toNat < 128) : c ≠ 'Σ' := by
  rintro rfl
  exact absurd h (by decide)

/-- **Every ASCII character is case-stable**: its case maps are `Char.toLower` and
`Char.toUpper`, which stay in ASCII and undo each other on letters. -/
theorem CaseStable.of_ascii {c : Char} (h : c.toNat < 128) : CaseStable c := by
  obtain ⟨hl, hll, hu, hul⟩ := ascii_toLower h
  refine ⟨ne_sigma_of_ascii h, c.toLower, c.toLower.toUpper, lowerChar_of_lt h, ?_,
    upperChar_of_lt hl, ?_, ne_sigma_of_ascii hu⟩
  · exact ⟨by rw [lowerChar_of_lt hl, hll], ne_sigma_of_ascii hl⟩
  · rw [lowerChar_of_lt hu, hul]

/-- Every character of a list is case-stable. -/
def StableChars (cs : List Char) : Prop := ∀ c ∈ cs, CaseStable c

theorem StableChars.tail {c : Char} {cs : List Char} (h : StableChars (c :: cs)) :
    StableChars cs :=
  fun x hx => h x (List.mem_cons_of_mem c hx)

theorem StableChars.sigma_not_mem {cs : List Char} (h : StableChars cs) : 'Σ' ∉ cs :=
  fun hmem => (h _ hmem).1 rfl

/-! ## 3. Words -/

/-- A word of case-stable characters lowers, character by character, to characters that are
their own lower case. -/
theorem lowered_of_mem_lowerEach {w : List Char} (hw : StableChars w) :
    ∀ x ∈ lowerEach w, Lowered x := by
  induction w with
  | nil => intro x hx; simp at hx
  | cons c cs ih =>
    intro x hx
    obtain ⟨-, l, u, hl, hll, -⟩ := hw c (by simp)
    rw [lowerEach_cons, hl, List.mem_append] at hx
    rcases hx with hx | hx
    · rw [List.mem_singleton.mp hx]
      exact hll
    · exact ih hw.tail x hx

/-- Characters that are their own lower case stay as they are. -/
theorem lowerEach_of_lowered {xs : List Char} (h : ∀ x ∈ xs, Lowered x) :
    lowerEach xs = xs := by
  induction xs with
  | nil => rfl
  | cons x rest ih =>
    have hx : lowerChar x = [x] := (h x (by simp)).1
    rw [lowerEach_cons, hx, ih fun y hy => h y (List.mem_cons_of_mem x hy)]
    rfl

/-- **Lowering is idempotent on case-stable words.** -/
theorem lowerEach_lowerEach {w : List Char} (hw : StableChars w) :
    lowerEach (lowerEach w) = lowerEach w :=
  lowerEach_of_lowered (lowered_of_mem_lowerEach hw)

/-- **Capitalizing a lowered case-stable word and lowering it again gives it back.** -/
theorem lowerEach_capitalize {w : List Char} (hw : StableChars w) :
    lowerEach (capitalize (lowerEach w)) = lowerEach w := by
  cases w with
  | nil => rfl
  | cons c cs =>
    obtain ⟨-, l, u, hl, -, hu, hul, -⟩ := hw c (by simp)
    have hrest : lowerEach (lowerEach cs) = lowerEach cs := lowerEach_lowerEach hw.tail
    rw [lowerEach_cons, hl]
    simp [capitalize, hu, hul, hrest]

/-- What the first character of a lowered or capitalized case-stable word satisfies: lowering
it once more changes nothing, and no character it lowers to is capital sigma. -/
def SettledHead (xs : List Char) : Prop :=
  ∀ x ∈ xs.head?, lowerEach (lowerChar x) = lowerChar x ∧ 'Σ' ∉ lowerChar x

theorem settledHead_lowerEach {w : List Char} (hw : StableChars w) : SettledHead (lowerEach w) := by
  cases w with
  | nil => simp [SettledHead]
  | cons c cs =>
    obtain ⟨-, l, u, hl, ⟨hll, hlσ⟩, -⟩ := hw c (by simp)
    intro x hx
    rw [lowerEach_cons, hl] at hx
    simp only [List.cons_append, List.head?_cons, Option.mem_def, Option.some.injEq] at hx
    subst hx
    simp [hll, Ne.symm hlσ]

theorem settledHead_capitalize {w : List Char} (hw : StableChars w) :
    SettledHead (capitalize (lowerEach w)) := by
  cases w with
  | nil => simp [SettledHead, capitalize]
  | cons c cs =>
    obtain ⟨-, l, u, hl, ⟨hll, hlσ⟩, hu, hul, -⟩ := hw c (by simp)
    intro x hx
    rw [lowerEach_cons, hl] at hx
    simp only [List.cons_append, capitalize, hu, List.head?_cons, Option.mem_def,
      Option.some.injEq] at hx
    subst hx
    simp [hul, hll, Ne.symm hlσ]

/-- Lowering the first character first changes nothing when that character is settled. -/
theorem lowerEach_lowerFirst {xs : List Char} (h : SettledHead xs) :
    lowerEach (lowerFirst xs) = lowerEach xs := by
  cases xs with
  | nil => rfl
  | cons x rest =>
    have hx := (h x (by simp)).1
    simp [lowerFirst, hx]

/-- No character of a lowered case-stable word is capital sigma, nor of it capitalized. -/
theorem sigma_not_mem_lowerEach {w : List Char} (hw : StableChars w) : 'Σ' ∉ lowerEach w :=
  fun hmem => (lowered_of_mem_lowerEach hw _ hmem).2 rfl

theorem sigma_not_mem_capitalize {w : List Char} (hw : StableChars w) :
    'Σ' ∉ capitalize (lowerEach w) := by
  cases w with
  | nil => simp [capitalize]
  | cons c cs =>
    obtain ⟨-, l, u, hl, -, hu, -, huσ⟩ := hw c (by simp)
    have hrest := sigma_not_mem_lowerEach hw.tail
    rw [lowerEach_cons, hl]
    simp only [List.cons_append, capitalize, hu, List.mem_cons, not_or]
    exact ⟨fun h => huσ h.symm, hrest⟩

/-- A settled first character stays first when more text follows, and text after an empty
list brings its own first character. -/
theorem SettledHead.append {xs ys : List Char} (hx : SettledHead xs) (hy : SettledHead ys) :
    SettledHead (xs ++ ys) := by
  cases xs with
  | nil => simpa using hy
  | cons x rest =>
    intro z hz
    exact hx z (by simpa using hz)

/-! ## 4. Segments and words -/

/-- Joining the pieces of a split gives the text without its separators. -/
theorem flatten_splitOn (sep : Char) (cs : List Char) :
    (cs.splitOn sep).flatten = cs.filter (· ≠ sep) := by
  induction cs with
  | nil => rfl
  | cons c rest ih =>
    rw [List.splitOn_cons_eq_if_modifyHead]
    by_cases hc : c = sep
    · simp [hc, ih]
    · have hkeep : (c :: rest).filter (· ≠ sep) = c :: rest.filter (· ≠ sep) :=
        List.filter_cons_of_pos (by simpa using hc)
      -- a split always has a piece, and `c` joins the first one
      obtain ⟨w, ws, hsplit⟩ := List.exists_cons_of_ne_nil (List.splitOn_ne_nil sep rest)
      rw [if_neg (by simpa using hc), hsplit, List.modifyHead_cons, hkeep, ← ih, hsplit]
      rfl

/-- The words of a segment, joined, are the segment without its underscores. -/
theorem flatten_words (seg : List Char) : (words seg).flatten = seg.filter (· ≠ '_') := by
  rw [words, List.flatten_filter_ne_nil, flatten_splitOn]

/-- The segments of a key, joined, are the key without its dots. -/
theorem flatten_segments (key : List Char) : (segments key).flatten = key.filter (· ≠ '.') := by
  rw [segments, List.flatten_filter_ne_nil, flatten_splitOn]

/-- A segment with its underscores deleted and the rest lower-cased: the form under which the
compatibility contract compares segments. -/
def normalSegment (seg : List Char) : List Char := lowerChars (seg.filter (· ≠ '_'))

/-- The letters of a text: the characters other than the separators `.` and `_`. -/
def LettersStable (cs : List Char) : Prop := ∀ c ∈ cs, c ≠ '.' → c ≠ '_' → CaseStable c

theorem LettersStable.of_ascii {cs : List Char} (h : ∀ c ∈ cs, c.toNat < 128) :
    LettersStable cs :=
  fun c hc _ _ => CaseStable.of_ascii (h c hc)

theorem stableChars_of_mem_words {seg w : List Char} (hs : LettersStable seg)
    (hseg : '.' ∉ seg) (hw : w ∈ words seg) : StableChars w := by
  intro c hc
  have hflat : c ∈ seg.filter (· ≠ '_') := by
    rw [← flatten_words]
    exact List.mem_flatten.mpr ⟨w, hw, hc⟩
  obtain ⟨hcs, hcu⟩ := List.mem_filter.mp hflat
  exact hs c hcs (fun h => hseg (h ▸ hcs)) (by simpa using hcu)

theorem stableChars_filter {seg : List Char} (hs : LettersStable seg) (hseg : '.' ∉ seg) :
    StableChars (seg.filter (· ≠ '_')) := by
  intro c hc
  obtain ⟨hcs, hcu⟩ := List.mem_filter.mp hc
  exact hs c hcs (fun h => hseg (h ▸ hcs)) (by simpa using hcu)

theorem lettersStable_of_mem_segments {key seg : List Char} (hk : LettersStable key)
    (hseg : seg ∈ segments key) : LettersStable seg ∧ '.' ∉ seg := by
  have hsub : ∀ c ∈ seg, c ∈ key ∧ c ≠ '.' := by
    intro c hc
    have hflat : c ∈ key.filter (· ≠ '.') := by
      rw [← flatten_segments]
      exact List.mem_flatten.mpr ⟨seg, hseg, hc⟩
    obtain ⟨hck, hcd⟩ := List.mem_filter.mp hflat
    exact ⟨hck, by simpa using hcd⟩
  refine ⟨fun c hc => hk c (hsub c hc).1, fun hdot => (hsub '.' hdot).2 rfl⟩

/-! ## 5. One segment of an accessor -/

theorem lowerEach_flatMap (ws : List (List Char)) (f : List Char → List Char) :
    lowerEach (ws.flatMap f) = ws.flatMap fun v => lowerEach (f v) := by
  induction ws with
  | nil => rfl
  | cons v rest ih => rw [List.flatMap_cons, lowerEach_append, ih, List.flatMap_cons]

section Segment

variable {seg : List Char} (hs : LettersStable seg) (hseg : '.' ∉ seg)
include hs hseg

/-- **The camel-cased words of a segment lower to the segment's normal form.** Whichever way the
first word is cased, lowering undoes the capitals, and the words join to the segment without
underscores. -/
theorem lowerEach_camelCase (cap : Bool) : lowerEach (camelCase seg cap) = normalSegment seg := by
  have hwords : ∀ w ∈ words seg, StableChars w :=
    fun w hw => stableChars_of_mem_words hs hseg hw
  rw [normalSegment, lowerChars_eq_lowerEach (stableChars_filter hs hseg).sigma_not_mem,
    ← flatten_words]
  unfold camelCase
  cases hws : words seg with
  | nil => rfl
  | cons w ws =>
    rw [hws] at hwords
    have hw : StableChars w := hwords w (by simp)
    have hfirst : lowerEach (if cap then capitalize (lowerChars w) else lowerChars w) =
        lowerEach w := by
      rw [lowerChars_eq_lowerEach hw.sigma_not_mem]
      cases cap with
      | true => exact lowerEach_capitalize hw
      | false => exact lowerEach_lowerEach hw
    have hrest : lowerEach (ws.flatMap fun v => capitalize (lowerChars v)) =
        ws.flatMap lowerEach := by
      rw [lowerEach_flatMap]
      apply List.flatMap_congr
      intro v hv
      have hv' : StableChars v := hwords v (by simp [hv])
      rw [lowerChars_eq_lowerEach hv'.sigma_not_mem, lowerEach_capitalize hv']
    rw [lowerEach_append, hfirst, hrest, List.flatten_cons, lowerEach_append, ← List.flatMap_id,
      lowerEach_flatMap]
    rfl

/-- The camel-cased words of a segment start with a settled character and hold no capital
sigma. -/
theorem camelCase_settled (cap : Bool) :
    SettledHead (camelCase seg cap) ∧ 'Σ' ∉ camelCase seg cap := by
  have hwords : ∀ w ∈ words seg, StableChars w :=
    fun w hw => stableChars_of_mem_words hs hseg hw
  unfold camelCase
  cases hws : words seg with
  | nil => exact ⟨by simp [SettledHead], by simp⟩
  | cons w ws =>
    rw [hws] at hwords
    have hw : StableChars w := hwords w (by simp)
    have hfirst : SettledHead (if cap then capitalize (lowerChars w) else lowerChars w) ∧
        'Σ' ∉ (if cap then capitalize (lowerChars w) else lowerChars w) := by
      rw [lowerChars_eq_lowerEach hw.sigma_not_mem]
      cases cap with
      | true => exact ⟨settledHead_capitalize hw, sigma_not_mem_capitalize hw⟩
      | false => exact ⟨settledHead_lowerEach hw, sigma_not_mem_lowerEach hw⟩
    -- the later words, capitalized, again start settled and hold no capital sigma
    have hrest : ∀ vs : List (List Char), (∀ v ∈ vs, StableChars v) →
        SettledHead (vs.flatMap fun v => capitalize (lowerChars v)) ∧
          'Σ' ∉ vs.flatMap fun v => capitalize (lowerChars v) := by
      intro vs
      induction vs with
      | nil => intro _; exact ⟨by simp [SettledHead], by simp⟩
      | cons v rest ih =>
        intro hvs
        have hv : StableChars v := hvs v (by simp)
        obtain ⟨ihs, ihσ⟩ := ih fun x hx => hvs x (by simp [hx])
        rw [List.flatMap_cons, lowerChars_eq_lowerEach hv.sigma_not_mem]
        refine ⟨(settledHead_capitalize hv).append ihs, ?_⟩
        simp only [List.mem_append, not_or]
        exact ⟨sigma_not_mem_capitalize hv, ihσ⟩
    obtain ⟨hrs, hrσ⟩ := hrest ws fun v hv => hwords v (by simp [hv])
    refine ⟨hfirst.1.append hrs, ?_⟩
    simp only [List.mem_append, not_or]
    exact ⟨hfirst.2, hrσ⟩

/-- **One accessor component lowers to the segment's normal form**, at every position. -/
theorem lowerEach_component (n i : Nat) : lowerEach (component n i seg) = normalSegment seg := by
  rw [component, lowerEach_lowerFirst (camelCase_settled hs hseg _).1, lowerEach_camelCase hs hseg]

/-- No accessor component holds a capital sigma. -/
theorem sigma_not_mem_component (n i : Nat) : 'Σ' ∉ component n i seg := by
  obtain ⟨hhead, hσ⟩ := camelCase_settled hs hseg (capitalizesFirstWord i n)
  rw [component]
  cases hcc : camelCase seg (capitalizesFirstWord i n) with
  | nil => simp
  | cons x rest =>
    rw [hcc] at hhead hσ
    have hx := (hhead x (by simp)).2
    simp only [lowerFirst, List.mem_append, not_or]
    exact ⟨hx, fun h => hσ (List.mem_cons_of_mem x h)⟩

end Segment

/-! ## 6. The match key of an accessor -/

/-- Mapping an indexed list by a function that forgets the index. -/
theorem map_mapIdx_of_forall {α β γ : Type} {g : β → γ} {h : α → γ} (l : List α) :
    ∀ f : Nat → α → β, (∀ i, ∀ a ∈ l, g (f i a) = h a) →
      (l.mapIdx f).map g = l.map h := by
  induction l with
  | nil => intro f _; rfl
  | cons a rest ih =>
    intro f hf
    rw [List.mapIdx_cons, List.map_cons, List.map_cons, hf 0 a (by simp),
      ih (fun i => f (i + 1)) fun i b hb => hf (i + 1) b (List.mem_cons_of_mem a hb)]

/-- A character of a separated list is the separator or a character of a piece. -/
theorem mem_intercalate_singleton {sep c : Char} (xs : List (List Char))
    (h : c ∈ [sep].intercalate xs) : c = sep ∨ ∃ x ∈ xs, c ∈ x := by
  induction xs with
  | nil => simp at h
  | cons x rest ih =>
    cases rest with
    | nil => exact Or.inr ⟨x, by simp, by simpa [List.intercalate_singleton] using h⟩
    | cons y ys =>
      rw [List.intercalate_cons_cons, List.mem_append, List.mem_append, List.mem_singleton] at h
      rcases h with (hx | hsep) | hrest
      · exact Or.inr ⟨x, by simp, hx⟩
      · exact Or.inl hsep
      · rcases ih hrest with hsep | ⟨z, hz, hcz⟩
        · exact Or.inl hsep
        · exact Or.inr ⟨z, List.mem_cons_of_mem x hz, hcz⟩

/-- An accessor of a key of case-stable letters holds no capital sigma: the prefix and the dots
hold none, and neither does any component. -/
theorem sigma_not_mem_accessorChars {key : List Char} (hk : LettersStable key) :
    'Σ' ∉ accessorChars key := by
  intro hmem
  rw [accessorChars, List.mem_append, List.mem_cons] at hmem
  rcases hmem with hpre | hdot | hjoin
  · exact absurd hpre (by decide)
  · exact absurd hdot (by decide)
  · rcases mem_intercalate_singleton _ hjoin with hdot | ⟨x, hx, hσ⟩
    · exact absurd hdot (by decide)
    · obtain ⟨i, hi, rfl⟩ := List.mem_mapIdx.mp hx
      obtain ⟨hs, hseg⟩ := lettersStable_of_mem_segments hk (List.getElem_mem hi)
      exact sigma_not_mem_component hs hseg _ _ hσ

/-- **The match key of an accessor, for keys of case-stable letters**: the prefix and its dot,
lowered, then the normal forms of the segments, joined by a lowered dot. -/
theorem lowerChars_accessorChars {key : List Char} (hk : LettersStable key) :
    lowerChars (accessorChars key) =
      lowerEach accessorPrefix ++ lowerChar '.' ++
        (lowerChar '.').intercalate ((segments key).map normalSegment) := by
  have hcomponents : ((segments key).mapIdx (component (segments key).length)).map lowerEach =
      (segments key).map normalSegment := by
    apply map_mapIdx_of_forall
    intro i seg hseg
    obtain ⟨hs, hdot⟩ := lettersStable_of_mem_segments hk hseg
    exact lowerEach_component hs hdot _ _
  rw [lowerChars_eq_lowerEach (sigma_not_mem_accessorChars hk), accessorChars, lowerEach_append,
    lowerEach_cons, lowerEach_intercalate, hcomponents, List.append_assoc]

theorem matchKey_accessor (key : String) :
    matchKey (accessor key) = String.ofList (lowerChars (accessorChars key.toList)) := by
  rw [matchKey, accessor, toLower, String.toList_ofList]

/-- **Matching ignores case and underscores, for case-stable letters.** Two keys whose letters
are case-stable, with as many non-empty segments, whose corresponding segments agree once their
underscores are deleted and the rest lower-cased, have one match key. -/
theorem matchKey_accessor_eq_of_caseStable {k₁ k₂ : String} (h₁ : LettersStable k₁.toList)
    (h₂ : LettersStable k₂.toList)
    (h : (segments k₁.toList).map normalSegment = (segments k₂.toList).map normalSegment) :
    matchKey (accessor k₁) = matchKey (accessor k₂) := by
  rw [matchKey_accessor, matchKey_accessor, lowerChars_accessorChars h₁,
    lowerChars_accessorChars h₂, h]

/-- The law at `Checkout.PAY_NOW` and `checkout.payNow`: two segments each, which deleting `_`
and lower-casing make `checkout` and `paynow`. -/
theorem matchKey_accessor_case_and_underscores :
    LettersStable "Checkout.PAY_NOW".toList ∧ LettersStable "checkout.payNow".toList ∧
      (segments "Checkout.PAY_NOW".toList).map normalSegment =
        (segments "checkout.payNow".toList).map normalSegment ∧
      matchKey (accessor "Checkout.PAY_NOW") = matchKey (accessor "checkout.payNow") := by
  have h₁ : LettersStable "Checkout.PAY_NOW".toList := LettersStable.of_ascii (by simp)
  have h₂ : LettersStable "checkout.payNow".toList := LettersStable.of_ascii (by simp)
  have h : (segments "Checkout.PAY_NOW".toList).map normalSegment =
      (segments "checkout.payNow".toList).map normalSegment := by
    decide
  exact ⟨h₁, h₂, h, matchKey_accessor_eq_of_caseStable h₁ h₂ h⟩

end L10nLint.Key
