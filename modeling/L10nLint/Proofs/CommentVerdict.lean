import Mathlib.Data.List.Sort
import Mathlib.Data.String.Basic
import L10nLint.Comment.Validator
import L10nLint.Proofs.ByteOrder

/-
# The verdict of the full comment validator

`Validator.validate` runs its checks in one fixed order and stops at the first that fails.
This module states each check on its own, in terms of the comment's JSON object and the
record, and proves that the full validator answers exactly the first failing one
(`FullVerdict`, `validate_full_iff`).

Three facts about the data carry the statement beyond a reading of the code:

* the reader keeps an object's members sorted by name, one member per name
  (`parse_object_sorted`, from `Fields.insert` keeping order, `keys_fieldsInsert`); so the
  first unknown member name is the least one, in code point order and hence in UTF-8 byte
  order (`leastUnknownKey_of_unknownKey`, with `utf8Bytes_le_iff`);
* the typed reading of the four known members accepts exactly the objects whose members
  have their types, with `null` read as absent (`decode_eq_some_iff`, `Describes`);
* the words outside the vocabulary are listed once each in byte order, and such a list is
  unique (`outsideSet_outsideWords`, `OutsideSet.unique`).
-/

namespace L10nLint.Comment

open L10nLint.Json

/-! ## 1. Sorted insertion -/

theorem mem_insertSorted {w x : String} {l : List String} :
    x ∈ insertSorted w l ↔ x = w ∨ x ∈ l := by
  induction l with
  | nil => simp [insertSorted]
  | cons y l ih =>
    simp only [insertSorted]
    split_ifs with hwy hlt
    · subst hwy
      simp
    · simp
    · simp only [List.mem_cons, ih]
      tauto

/-- Inserting into a list sorted without repeats keeps it so. -/
theorem pairwise_insertSorted {w : String} {l : List String} (h : l.Pairwise (· < ·)) :
    (insertSorted w l).Pairwise (· < ·) := by
  induction l with
  | nil => simp [insertSorted]
  | cons y l ih =>
    rw [List.pairwise_cons] at h
    simp only [insertSorted]
    split_ifs with hwy hlt
    · exact List.pairwise_cons.mpr h
    · -- `w` goes first: it is below `y`, hence below all of `l`
      refine List.pairwise_cons.mpr ⟨?_, List.pairwise_cons.mpr h⟩
      intro z hz
      rcases List.mem_cons.mp hz with rfl | hz
      · exact hlt
      · exact String.lt_trans hlt (h.1 z hz)
    · -- `y` stays first: it is below `w` and below the rest
      have hyw : y < w := lt_of_le_of_ne (not_lt.mp hlt) (Ne.symm hwy)
      refine List.pairwise_cons.mpr ⟨?_, ih h.2⟩
      intro z hz
      rcases mem_insertSorted.mp hz with rfl | hz
      · exact hyw
      · exact h.1 z hz

/-- Object members sorted by name, one member per name. -/
def Fields.Sorted (fields : List (String × Value)) : Prop :=
  (fields.map Prod.fst).Pairwise (· < ·)

/-- Adding a member places its name as `insertSorted` places a word. -/
theorem keys_fieldsInsert (name : String) (v : Value) (fields : List (String × Value)) :
    (Fields.insert name v fields).map Prod.fst = insertSorted name (fields.map Prod.fst) := by
  induction fields with
  | nil => rfl
  | cons kw rest ih =>
    obtain ⟨k, w⟩ := kw
    simp only [Fields.insert, List.map_cons, insertSorted]
    split_ifs with hk hlt
    · subst hk
      rfl
    · rfl
    · rw [List.map_cons, ih]

theorem Fields.sorted_nil : Fields.Sorted [] := List.Pairwise.nil

theorem Fields.Sorted.insert {fields : List (String × Value)} (h : Fields.Sorted fields)
    (name : String) (v : Value) : Fields.Sorted (Fields.insert name v fields) := by
  rw [Fields.Sorted, keys_fieldsInsert]
  exact pairwise_insertSorted h

/-! ## 2. The reader's objects are sorted -/

/-- **What one round of `members` does**: it reads one member and either closes the object
with that member added, or goes on to the next member with it added. -/
theorem members_succ_cases {fuel room : Nat} {acc : List (String × Value)} {cs rest : List Char}
    {v : Value} (h : members (fuel + 1) room acc cs = some (v, rest)) :
    ∃ name w, v = .object (Fields.insert name w acc) ∨
      ∃ cs', members fuel room (Fields.insert name w acc) cs' = some (v, rest) := by
  simp only [members] at h
  split at h
  · split at h
    · simp at h
    · split at h
      · split at h
        · simp at h
        · split at h
          · simp only [Option.some.injEq, Prod.mk.injEq] at h
            exact ⟨_, _, .inl h.1.symm⟩
          · exact ⟨_, _, .inr ⟨_, h⟩⟩
          · simp at h
      · simp at h
  · simp at h

/-- Every object `members` returns is sorted, when the members read so far are. -/
theorem members_sorted {fuel room : Nat} {acc : List (String × Value)} {cs rest : List Char}
    {v : Value} (hacc : Fields.Sorted acc) (h : members fuel room acc cs = some (v, rest)) :
    ∃ fields, v = .object fields ∧ Fields.Sorted fields := by
  induction fuel generalizing acc cs with
  | zero => simp [members] at h
  | succ fuel ih =>
    obtain ⟨name, w, hv | ⟨cs', hrec⟩⟩ := members_succ_cases h
    · exact ⟨_, hv, hacc.insert name w⟩
    · exact ih (hacc.insert name w) hrec

/-- `items` returns arrays only. -/
theorem items_array {fuel room : Nat} {acc : List Value} {cs rest : List Char} {v : Value}
    (h : items fuel room acc cs = some (v, rest)) : ∃ vs, v = .array vs := by
  induction fuel generalizing acc cs with
  | zero => simp [items] at h
  | succ fuel ih =>
    simp only [items] at h
    split at h
    · simp at h
    · split at h
      · simp only [Option.some.injEq, Prod.mk.injEq] at h
        exact ⟨_, h.1.symm⟩
      · exact ih h
      · simp at h

/-- An object the value reader returns is sorted: it is empty or built by `members`. -/
theorem value_object_sorted {fuel room : Nat} {cs rest : List Char}
    {fields : List (String × Value)} (h : value fuel room cs = some (.object fields, rest)) :
    Fields.Sorted fields := by
  cases fuel with
  | zero => simp [value] at h
  | succ fuel =>
    simp only [value] at h
    split at h
    -- an array: `items` returns arrays only
    case h_6 =>
      split at h
      · simp at h
      · split at h
        · simp at h
        · obtain ⟨vs, hvs⟩ := items_array h
          simp at hvs
    -- an object: empty, or read by `members` from no members
    case h_7 =>
      split at h
      · simp at h
      · split at h
        · simp only [Option.some.injEq, Prod.mk.injEq, Value.object.injEq] at h
          rw [← h.1]
          exact Fields.sorted_nil
        · obtain ⟨fields', hv, hs⟩ := members_sorted Fields.sorted_nil h
          simp only [Value.object.injEq] at hv
          exact hv ▸ hs
    -- a literal, string or number is no object
    all_goals simp at h

/-- **The reader keeps an object's members sorted by name**, one member per name. -/
theorem parse_object_sorted {s : String} {fields : List (String × Value)}
    (h : Json.parse s = some (.object fields)) : Fields.Sorted fields := by
  simp only [Json.parse] at h
  split at h
  · split at h
    · simp only [Option.some.injEq] at h
      subst h
      exact value_object_sorted ‹_›
    · simp at h
  · simp at h

/-! ## 3. The typed reading of the known members -/

/-- A member's value, with `null` read as absent. -/
def present (fields : List (String × Value)) (name : String) : Option Value :=
  match fields.lookup name with
  | some .null => none
  | v => v

/-- An optional member is read from its present value. -/
theorem optMember_eq {α : Type} (fields : List (String × Value)) (name : String)
    (read : Value → Option α) :
    optMember fields name read =
      (present fields name).elim (some none) fun v => (read v).map some := by
  unfold optMember present
  cases fields.lookup name with
  | none => rfl
  | some v => cases v <;> rfl

theorem readString_eq_some_iff {v : Value} {s : String} :
    readString v = some s ↔ v = .string s := by
  cases v <;> simp [readString]

theorem mapM_readString_eq_some_iff {items : List Value} {ws : List String} :
    items.mapM readString = some ws ↔ items = ws.map .string := by
  induction items generalizing ws with
  | nil => cases ws <;> simp
  | cons v items ih =>
    cases ws <;> simp [List.mapM_cons, Option.bind_eq_some_iff, readString_eq_some_iff, ih]

theorem readStrings_eq_some_iff {v : Value} {ws : List String} :
    readStrings v = some ws ↔ v = .array (ws.map .string) := by
  cases v <;> simp [readStrings, mapM_readString_eq_some_iff]

theorem readWhole_eq_some_iff {v : Value} {m : Int} :
    readWhole v = some m ↔ ∃ n, v = .number n ∧ wholeNumber n = some m := by
  cases v <;> simp [readWhole]

/-- **How an object's members give a structured comment.** `description` and `img` are
strings, `placeholders` an array of strings, `max_character_count` a number that reads as a
whole count; each of them absent or `null` exactly when the comment has none. -/
structure Describes (fields : List (String × Value)) (sc : Structured) : Prop where
  description : present fields "description" = sc.description.map .string
  placeholders : present fields "placeholders" = sc.placeholders.map fun ws => .array (ws.map .string)
  img : present fields "img" = sc.img.map .string
  maxCharacterCount : match sc.maxCharacterCount with
    | none => present fields "max_character_count" = none
    | some m => ∃ n, present fields "max_character_count" = some (.number n) ∧ wholeNumber n = some m

theorem optMember_readString_eq_some_iff {fields : List (String × Value)} {name : String}
    {o : Option String} :
    optMember fields name readString = some o ↔ present fields name = o.map .string := by
  rw [optMember_eq]
  cases present fields name <;> cases o <;> simp [readString_eq_some_iff]

theorem optMember_readStrings_eq_some_iff {fields : List (String × Value)} {name : String}
    {o : Option (List String)} :
    optMember fields name readStrings = some o ↔
      present fields name = o.map fun ws => .array (ws.map .string) := by
  rw [optMember_eq]
  cases present fields name <;> cases o <;> simp [readStrings_eq_some_iff]

theorem optMember_readWhole_eq_some_iff {fields : List (String × Value)} {name : String}
    {o : Option Int} :
    optMember fields name readWhole = some o ↔
      match o with
      | none => present fields name = none
      | some m => ∃ n, present fields name = some (.number n) ∧ wholeNumber n = some m := by
  rw [optMember_eq]
  cases present fields name <;> cases o <;> simp [readWhole_eq_some_iff]

/-- **The typed reading accepts exactly the well-typed objects**, and reads them as they
describe. -/
theorem decode_eq_some_iff {fields : List (String × Value)} {sc : Structured} :
    Structured.decode fields = some sc ↔ Describes fields sc := by
  obtain ⟨d, p, i, m⟩ := sc
  simp only [Structured.decode, Option.bind_eq_bind, Option.bind_eq_some_iff, Option.pure_def,
    Option.some.injEq, Structured.mk.injEq]
  constructor
  · rintro ⟨d', hd, p', hp, i', hi, m', hm, rfl, rfl, rfl, rfl⟩
    exact ⟨optMember_readString_eq_some_iff.mp hd, optMember_readStrings_eq_some_iff.mp hp,
      optMember_readString_eq_some_iff.mp hi, optMember_readWhole_eq_some_iff.mp hm⟩
  · rintro ⟨hd, hp, hi, hm⟩
    exact ⟨d, optMember_readString_eq_some_iff.mpr hd,
      p, optMember_readStrings_eq_some_iff.mpr hp,
      i, optMember_readString_eq_some_iff.mpr hi, m, optMember_readWhole_eq_some_iff.mpr hm,
      rfl, rfl, rfl, rfl⟩

/-! ## 4. Member names outside the allowed ones -/

/-- `k` is the least member name outside the allowed ones, in UTF-8 byte order. -/
def LeastUnknownKey (fields : List (String × Value)) (k : String) : Prop :=
  k ∈ fields.map Prod.fst ∧ k ∉ allowedKeys ∧
    ∀ k' ∈ fields.map Prod.fst, k' ∉ allowedKeys → utf8Bytes k ≤ utf8Bytes k'

theorem LeastUnknownKey.unique {fields : List (String × Value)} {k₁ k₂ : String}
    (h₁ : LeastUnknownKey fields k₁) (h₂ : LeastUnknownKey fields k₂) : k₁ = k₂ :=
  String.le_antisymm (utf8Bytes_le_iff.mp (h₁.2.2 k₂ h₂.1 h₂.2.1))
    (utf8Bytes_le_iff.mp (h₂.2.2 k₁ h₁.1 h₁.2.1))

theorem unknownKey_eq_none_iff {fields : List (String × Value)} :
    unknownKey fields = none ↔ ∀ k ∈ fields.map Prod.fst, k ∈ allowedKeys := by
  simp [unknownKey, List.find?_eq_none]

/-- **The first unknown member name is the least one**, since members come sorted. -/
theorem leastUnknownKey_of_unknownKey {fields : List (String × Value)} {k : String}
    (hs : Fields.Sorted fields) (h : unknownKey fields = some k) : LeastUnknownKey fields k := by
  induction fields with
  | nil => simp [unknownKey] at h
  | cons kv rest ih =>
    obtain ⟨k₀, v₀⟩ := kv
    simp only [Fields.Sorted, List.map_cons, List.pairwise_cons] at hs
    by_cases h₀ : k₀ ∈ allowedKeys
    · -- the first name is allowed: the answer comes from the rest
      have hrest : unknownKey rest = some k := by simpa [unknownKey, h₀] using h
      obtain ⟨hk, hku, hleast⟩ := ih hs.2 hrest
      refine ⟨List.mem_cons_of_mem _ hk, hku, ?_⟩
      intro k' hk' hk'u
      rcases List.mem_cons.mp hk' with rfl | hk'
      · exact absurd h₀ hk'u
      · exact hleast k' hk' hk'u
    · -- the first name is unknown and every later name is larger
      have hk : k₀ = k := by simpa [unknownKey, h₀] using h
      subst hk
      refine ⟨List.mem_cons_self, h₀, ?_⟩
      intro k' hk' _
      rcases List.mem_cons.mp hk' with rfl | hk'
      · exact utf8Bytes_le_iff.mpr (String.le_refl _)
      · exact utf8Bytes_le_iff.mpr (String.lt_asymm (hs.1 k' hk'))

/-! ## 5. Words outside the vocabulary -/

/-- `S` lists the words of `words` that are outside `V`, once each, in UTF-8 byte order. -/
def OutsideSet (V words S : List String) : Prop :=
  (∀ w, w ∈ S ↔ w ∈ words ∧ w ∉ V) ∧ S.Pairwise fun a b => utf8Bytes a < utf8Bytes b

/-- **Run lemma of the sorted insertion**: inserting words one by one into a list sorted
without repeats keeps it so, and collects the words. -/
theorem foldl_insertSorted (l : List String) :
    ∀ acc : List String, acc.Pairwise (· < ·) →
      (l.foldl (fun acc w => insertSorted w acc) acc).Pairwise (· < ·) ∧
        ∀ x, x ∈ l.foldl (fun acc w => insertSorted w acc) acc ↔ x ∈ acc ∨ x ∈ l := by
  induction l with
  | nil => intro acc hacc; exact ⟨hacc, fun x => by simp⟩
  | cons w l ih =>
    intro acc hacc
    obtain ⟨hs, hm⟩ := ih (insertSorted w acc) (pairwise_insertSorted hacc)
    refine ⟨hs, fun x => ?_⟩
    rw [List.foldl_cons, hm, mem_insertSorted, List.mem_cons]
    tauto

theorem outsideSet_outsideWords (V words : List String) :
    OutsideSet V words (outsideWords V words) := by
  obtain ⟨hs, hm⟩ :=
    foldl_insertSorted (words.filter fun w => !V.contains w) [] List.Pairwise.nil
  refine ⟨fun w => ?_, hs.imp utf8Bytes_lt_iff.mpr⟩
  rw [outsideWords, hm]
  simp

theorem outsideWords_eq_nil_iff {V words : List String} :
    outsideWords V words = [] ↔ ∀ w ∈ words, w ∈ V := by
  have hm := (outsideSet_outsideWords V words).1
  constructor
  · intro h w hw
    by_cases hv : w ∈ V
    · exact hv
    · simpa [h] using (hm w).mpr ⟨hw, hv⟩
  · intro h
    apply List.eq_nil_iff_forall_not_mem.mpr
    intro w hw
    exact ((hm w).mp hw).2 (h w ((hm w).mp hw).1)

/-- A set of words has one listing sorted without repeats. -/
theorem OutsideSet.unique {V words S₁ S₂ : List String} (h₁ : OutsideSet V words S₁)
    (h₂ : OutsideSet V words S₂) : S₁ = S₂ :=
  List.Pairwise.eq_of_mem_iff (h₁.2.imp utf8Bytes_lt_iff.mp) (h₂.2.imp utf8Bytes_lt_iff.mp)
    fun w => by rw [h₁.1, h₂.1]

/-! ## 6. The verdict -/

/-- The placeholder words of a comment: its `placeholders` array, none when it has none. -/
def Structured.words (sc : Structured) : List String := sc.placeholders.getD []

/-- The description is present and not empty. -/
def Described (sc : Structured) : Prop := ∃ d, sc.description = some d ∧ d ≠ ""

/-- Every placeholder word is in the vocabulary, and there are as many words, repeats
counted, as the record has placeholders. -/
def WordsFit (V : List String) (r : Record) (sc : Structured) : Prop :=
  (∀ w ∈ sc.words, w ∈ V) ∧ sc.words.length = r.placeholderCount

/-- `img` is present and an absolute URL. -/
def Pictured (sc : Structured) : Prop := ∃ u, sc.img = some u ∧ Url.isValid u = true

/-- The checks on the content of a well-typed comment, in order; each outcome says that the
checks before it passed and its own failed. -/
inductive ContentVerdict (V : List String) (r : Record) (sc : Structured) :
    Option Problem → Prop
  | missingDescription : sc.description = none → ContentVerdict V r sc (some .missingDescription)
  | emptyDescription : sc.description = some "" → ContentVerdict V r sc (some .emptyDescription)
  | invalidPlaceholders {S : List String} : Described sc → OutsideSet V sc.words S → S ≠ [] →
      ContentVerdict V r sc (some (.invalidPlaceholders S))
  | placeholderCountMismatch : Described sc → (∀ w ∈ sc.words, w ∈ V) →
      sc.words.length ≠ r.placeholderCount → ContentVerdict V r sc (some .placeholderCountMismatch)
  | missingScreenshot : Described sc → WordsFit V r sc → sc.img = none →
      ContentVerdict V r sc (some .missingScreenshot)
  | invalidScreenshot {u : String} : Described sc → WordsFit V r sc → sc.img = some u →
      Url.isValid u = false → ContentVerdict V r sc (some .invalidScreenshot)
  | tooLong {m : Int} : Described sc → WordsFit V r sc → Pictured sc →
      sc.maxCharacterCount = some m → (∃ v ∈ r.value, m < Text.clusterCount v) →
      ContentVerdict V r sc (some .tooLong)
  | pass : Described sc → WordsFit V r sc → Pictured sc →
      (∀ m, sc.maxCharacterCount = some m → ∀ v ∈ r.value, (Text.clusterCount v : Int) ≤ m) →
      ContentVerdict V r sc none

/-- **The full validator's verdict on a record.** The comment is invalid JSON unless it
reads as an object whose known members have their types; then the least member name
outside the allowed ones is refused; then the content checks decide. -/
inductive FullVerdict (V : List String) (r : Record) : Option Problem → Prop
  | invalidJson :
      (∀ fields sc, r.comment.bind Json.parse = some (.object fields) → ¬ Describes fields sc) →
      FullVerdict V r (some .invalidJson)
  | invalidKey {fields : List (String × Value)} {sc : Structured} {k : String} :
      r.comment.bind Json.parse = some (.object fields) → Describes fields sc →
      LeastUnknownKey fields k → FullVerdict V r (some (.invalidKey k))
  | checked {fields : List (String × Value)} {sc : Structured} {o : Option Problem} :
      r.comment.bind Json.parse = some (.object fields) → Describes fields sc →
      (∀ k ∈ fields.map Prod.fst, k ∈ allowedKeys) → ContentVerdict V r sc o →
      FullVerdict V r o

theorem exceedsLength_eq_true_iff {values : List String} {m : Int} :
    exceedsLength values m = true ↔ ∃ v ∈ values, m < Text.clusterCount v := by
  simp [exceedsLength]

theorem exceedsLength_eq_false_iff {values : List String} {m : Int} :
    exceedsLength values m = false ↔ ∀ v ∈ values, (Text.clusterCount v : Int) ≤ m := by
  simp [exceedsLength]

/-- A comment's object is sorted, as the reader returns it. -/
theorem comment_object_sorted {r : Record} {fields : List (String × Value)}
    (h : r.comment.bind Json.parse = some (.object fields)) : Fields.Sorted fields := by
  obtain ⟨c, -, hc⟩ := Option.bind_eq_some_iff.mp h
  exact parse_object_sorted hc

theorem validate_of_object {v : Validator} {r : Record} {fields : List (String × Value)}
    (h : r.comment.bind Json.parse = some (.object fields)) :
    v.validate r = (Structured.decode fields).elim (some .invalidJson) (v.check r fields) := by
  rw [Validator.validate, h]
  dsimp only
  cases Structured.decode fields <;> rfl

theorem validate_of_not_object {v : Validator} {r : Record}
    (h : ∀ fields, r.comment.bind Json.parse ≠ some (.object fields)) :
    v.validate r = some .invalidJson := by
  unfold Validator.validate
  split
  · exact absurd ‹_› (h _)
  · rfl

theorem check_full_of_unknownKey {V : List String} {r : Record} {fields : List (String × Value)}
    {sc : Structured} {k : String} (h : unknownKey fields = some k) :
    (Validator.full V).check r fields sc = some (.invalidKey k) := by
  simp [Validator.check, Validator.full, h]

theorem contentVerdict_check {V : List String} {r : Record} {fields : List (String × Value)}
    {sc : Structured} (hk : unknownKey fields = none) :
    ContentVerdict V r sc ((Validator.full V).check r fields sc) := by
  simp only [Validator.check, Validator.full, if_true, hk, reduceCtorEq, if_false]
  have hwords : sc.placeholders.getD [] = sc.words := rfl
  simp only [hwords]
  split
  · exact .missingDescription ‹_›
  · exact .emptyDescription ‹_›
  rename_i d hne hd
  have hD : Described sc := ⟨d, hd, hne⟩
  have hS := outsideSet_outsideWords V sc.words
  split
  · -- a word outside the vocabulary
    rename_i w ws hws
    exact .invalidPlaceholders hD hS (by rw [hws]; exact List.cons_ne_nil w ws)
  rename_i hws
  have hall : ∀ w ∈ sc.words, w ∈ V := outsideWords_eq_nil_iff.mp hws
  split
  · exact .placeholderCountMismatch hD hall ‹_›
  rename_i hlen
  have hfit : WordsFit V r sc := ⟨hall, by simpa using hlen⟩
  split
  · exact .missingScreenshot hD hfit ‹_›
  rename_i u hu
  split
  · rename_i hinvalid
    exact .invalidScreenshot hD hfit hu (by simpa using hinvalid)
  rename_i hvalid
  have hP : Pictured sc := ⟨u, hu, by simpa using hvalid⟩
  split
  · rename_i m hm
    split
    · exact .tooLong hD hfit hP hm (exceedsLength_eq_true_iff.mp ‹_›)
    · rename_i hshort
      refine .pass hD hfit hP fun m' hm' => ?_
      rw [hm, Option.some.injEq] at hm'
      subst hm'
      exact exceedsLength_eq_false_iff.mp (Bool.eq_false_iff.mpr hshort)
  · rename_i hm
    exact .pass hD hfit hP fun m' hm' => by simp [hm] at hm'

theorem check_of_contentVerdict {V : List String} {r : Record} {fields : List (String × Value)}
    {sc : Structured} {o : Option Problem} (hk : unknownKey fields = none)
    (h : ContentVerdict V r sc o) : (Validator.full V).check r fields sc = o := by
  have hwords : sc.placeholders.getD [] = sc.words := rfl
  simp only [Validator.check, Validator.full, if_true, hk, reduceCtorEq, if_false, hwords]
  -- each outcome's premises drive the checks down to it; a description `d` is not empty by
  -- `hne`, which `simp` takes from the context to pass the `some ""` branch
  cases h with
  | missingDescription hd => simp [hd]
  | emptyDescription hd => simp [hd]
  | invalidPlaceholders hD hS hS' =>
    obtain ⟨d, hd, hne⟩ := hD
    rw [← (outsideSet_outsideWords V sc.words).unique hS] at hS' ⊢
    obtain ⟨w, ws, hws⟩ := List.exists_cons_of_ne_nil hS'
    simp [hd, hws]
  | placeholderCountMismatch hD hall hlen =>
    obtain ⟨d, hd, hne⟩ := hD
    simp [hd, outsideWords_eq_nil_iff.mpr hall, hlen]
  | missingScreenshot hD hfit himg =>
    obtain ⟨d, hd, hne⟩ := hD
    simp [hd, outsideWords_eq_nil_iff.mpr hfit.1, hfit.2, himg]
  | invalidScreenshot hD hfit himg hinvalid =>
    obtain ⟨d, hd, hne⟩ := hD
    simp [hd, outsideWords_eq_nil_iff.mpr hfit.1, hfit.2, himg, hinvalid]
  | tooLong hD hfit hP hm hlong =>
    obtain ⟨d, hd, hne⟩ := hD
    obtain ⟨u, himg, hvalid⟩ := hP
    simp [hd, outsideWords_eq_nil_iff.mpr hfit.1, hfit.2, himg, hvalid, hm,
      exceedsLength_eq_true_iff.mpr hlong]
  | pass hD hfit hP hshort =>
    obtain ⟨d, hd, hne⟩ := hD
    obtain ⟨u, himg, hvalid⟩ := hP
    cases hm : sc.maxCharacterCount with
    | none => simp [hd, outsideWords_eq_nil_iff.mpr hfit.1, hfit.2, himg, hvalid]
    | some m =>
      have hfits : exceedsLength r.value m = false :=
        exceedsLength_eq_false_iff.mpr (hshort m hm)
      simp [hd, outsideWords_eq_nil_iff.mpr hfit.1, hfit.2, himg, hvalid, hfits]

/-! ## 7. The full validator answers its verdict -/

theorem fullVerdict_validate (V : List String) (r : Record) :
    FullVerdict V r ((Validator.full V).validate r) := by
  by_cases hobj : ∃ fields, r.comment.bind Json.parse = some (.object fields)
  · obtain ⟨fields, hp⟩ := hobj
    rw [validate_of_object hp]
    cases hdec : Structured.decode fields with
    | none =>
      -- no structured comment describes the object: the typed reading would accept it
      refine .invalidJson fun fields' sc hp' hD => ?_
      rw [hp, Option.some.injEq, Value.object.injEq] at hp'
      subst hp'
      simp [decode_eq_some_iff.mpr hD] at hdec
    | some sc =>
      have hD := decode_eq_some_iff.mp hdec
      dsimp only [Option.elim]
      cases hk : unknownKey fields with
      | some k =>
        rw [check_full_of_unknownKey hk]
        exact .invalidKey hp hD (leastUnknownKey_of_unknownKey (comment_object_sorted hp) hk)
      | none => exact .checked hp hD (unknownKey_eq_none_iff.mp hk) (contentVerdict_check hk)
  · rw [validate_of_not_object fun fields h => hobj ⟨fields, h⟩]
    exact .invalidJson fun fields _ h => absurd ⟨fields, h⟩ hobj

theorem validate_of_fullVerdict {V : List String} {r : Record} {o : Option Problem}
    (h : FullVerdict V r o) : (Validator.full V).validate r = o := by
  cases h with
  | invalidJson hno =>
    by_cases hobj : ∃ fields, r.comment.bind Json.parse = some (.object fields)
    · obtain ⟨fields, hp⟩ := hobj
      rw [validate_of_object hp]
      cases hdec : Structured.decode fields with
      | none => rfl
      | some sc => exact absurd (decode_eq_some_iff.mp hdec) (hno fields sc hp)
    · exact validate_of_not_object fun fields h => hobj ⟨fields, h⟩
  | invalidKey hp hD hleast =>
    rw [validate_of_object hp, decode_eq_some_iff.mpr hD]
    dsimp only [Option.elim]
    -- the validator finds some unknown name, the least one, which is `k`
    cases hk : unknownKey _ with
    | none => exact absurd (unknownKey_eq_none_iff.mp hk _ hleast.1) hleast.2.1
    | some k' =>
      rw [check_full_of_unknownKey hk,
        (leastUnknownKey_of_unknownKey (comment_object_sorted hp) hk).unique hleast]
  | checked hp hD hall hc =>
    rw [validate_of_object hp, decode_eq_some_iff.mpr hD]
    exact check_of_contentVerdict (unknownKey_eq_none_iff.mpr hall) hc

/-- **The full validator reports the first failing check.** For every vocabulary `V` and
record `r`, `(Validator.full V).validate r` is `o` exactly when `o` is the verdict that the
checks give in order: invalid JSON (no comment, no JSON, no object, or a known member of the
wrong type), the least unknown member name in UTF-8 byte order, a missing or empty
description, the words outside `V` listed once each in byte order, a word count other than
the record's placeholder count, a missing or invalid screenshot URL, a value longer than
`max_character_count`; and `none` when every check passes. -/
theorem validate_full_iff (V : List String) (r : Record) (o : Option Problem) :
    (Validator.full V).validate r = o ↔ FullVerdict V r o :=
  ⟨fun h => h ▸ fullVerdict_validate V r, validate_of_fullVerdict⟩

end L10nLint.Comment
