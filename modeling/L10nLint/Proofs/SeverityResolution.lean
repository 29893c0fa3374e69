import Mathlib.Data.List.TakeWhile
import L10nLint.Proofs.CommentRuleReport

/-
# Resolving a severity from a rule's block

A rule grades a kind of finding by its block of options, falling back in a fixed order: the
severity that the block's `severity_map` table names for the kind, else the one that `severity`
names, else the caller's default; a rule with no block takes the default, and the rule-level
severity skips the first step. Each step takes a value only when it is a string that names a
severity, so a broken entry of the map falls back to the block's `severity` and not to the
default.

A text names a severity when, trimmed of `White_Space` at both ends, it spells `none`, `warning`
or `error` with each letter in either ASCII case.

* `Trimmed` says declaratively what trimming leaves, and `Text.trimChars` leaves exactly that
  (`trimmed_iff`).
* `Severity.parse?_eq_some_iff`: the texts that name a severity.
* `SeverityPolicy.resolve_ofRule_order` (**main statement**): the fallback order, for every block
  whose `severity_map` is a TOML table (one entry per key), every default and every kind.
-/

namespace L10nLint

open L10nLint.Unicode

/-! ## 1. Trimming -/

/-- `t` is `cs` trimmed of `White_Space`: `cs` is `t` with white space before and after it, and
`t` neither begins nor ends with white space. -/
def Trimmed (cs t : List Char) : Prop :=
  ∃ pre suf, cs = pre ++ t ++ suf ∧ (∀ c ∈ pre, isWhiteSpace c = true) ∧
    (∀ c ∈ suf, isWhiteSpace c = true) ∧ (∀ c ∈ t.head?, isWhiteSpace c = false) ∧
    ∀ c ∈ t.getLast?, isWhiteSpace c = false

/-- Dropping a prefix that `p` holds of, up to a rest that does not begin with such a
character, leaves the rest. -/
theorem dropWhile_append_eq {p : Char → Bool} {pre rest : List Char} (hpre : ∀ c ∈ pre, p c)
    (hrest : ∀ c ∈ rest.head?, p c = false) : (pre ++ rest).dropWhile p = rest := by
  rw [List.dropWhile_append_of_pos hpre]
  cases rest with
  | nil => rfl
  | cons c r => exact List.dropWhile_cons_of_neg (by simpa using hrest c rfl)

theorem head?_dropWhile_false {p : Char → Bool} {cs : List Char} :
    ∀ c ∈ (cs.dropWhile p).head?, p c = false := by
  intro c hc
  have h := List.head?_dropWhile_not p cs
  rw [Option.mem_def.mp hc] at h
  exact h

/-- What `trimChars` leaves is `cs` trimmed. -/
theorem trimmed_trimChars (cs : List Char) : Trimmed cs (Text.trimChars cs) := by
  -- `cs` is its leading white space, then `m`; `m` reversed is its trailing white space
  -- reversed, then what `trimChars` leaves, reversed
  set m := cs.dropWhile isWhiteSpace with hm
  have hcs : cs = cs.takeWhile isWhiteSpace ++ m := List.takeWhile_append_dropWhile.symm
  have hrev : m.reverse = m.reverse.takeWhile isWhiteSpace ++ m.reverse.dropWhile isWhiteSpace :=
    List.takeWhile_append_dropWhile.symm
  have htrim : Text.trimChars cs = (m.reverse.dropWhile isWhiteSpace).reverse := rfl
  have hm' : m = (m.reverse.dropWhile isWhiteSpace).reverse ++
      (m.reverse.takeWhile isWhiteSpace).reverse := by
    rw [← List.reverse_append, ← hrev, List.reverse_reverse]
  refine ⟨cs.takeWhile isWhiteSpace, (m.reverse.takeWhile isWhiteSpace).reverse, ?_,
    fun c hc => List.mem_takeWhile_imp hc,
    fun c hc => List.mem_takeWhile_imp (List.mem_reverse.mp hc), ?_, ?_⟩
  · rw [htrim, List.append_assoc, ← hm']
    exact hcs
  · -- the first character left is the first of `m`
    intro c hc
    have hne : Text.trimChars cs ≠ [] := by
      rintro h
      rw [h] at hc
      simp at hc
    have hhead : m.head? = (Text.trimChars cs).head? := by
      rw [hm', ← htrim, List.head?_append_of_ne_nil _ hne]
    exact head?_dropWhile_false c (hm ▸ hhead ▸ hc)
  · intro c hc
    rw [htrim, List.getLast?_reverse] at hc
    exact head?_dropWhile_false c hc

/-- Trimming leaves one text: the one `trimChars` leaves. -/
theorem Trimmed.eq_trimChars {cs t : List Char} (h : Trimmed cs t) : t = Text.trimChars cs := by
  obtain ⟨pre, suf, rfl, hpre, hsuf, hhead, hlast⟩ := h
  cases t with
  | nil =>
    -- nothing but white space
    have hall : ∀ c ∈ pre ++ [] ++ suf, isWhiteSpace c = true := by
      intro c hc
      rcases List.mem_append.mp hc with hc | hc
      · exact hpre c (by simpa using hc)
      · exact hsuf c hc
    have hstart : Text.trimStart (pre ++ [] ++ suf) = [] := List.dropWhile_eq_nil_iff.mpr hall
    rw [Text.trimChars, hstart]
    rfl
  | cons a t =>
    have hstart : Text.trimStart (pre ++ (a :: t) ++ suf) = a :: t ++ suf := by
      rw [Text.trimStart, List.append_assoc]
      exact dropWhile_append_eq hpre (by simpa using hhead)
    have hend : Text.trimStart (suf.reverse ++ (a :: t).reverse) = (a :: t).reverse := by
      refine dropWhile_append_eq (fun c hc => hsuf c (List.mem_reverse.mp hc)) ?_
      rwa [List.head?_reverse]
    rw [Text.trimChars, hstart, List.reverse_append, hend, List.reverse_reverse]

theorem trimmed_iff {cs t : List Char} : Trimmed cs t ↔ t = Text.trimChars cs :=
  ⟨Trimmed.eq_trimChars, fun h => h ▸ trimmed_trimChars cs⟩

/-! ## 2. Names up to ASCII case -/

/-- `t` spells `name`, each letter in either ASCII case. -/
def SpelledAs (t : List Char) (name : String) : Prop :=
  List.Forall₂ (fun c d => c = d ∨ c = d.toUpper) t name.toList

theorem toNat_ofNat_of_lt {n : Nat} (h : n < 0xd800) : (Char.ofNat n).toNat = n := by
  have hv : n.isValidChar := Or.inl h
  rw [Char.ofNat, dif_pos hv]
  rfl

theorem char_le_iff_toNat_le {a b : Char} : a ≤ b ↔ a.toNat ≤ b.toNat := by
  rw [Char.le_def, UInt32.le_iff_toNat_le]
  rfl

theorem toNat_asciiLower (c : Char) :
    (Text.asciiLower c).toNat = if 65 ≤ c.toNat ∧ c.toNat ≤ 90 then c.toNat + 32 else c.toNat := by
  have hA : ('A' : Char).toNat = 65 := rfl
  have hZ : ('Z' : Char).toNat = 90 := rfl
  unfold Text.asciiLower
  simp only [char_le_iff_toNat_le, hA, hZ]
  split_ifs with h
  · exact toNat_ofNat_of_lt (by omega)
  · rfl

theorem toNat_toUpper_of_lower {d : Char} (h : 97 ≤ d.toNat ∧ d.toNat ≤ 122) :
    d.toUpper.toNat = d.toNat - 32 := by
  have hall : ∀ n < 128, 97 ≤ n → n ≤ 122 → (Char.ofNat n).toUpper.toNat = n - 32 := by decide
  simpa using hall d.toNat (by omega) h.1 h.2

/-- Folding ASCII letters to lower case gives a lower-case letter from that letter and from its
capital only. -/
theorem asciiLower_eq_iff {c d : Char} (hd : 97 ≤ d.toNat ∧ d.toNat ≤ 122) :
    Text.asciiLower c = d ↔ c = d ∨ c = d.toUpper := by
  rw [← Char.toNat_inj, ← Char.toNat_inj, ← Char.toNat_inj, toNat_asciiLower,
    toNat_toUpper_of_lower hd]
  split_ifs <;> omega

theorem map_asciiLower_eq_iff {t l : List Char} (hl : ∀ d ∈ l, 97 ≤ d.toNat ∧ d.toNat ≤ 122) :
    t.map Text.asciiLower = l ↔ List.Forall₂ (fun c d => c = d ∨ c = d.toUpper) t l := by
  induction t generalizing l with
  | nil => simp [eq_comm]
  | cons c t ih =>
    cases l with
    | nil => simp
    | cons d l =>
      rw [List.map_cons, List.cons.injEq, List.forall₂_cons,
        asciiLower_eq_iff (hl d List.mem_cons_self),
        ih fun d' hd' => hl d' (List.mem_cons_of_mem d hd')]

/-! ## 3. The texts that name a severity -/

theorem Severity.name_lower (v : Severity) : ∀ d ∈ v.name.toList, 97 ≤ d.toNat ∧ d.toNat ≤ 122 := by
  cases v <;> simp [Severity.name]

theorem Severity.ofName?_eq_some_iff {x : String} {v : Severity} :
    Severity.ofName? x = some v ↔ x = v.name := by
  unfold Severity.ofName?
  split <;> cases v <;> simp_all [Severity.name]

theorem Severity.parse?_eq (s : String) :
    Severity.parse? s = Severity.ofName? (Text.asciiLowerString (Text.trim s)) := by
  unfold Severity.parse? Severity.parse
  cases Severity.ofName? (Text.asciiLowerString (Text.trim s)) <;> rfl

/-- **The texts that name a severity**: those that, trimmed of `White_Space` at both ends, spell
the severity's name with each letter in either ASCII case. -/
theorem Severity.parse?_eq_some_iff {s : String} {v : Severity} :
    Severity.parse? s = some v ↔ ∃ t, Trimmed s.toList t ∧ SpelledAs t v.name := by
  rw [Severity.parse?_eq, Severity.ofName?_eq_some_iff, ← String.toList_inj,
    Text.asciiLowerString, Text.trim, String.toList_ofList, String.toList_ofList,
    map_asciiLower_eq_iff v.name_lower]
  constructor
  · exact fun h => ⟨_, trimmed_trimChars s.toList, h⟩
  · rintro ⟨t, ht, hspelled⟩
    rwa [← ht.eq_trimChars]

/-! ## 4. The fallback order -/

/-- The severity a block's `severity_map` table names for a kind: the table's entry for the
kind, when it is a string that names a severity. -/
def RuleOptions.mapSeverity (o : RuleOptions) (kind : String) : Option Severity :=
  match o.entries.lookup "severity_map" with
  | some (.table entries) => (entries.lookup kind).bind Toml.Value.severity?
  | _ => none

/-- The severity a block's `severity` names, when it is a string that names one. -/
def RuleOptions.ruleSeverity (o : RuleOptions) : Option Severity :=
  (o.entries.lookup "severity").bind Toml.Value.severity?

/-- In a table with one entry per key, the entries under a key are its entry, if any. -/
theorem filter_key_eq_lookup {β : Type} (key : String) :
    ∀ m : List (String × β), (m.map Prod.fst).Nodup →
      (m.filter (·.1 == key)).map (·.2) = (m.lookup key).toList
  | [], _ => rfl
  | (k, v) :: rest, hnodup => by
    rw [List.map_cons, List.nodup_cons] at hnodup
    by_cases hk : k = key
    · -- the entry is the only one under its key
      subst hk
      have hnone : rest.filter (·.1 == k) = [] := by
        exact List.filter_eq_nil_iff.mpr fun p hp hpk =>
          hnodup.1 (List.mem_map.mpr ⟨p, hp, beq_iff_eq.mp hpk⟩)
      simp [hnone]
    · have hne : (key == k) = false := beq_false_of_ne (Ne.symm hk)
      simp [hk, List.lookup_cons, hne, filter_key_eq_lookup key rest hnodup.2]

theorem head?_filterMap_toList {α β : Type} (f : α → Option β) (o : Option α) :
    (o.toList.filterMap f).head? = o.bind f := by
  cases o with
  | none => rfl
  | some a => cases h : f a <;> simp [h]

/-- In a block whose `severity_map` is a TOML table, the first severity the map names for a kind
is the one its entry for the kind names. -/
theorem RuleOptions.first_severityEntries {o : RuleOptions} (kind : String)
    (hmap : ∀ m, o.entries.lookup "severity_map" = some (.table m) → (m.map Prod.fst).Nodup) :
    ((o.severityEntries kind).filterMap Toml.Value.severity?).head? = o.mapSeverity kind := by
  unfold RuleOptions.severityEntries RuleOptions.mapSeverity
  cases hm : o.entries.lookup "severity_map" with
  | none => rfl
  | some v =>
    cases v with
    | table m =>
      dsimp only
      rw [filter_key_eq_lookup kind m (hmap m hm), head?_filterMap_toList]
    | string _ | integer _ | float _ | boolean _ | datetime _ | array _ => rfl

theorem SeverityPolicy.default_ofRule (block : Option RuleOptions) (d : Severity) :
    (SeverityPolicy.ofRule block d).default = (block.bind RuleOptions.ruleSeverity).getD d := by
  cases block with
  | none => rfl
  | some o => exact congrArg (·.getD d) (RuleOptions.bind_string? o "severity")

/-- **How a rule's block grades a kind of finding.** For every block whose `severity_map` is a
TOML table, every default `d` and every kind: with no block the grade is `d`; else it is the
severity the map's entry for the kind names, else the one `severity` names, else `d`, where a
value names a severity when it is a string that, trimmed of `White_Space`, spells `none`,
`warning` or `error` in any ASCII case. The rule-level severity is the same without the map. -/
theorem SeverityPolicy.resolve_ofRule_order (block : Option RuleOptions) (d : Severity)
    (kind : String)
    (hmap : ∀ o ∈ block, ∀ m, o.entries.lookup "severity_map" = some (.table m) →
      (m.map Prod.fst).Nodup) :
    (SeverityPolicy.ofRule block d).resolve kind =
        (block.bind fun o => (o.mapSeverity kind).or o.ruleSeverity).getD d ∧
      (SeverityPolicy.ofRule block d).default = (block.bind RuleOptions.ruleSeverity).getD d ∧
      ∀ s v, Severity.parse? s = some v ↔ ∃ t, Trimmed s.toList t ∧ SpelledAs t v.name := by
  refine ⟨?_, SeverityPolicy.default_ofRule block d, fun s v => Severity.parse?_eq_some_iff⟩
  cases block with
  | none => rfl
  | some o =>
    rw [SeverityPolicy.resolve, lookup_overrides, o.first_severityEntries kind (hmap o rfl),
      SeverityPolicy.default_ofRule, Option.bind_some, Option.bind_some, Option.getD_or]

/-- A block whose map names no severity for `missingDescription` (`loud`) and whose `severity`
is ` Error` with a tab after it: that kind is graded an error, the rule's own severity. -/
theorem SeverityPolicy.resolve_ofRule_order_loud :
    (∀ o ∈ some (⟨[("severity", .string " Error\t"), ("severity_map",
        .table [("missingDescription", .string "loud"), ("emptyDescription", .string "NONE")])]⟩ :
          RuleOptions),
      ∀ m, o.entries.lookup "severity_map" = some (.table m) → (m.map Prod.fst).Nodup) ∧
    (SeverityPolicy.ofRule (some ⟨[("severity", .string " Error\t"), ("severity_map",
        .table [("missingDescription", .string "loud"), ("emptyDescription", .string "NONE")])]⟩)
        .warning).resolve "missingDescription" = .error := by
  have hmap : ∀ o ∈ some (⟨[("severity", .string " Error\t"), ("severity_map",
      .table [("missingDescription", .string "loud"), ("emptyDescription", .string "NONE")])]⟩ :
        RuleOptions),
      ∀ m, o.entries.lookup "severity_map" = some (.table m) → (m.map Prod.fst).Nodup := by
    intro o ho m hm
    rw [Option.mem_def, Option.some.injEq] at ho
    subst ho
    have hlookup : List.lookup "severity_map" [("severity", Toml.Value.string " Error\t"),
        ("severity_map", .table [("missingDescription", .string "loud"),
          ("emptyDescription", .string "NONE")])] =
        some (.table [("missingDescription", .string "loud"),
          ("emptyDescription", .string "NONE")]) := rfl
    rw [hlookup, Option.some.injEq, Toml.Value.table.injEq] at hm
    subst hm
    decide
  refine ⟨hmap, ?_⟩
  rw [(SeverityPolicy.resolve_ofRule_order _ .warning "missingDescription" hmap).1]
  decide

end L10nLint
