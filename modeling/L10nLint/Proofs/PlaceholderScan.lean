import L10nLint.Placeholder

/-
# The placeholder count as a left-to-right scan

`Placeholder.count` computes, at each `%`, how far the escape, the plural reference or the
placeholder reaches, with `dropWhile`, `findIdx?` and a list of position choices. This file
states what those forms are, piece by piece as their pattern is written,

    skip:        %%   or   %(digits$)?#@name@          (name: no `@`, no white space)
    placeholder: %(digits$)?[-+0#']*(digits|*)?(.(digits|*))?(hh|h|ll|l|q|L|z|t|j)?conversion

and a scan `Scan cs n` that walks the text from the left: a character other than `%` is passed
over, and at a `%` the escape is tried first, then a plural reference, then a placeholder
(counted), and a `%` where none matches is passed over alone.

The pieces before the conversion character never hold a conversion character, so a placeholder
ends at the first conversion character after its `%` whichever way its pieces are cut
(`specifierLength_eq_some_iff`); a plural name holds no `@`, so a plural reference ends at the
first `@` after `#@` (`pluralReferenceLength_eq_some_iff`). The greedy flags may swallow the
leading zeros of a width, which the pattern reads as part of the width: `isSpecifierBody_iff`
shows that this changes nothing.

**Main statement** (`count_eq_iff_scan`): `count s = n` exactly when the scan of `s` counts `n`.
So the scan has one outcome on every text, and it is the count.
-/

namespace L10nLint.Placeholder

open L10nLint.Unicode

/-! ## 1. The pattern's pieces -/

/-- One or more decimal digits, of any script. -/
def Digits (ds : List Char) : Prop := ds ≠ [] ∧ ∀ d ∈ ds, isDecimalDigit d = true

/-- An optional position: nothing, or `digits$`. -/
def Position (pos : List Char) : Prop := pos = [] ∨ ∃ ds, Digits ds ∧ pos = ds ++ ['$']

/-- Flag characters, any number of them. -/
def Flags (fl : List Char) : Prop := ∀ c ∈ fl, c ∈ flags

/-- An optional width: nothing, `*` or digits. -/
def Width (w : List Char) : Prop := w = [] ∨ w = ['*'] ∨ Digits w

/-- An optional precision: nothing, `.*` or `.` and digits. -/
def Precision (pr : List Char) : Prop := pr = [] ∨ pr = ['.', '*'] ∨ ∃ ds, Digits ds ∧ pr = '.' :: ds

/-- An optional length modifier. -/
def Length (len : List Char) : Prop := len = [] ∨ len ∈ lengthModifiers

/-- Flags, width, precision and length, in this order. -/
def Modifiers (b : List Char) : Prop :=
  ∃ fl w pr len, Flags fl ∧ Width w ∧ Precision pr ∧ Length len ∧ b = fl ++ w ++ pr ++ len

/-- What stands between a placeholder's `%` and its conversion character. -/
def SpecifierBody (u : List Char) : Prop := ∃ pos b, Position pos ∧ Modifiers b ∧ u = pos ++ b

/-- A plural variable's name: no `@` and no white space. -/
def PluralName (name : List Char) : Prop := ∀ c ∈ name, c ≠ '@' ∧ isWhiteSpace c = false

/-- A plural reference after its `%`: `(digits$)?#@name@`. -/
def PluralReference (u : List Char) : Prop :=
  ∃ pos name, Position pos ∧ PluralName name ∧ u = pos ++ '#' :: '@' :: (name ++ ['@'])

/-- A plural reference starts the text. -/
def PluralAt (cs : List Char) : Prop := ∃ u r, PluralReference u ∧ cs = u ++ r

/-- A placeholder, up to its conversion character, starts the text. -/
def PlaceholderAt (cs : List Char) : Prop :=
  ∃ u c r, SpecifierBody u ∧ c ∈ conversions ∧ cs = u ++ c :: r

/-- **The scan.** `Scan cs n`: scanning `cs` from the left counts `n` placeholders. At a `%` the
forms are tried in order, each only where the ones before it do not match. -/
inductive Scan : List Char → Nat → Prop
  | nil : Scan [] 0
  | literal {c : Char} {cs : List Char} {n : Nat} : c ≠ '%' → Scan cs n → Scan (c :: cs) n
  | escape {cs : List Char} {n : Nat} : Scan cs n → Scan ('%' :: '%' :: cs) n
  | plural {cs u r : List Char} {n : Nat} : cs.head? ≠ some '%' → PluralReference u →
      cs = u ++ r → Scan r n → Scan ('%' :: cs) n
  | placeholder {cs u r : List Char} {c : Char} {n : Nat} : cs.head? ≠ some '%' →
      ¬ PluralAt cs → SpecifierBody u → c ∈ conversions → cs = u ++ c :: r → Scan r n →
      Scan ('%' :: cs) (n + 1)
  | lone {cs : List Char} {n : Nat} : cs.head? ≠ some '%' → ¬ PluralAt cs →
      ¬ PlaceholderAt cs → Scan cs n → Scan ('%' :: cs) n

/-! ## 2. Which characters the pieces are made of -/

/-- No conversion character is a digit or a flag. -/
theorem conversion_facts {c : Char} (hc : c ∈ conversions) :
    isDecimalDigit c = false ∧ c ∉ flags := by
  have hall : conversions.all (fun c => !isDecimalDigit c && !flags.contains c) = true := by
    decide
  simpa using List.all_eq_true.mp hall c hc

/-- The letters of a length modifier are none of the other pieces' characters. -/
theorem lengthModifier_facts {m : List Char} (hm : m ∈ lengthModifiers) {c : Char} (hc : c ∈ m) :
    isDecimalDigit c = false ∧ c ≠ '.' ∧ c ≠ '*' ∧ c ∉ flags ∧ c ∉ conversions := by
  have hall : lengthModifiers.all (fun m => m.all fun c => !isDecimalDigit c && c != '.' &&
      c != '*' && !flags.contains c && !conversions.contains c) = true := by
    decide
  simpa [and_assoc] using List.all_eq_true.mp (List.all_eq_true.mp hall m hm) c hc

theorem flag_not_conversion {c : Char} (hc : c ∈ flags) : c ∉ conversions := by
  have hall : flags.all (fun c => !conversions.contains c) = true := by decide
  simpa using List.all_eq_true.mp hall c hc

theorem dot_facts : isDecimalDigit '.' = false ∧ '.' ∉ flags ∧ '.' ∉ conversions := by decide

theorem star_facts : isDecimalDigit '*' = false ∧ '*' ∉ flags ∧ '*' ∉ conversions := by decide

theorem dollar_facts : isDecimalDigit '$' = false ∧ '$' ∉ conversions := by decide

theorem hash_not_digit : isDecimalDigit '#' = false := by decide

theorem digit_not_conversion {c : Char} (hc : isDecimalDigit c = true) : c ∉ conversions :=
  fun hconv => absurd hc (by simp [(conversion_facts hconv).1])

theorem digit_ne_star {c : Char} (hc : isDecimalDigit c = true) : c ≠ '*' := by
  rintro rfl
  exact absurd hc (by simp [star_facts.1])

/-! ## 3. Greedy runs -/

theorem of_mem_takeWhile {p : Char → Bool} {l : List Char} {x : Char} (hx : x ∈ l.takeWhile p) :
    p x = true :=
  List.all_eq_true.mp List.all_takeWhile x hx

/-- A run of characters that pass `p`, followed by text that does not start with one, is
what `takeWhile` takes and `dropWhile` leaves. -/
theorem span_append {p : Char → Bool} {xs r : List Char} (hxs : ∀ x ∈ xs, p x = true)
    (hr : ∀ c rest, r = c :: rest → p c = false) :
    (xs ++ r).takeWhile p = xs ∧ (xs ++ r).dropWhile p = r := by
  induction xs with
  | nil =>
    cases r with
    | nil => exact ⟨rfl, rfl⟩
    | cons c rest => simp [hr c rest rfl]
  | cons x xs ih =>
    have hx : p x = true := hxs x List.mem_cons_self
    obtain ⟨htake, hdrop⟩ := ih fun y hy => hxs y (List.mem_cons_of_mem x hy)
    simp [hx, htake, hdrop]

theorem width_of_digits {ds : List Char} (h : ∀ d ∈ ds, isDecimalDigit d = true) : Width ds := by
  cases ds with
  | nil => exact Or.inl rfl
  | cons d rest => exact Or.inr (Or.inr ⟨List.cons_ne_nil d rest, h⟩)

/-! ## 4. The position -/

/-- Text that does not start with a digit has no position. -/
theorem dropPosition_cons_of_not_digit {c : Char} (hc : isDecimalDigit c = false)
    (rest : List Char) : dropPosition (c :: rest) = c :: rest := by
  unfold dropPosition
  rw [List.dropWhile_cons_of_neg (by simp [hc]), List.takeWhile_cons_of_neg (by simp [hc])]
  split <;> simp

/-- Digits and a `$` are dropped as the position. -/
theorem dropPosition_digits {ds : List Char} (hds : Digits ds) (rest : List Char) :
    dropPosition (ds ++ '$' :: rest) = rest := by
  obtain ⟨htake, hdrop⟩ := span_append (r := '$' :: rest) hds.2 fun c r h => by
    cases h
    exact dollar_facts.1
  unfold dropPosition
  rw [hdrop, htake]
  simp [hds.1]

/-- Before the text `dropPosition` leaves there is a position. -/
theorem position_dropPosition (cs : List Char) : ∃ pos, Position pos ∧ cs = pos ++ dropPosition cs := by
  unfold dropPosition
  split
  · rename_i rest hdrop
    split
    · exact ⟨[], Or.inl rfl, rfl⟩
    · rename_i hne
      refine ⟨cs.takeWhile isDecimalDigit ++ ['$'],
        Or.inr ⟨_, ⟨by simpa using hne, fun d hd => of_mem_takeWhile hd⟩, rfl⟩, ?_⟩
      calc cs = cs.takeWhile isDecimalDigit ++ cs.dropWhile isDecimalDigit :=
            List.takeWhile_append_dropWhile.symm
        _ = _ := by rw [hdrop]; simp
  · exact ⟨[], Or.inl rfl, rfl⟩

/-- A position followed by a character that is not a digit is what `dropPosition` drops. -/
theorem dropPosition_position_append {pos : List Char} (hpos : Position pos) {c : Char}
    (hc : isDecimalDigit c = false) (rest : List Char) :
    dropPosition (pos ++ c :: rest) = c :: rest := by
  rcases hpos with rfl | ⟨ds, hds, rfl⟩
  · exact dropPosition_cons_of_not_digit hc rest
  · rw [List.append_assoc, List.singleton_append, dropPosition_digits hds]

theorem self_mem_positionChoices (t : List Char) : t ∈ positionChoices t := by
  unfold positionChoices
  split <;> simp

theorem dropPosition_mem_positionChoices (t : List Char) : dropPosition t ∈ positionChoices t := by
  unfold positionChoices
  split <;> simp [*]

theorem mem_positionChoices_of_position {pos b : List Char} (hpos : Position pos) :
    b ∈ positionChoices (pos ++ b) := by
  rcases hpos with rfl | ⟨ds, hds, rfl⟩
  · exact self_mem_positionChoices b
  · have h := dropPosition_mem_positionChoices (ds ++ '$' :: b)
    rw [dropPosition_digits hds] at h
    rwa [List.append_assoc, List.singleton_append]

/-- Each alternative of `positionChoices` is the text after a position. -/
theorem position_of_mem_positionChoices {t b : List Char} (h : b ∈ positionChoices t) :
    ∃ pos, Position pos ∧ t = pos ++ b := by
  unfold positionChoices at h
  split at h
  · rw [List.mem_singleton] at h
    subst h
    exact ⟨[], Or.inl rfl, rfl⟩
  · rcases List.mem_cons.mp h with rfl | h
    · exact position_dropPosition t
    · rw [List.mem_singleton] at h
      subst h
      exact ⟨[], Or.inl rfl, rfl⟩

/-! ## 5. Flags, width, precision and length -/

theorem flags_takeWhile (b : List Char) : Flags (b.takeWhile (· ∈ flags)) :=
  fun c hc => by simpa using of_mem_takeWhile hc

/-- What `dropWidth` drops is a width. -/
theorem width_dropWidth (b : List Char) : ∃ w, Width w ∧ b = w ++ dropWidth b := by
  unfold dropWidth
  split
  · exact ⟨['*'], Or.inr (Or.inl rfl), rfl⟩
  · exact ⟨_, width_of_digits fun d hd => of_mem_takeWhile hd, List.takeWhile_append_dropWhile.symm⟩

/-- What `dropPrecision` drops is a precision. -/
theorem precision_dropPrecision {b b' : List Char} (h : dropPrecision b = some b') :
    ∃ pr, Precision pr ∧ b = pr ++ b' := by
  unfold dropPrecision at h
  split at h
  · cases h
    exact ⟨['.', '*'], Or.inr (Or.inl rfl), rfl⟩
  · rename_i rest _
    split at h
    · cases h
    · rename_i hne
      cases h
      refine ⟨'.' :: rest.takeWhile isDecimalDigit,
        Or.inr (Or.inr ⟨_, ⟨by simpa using hne, fun d hd => of_mem_takeWhile hd⟩, rfl⟩), ?_⟩
      simp
  · cases h
    exact ⟨[], Or.inl rfl, rfl⟩

/-- What `isSpecifierBody` accepts is flags, width, precision and length. -/
theorem modifiers_of_isSpecifierBody {b : List Char} (h : isSpecifierBody b = true) :
    Modifiers b := by
  unfold isSpecifierBody at h
  split at h
  · rename_i rest hrest
    obtain ⟨w, hw, hwsplit⟩ := width_dropWidth (b.dropWhile (· ∈ flags))
    obtain ⟨pr, hpr, hprsplit⟩ := precision_dropPrecision hrest
    have hlen : Length rest := by
      simpa [Length, List.isEmpty_iff] using h
    refine ⟨_, w, pr, rest, flags_takeWhile b, hw, hpr, hlen, ?_⟩
    calc b = b.takeWhile (· ∈ flags) ++ b.dropWhile (· ∈ flags) :=
          List.takeWhile_append_dropWhile.symm
      _ = b.takeWhile (· ∈ flags) ++ (w ++ (pr ++ rest)) := by rw [hwsplit, hprsplit]
      _ = _ := by simp only [List.append_assoc]
  · cases h

/-- A length modifier starts with a letter that no other piece uses. -/
theorem head_length {len : List Char} (hlen : Length len) {c : Char} {rest : List Char}
    (h : len = c :: rest) : isDecimalDigit c = false ∧ c ≠ '.' ∧ c ≠ '*' ∧ c ∉ flags := by
  rcases hlen with rfl | hm
  · cases h
  · obtain ⟨hd, hdot, hstar, hflag, -⟩ := lengthModifier_facts hm (c := c) (by
      rw [h]
      exact List.mem_cons_self)
    exact ⟨hd, hdot, hstar, hflag⟩

/-- What follows a width (a precision, then a length) never starts with a digit, a `*` or a
flag. -/
theorem head_precision_append {pr len : List Char} (hpr : Precision pr) (hlen : Length len)
    {c : Char} {rest : List Char} (h : pr ++ len = c :: rest) :
    isDecimalDigit c = false ∧ c ≠ '*' ∧ c ∉ flags := by
  rcases hpr with rfl | rfl | ⟨ds, -, rfl⟩
  · obtain ⟨hd, -, hstar, hflag⟩ := head_length hlen h
    exact ⟨hd, hstar, hflag⟩
  · cases h
    exact ⟨dot_facts.1, by decide, dot_facts.2.1⟩
  · cases h
    exact ⟨dot_facts.1, by decide, dot_facts.2.1⟩

theorem dropPrecision_cons_of_ne {c : Char} (hc : c ≠ '.') (rest : List Char) :
    dropPrecision (c :: rest) = some (c :: rest) := by
  unfold dropPrecision
  split <;> simp_all

theorem dropPrecision_append {pr len : List Char} (hpr : Precision pr) (hlen : Length len) :
    dropPrecision (pr ++ len) = some len := by
  rcases hpr with rfl | rfl | ⟨ds, hds, rfl⟩
  · cases len with
    | nil => rfl
    | cons c rest => exact dropPrecision_cons_of_ne (head_length hlen rfl).2.1 rest
  · rfl
  · obtain ⟨htake, hdrop⟩ := span_append hds.2 fun c rest h => (head_length hlen h).1
    obtain ⟨d, ds', rfl⟩ := List.exists_cons_of_ne_nil hds.1
    have hd : d ≠ '*' := digit_ne_star (hds.2 d List.mem_cons_self)
    unfold dropPrecision
    split
    · rename_i heq
      exact absurd (List.cons.inj (List.cons.inj heq).2).1 hd
    · rename_i rest' _ heq
      cases heq
      rw [List.append_eq, htake, hdrop]
      simp
    · simp_all

theorem dropWidth_cons_of_ne {c : Char} (hc : c ≠ '*') (rest : List Char) :
    dropWidth (c :: rest) = (c :: rest).dropWhile isDecimalDigit := by
  unfold dropWidth
  split <;> simp_all

theorem dropWidth_append {w r : List Char} (hw : Width w)
    (hr : ∀ c rest, r = c :: rest → isDecimalDigit c = false ∧ c ≠ '*') :
    dropWidth (w ++ r) = r := by
  rcases hw with rfl | rfl | hds
  · cases r with
    | nil => rfl
    | cons c rest =>
      obtain ⟨hdigit, hstar⟩ := hr c rest rfl
      rw [List.nil_append, dropWidth_cons_of_ne hstar]
      simp [hdigit]
  · rfl
  · obtain ⟨d, ds, rfl⟩ := List.exists_cons_of_ne_nil hds.1
    rw [List.cons_append, dropWidth_cons_of_ne (digit_ne_star (hds.2 d List.mem_cons_self)),
      ← List.cons_append]
    exact (span_append hds.2 fun c rest h => (hr c rest h).1).2

/-- The greedy flags may take the leading zeros of a width; what they leave is still a width. -/
theorem dropWhile_flags {fl w r : List Char} (hfl : Flags fl) (hw : Width w)
    (hr : ∀ c rest, r = c :: rest → c ∉ flags) :
    (fl ++ (w ++ r)).dropWhile (· ∈ flags) = w.dropWhile (· ∈ flags) ++ r ∧
      Width (w.dropWhile (· ∈ flags)) := by
  have hr' : r.dropWhile (· ∈ flags) = r := by
    cases r with
    | nil => rfl
    | cons c rest => simp [hr c rest rfl]
  refine ⟨?_, ?_⟩
  · rw [List.dropWhile_append_of_pos fun a ha => decide_eq_true (hfl a ha), List.dropWhile_append]
    split
    · rename_i hempty
      rw [List.isEmpty_iff.mp hempty, hr', List.nil_append]
    · rfl
  · rcases hw with rfl | rfl | hds
    · exact Or.inl rfl
    · have hstar : ['*'].dropWhile (· ∈ flags) = ['*'] := by simp [star_facts.2.1]
      rw [hstar]
      exact Or.inr (Or.inl rfl)
    · exact width_of_digits fun d hd => hds.2 d (List.dropWhile_subset _ hd)

/-- Flags, width, precision and length pass `isSpecifierBody`. -/
theorem isSpecifierBody_of_modifiers {b : List Char} (h : Modifiers b) : isSpecifierBody b = true := by
  obtain ⟨fl, w, pr, len, hfl, hw, hpr, hlen, rfl⟩ := h
  have hr := fun c rest (h : pr ++ len = c :: rest) => head_precision_append hpr hlen h
  obtain ⟨hflags, hw'⟩ := dropWhile_flags hfl hw fun c rest h => (hr c rest h).2.2
  unfold isSpecifierBody
  simp only [List.append_assoc]
  rw [hflags, dropWidth_append hw' fun c rest h => ⟨(hr c rest h).1, (hr c rest h).2.1⟩,
    dropPrecision_append hpr hlen]
  rcases hlen with rfl | hm
  · rfl
  · simp [hm]

theorem isSpecifierBody_iff (b : List Char) : isSpecifierBody b = true ↔ Modifiers b :=
  ⟨modifiers_of_isSpecifierBody, isSpecifierBody_of_modifiers⟩

/-! ## 6. Where a placeholder ends -/

/-- Text with no conversion character in it. -/
def NoConversion (xs : List Char) : Prop := ∀ x ∈ xs, x ∉ conversions

theorem noConversion_nil : NoConversion [] := fun _ hx => absurd hx List.not_mem_nil

theorem NoConversion.append {xs ys : List Char} (hxs : NoConversion xs) (hys : NoConversion ys) :
    NoConversion (xs ++ ys) := by
  intro x hx
  rcases List.mem_append.mp hx with hx | hx
  · exact hxs x hx
  · exact hys x hx

theorem Digits.noConversion {ds : List Char} (hds : Digits ds) : NoConversion ds :=
  fun x hx => digit_not_conversion (hds.2 x hx)

theorem Position.noConversion {pos : List Char} (hpos : Position pos) : NoConversion pos := by
  rcases hpos with rfl | ⟨ds, hds, rfl⟩
  · exact noConversion_nil
  · refine hds.noConversion.append fun x hx => ?_
    rw [List.mem_singleton.mp hx]
    exact dollar_facts.2

theorem Width.noConversion {w : List Char} (hw : Width w) : NoConversion w := by
  rcases hw with rfl | rfl | hds
  · exact noConversion_nil
  · intro x hx
    rw [List.mem_singleton.mp hx]
    exact star_facts.2.2
  · exact hds.noConversion

theorem Precision.noConversion {pr : List Char} (hpr : Precision pr) : NoConversion pr := by
  rcases hpr with rfl | rfl | ⟨ds, hds, rfl⟩
  · exact noConversion_nil
  · intro x hx
    rcases List.mem_cons.mp hx with rfl | hx
    · exact dot_facts.2.2
    · rw [List.mem_singleton.mp hx]
      exact star_facts.2.2
  · intro x hx
    rcases List.mem_cons.mp hx with rfl | hx
    · exact dot_facts.2.2
    · exact hds.noConversion x hx

theorem Length.noConversion {len : List Char} (hlen : Length len) : NoConversion len := by
  rcases hlen with rfl | hm
  · exact noConversion_nil
  · exact fun x hx => (lengthModifier_facts hm hx).2.2.2.2

/-- No piece before the conversion character holds a conversion character. -/
theorem SpecifierBody.noConversion {u : List Char} (hu : SpecifierBody u) : NoConversion u := by
  obtain ⟨pos, b, hpos, ⟨fl, w, pr, len, hfl, hw, hpr, hlen, rfl⟩, rfl⟩ := hu
  have hfl' : NoConversion fl := fun x hx => flag_not_conversion (hfl x hx)
  exact hpos.noConversion.append
    (((hfl'.append hw.noConversion).append hpr.noConversion).append hlen.noConversion)

/-- The first conversion character after a text with none is the one that follows it. -/
theorem findIdx_conversion {u r : List Char} {c : Char} (hu : NoConversion u)
    (hc : c ∈ conversions) : (u ++ c :: r).findIdx? (· ∈ conversions) = some u.length := by
  have hnone : u.findIdx? (· ∈ conversions) = none :=
    List.findIdx?_eq_none_iff.mpr fun x hx => by simpa using hu x hx
  rw [List.findIdx?_append, hnone, List.findIdx?_cons, if_pos (by simpa using hc)]
  simp

theorem specifierLength_of_body {u r : List Char} {c : Char} (hu : SpecifierBody u)
    (hc : c ∈ conversions) : specifierLength (u ++ c :: r) = some (u.length + 1) := by
  obtain ⟨pos, b, hpos, hb, hsplit⟩ := hu
  have hany : (positionChoices u).any isSpecifierBody = true := by
    refine List.any_eq_true.mpr ⟨b, ?_, isSpecifierBody_of_modifiers hb⟩
    rw [hsplit]
    exact mem_positionChoices_of_position hpos
  unfold specifierLength
  rw [findIdx_conversion (SpecifierBody.noConversion ⟨pos, b, hpos, hb, hsplit⟩) hc]
  dsimp only
  rw [List.take_left, if_pos hany]

theorem body_of_specifierLength {cs : List Char} {k : Nat} (h : specifierLength cs = some k) :
    ∃ u c r, SpecifierBody u ∧ c ∈ conversions ∧ cs = u ++ c :: r ∧ k = u.length + 1 := by
  unfold specifierLength at h
  split at h
  · rename_i i hi
    split at h
    · rename_i hany
      cases h
      obtain ⟨hlt, hconv, -⟩ := List.findIdx?_eq_some_iff_getElem.mp hi
      obtain ⟨b, hb, hbody⟩ := List.any_eq_true.mp hany
      obtain ⟨pos, hpos, hsplit⟩ := position_of_mem_positionChoices hb
      refine ⟨cs.take i, cs[i], cs.drop (i + 1),
        ⟨pos, b, hpos, modifiers_of_isSpecifierBody hbody, hsplit⟩, by simpa using hconv, ?_, ?_⟩
      · rw [← List.drop_eq_getElem_cons hlt, List.take_append_drop]
      · rw [List.length_take]
        omega
    · cases h
  · cases h

/-- **A placeholder ends at the first conversion character after its `%`**: `specifierLength`
finds a placeholder exactly when one starts the text, and gives its length. -/
theorem specifierLength_eq_some_iff (cs : List Char) (k : Nat) :
    specifierLength cs = some k ↔
      ∃ u c r, SpecifierBody u ∧ c ∈ conversions ∧ cs = u ++ c :: r ∧ k = u.length + 1 := by
  constructor
  · exact body_of_specifierLength
  · rintro ⟨u, c, r, hu, hc, rfl, rfl⟩
    exact specifierLength_of_body hu hc

theorem specifierLength_eq_none_iff (cs : List Char) :
    specifierLength cs = none ↔ ¬ PlaceholderAt cs := by
  constructor
  · rintro h ⟨u, c, r, hu, hc, rfl⟩
    rw [specifierLength_of_body hu hc] at h
    cases h
  · intro h
    cases hk : specifierLength cs with
    | none => rfl
    | some k =>
      obtain ⟨u, c, r, hu, hc, hcs, -⟩ := body_of_specifierLength hk
      exact absurd ⟨u, c, r, hu, hc, hcs⟩ h

/-- The flag `0` and the width `5` before the conversion `d`. -/
example : specifierLength "05d".toList = some 3 := by decide

/-! ## 7. Where a plural reference ends -/

theorem pluralReferenceLength_of_reference {u : List Char} (hu : PluralReference u)
    (r : List Char) : pluralReferenceLength (u ++ r) = some u.length := by
  obtain ⟨pos, name, hpos, hname, rfl⟩ := hu
  -- the name is the longest run of name characters, since the closing `@` is not one
  obtain ⟨htake, hdrop⟩ := span_append (p := fun c => c ≠ '@' && !isWhiteSpace c)
    (r := '@' :: r) (fun c hc => by simpa using hname c hc) fun c rest h => by
      cases h
      simp
  have hdp : dropPosition (pos ++ '#' :: '@' :: (name ++ ['@']) ++ r) =
      '#' :: '@' :: (name ++ '@' :: r) := by
    rw [List.append_assoc, List.cons_append, dropPosition_position_append hpos hash_not_digit]
    simp
  unfold pluralReferenceLength
  rw [hdp]
  split
  · rename_i rest heq
    cases heq
    rw [hdrop]
    split
    · rename_i tail heq
      cases heq
      rw [htake, Option.some.injEq]
      simp only [List.length_append, List.length_cons, List.length_nil]
      omega
    · rename_i hnot
      exact (hnot r rfl).elim
  · rename_i hnot
    exact (hnot _ rfl).elim

theorem reference_of_pluralReferenceLength {cs : List Char} {k : Nat}
    (h : pluralReferenceLength cs = some k) :
    ∃ u r, PluralReference u ∧ cs = u ++ r ∧ k = u.length := by
  obtain ⟨pos, hpos, hsplit⟩ := position_dropPosition cs
  have hlen : cs.length = pos.length + (dropPosition cs).length := by
    rw [← List.length_append, ← hsplit]
  unfold pluralReferenceLength at h
  split at h
  · rename_i rest hdp
    split at h
    · rename_i tail hdw
      cases h
      have hrest : rest = rest.takeWhile (fun c => c ≠ '@' && !isWhiteSpace c) ++ '@' :: tail := by
        rw [← hdw, List.takeWhile_append_dropWhile]
      refine ⟨pos ++ '#' :: '@' :: (rest.takeWhile (fun c => c ≠ '@' && !isWhiteSpace c) ++ ['@']),
        tail, ⟨pos, _, hpos, fun c hc => by simpa using of_mem_takeWhile hc, rfl⟩, ?_, ?_⟩
      · rw [hsplit, hdp]
        simp only [List.append_assoc, List.cons_append, List.nil_append]
        rw [← hrest]
      · rw [hlen, hdp]
        simp only [List.length_append, List.length_cons, List.length_nil]
        omega
    · cases h
  · cases h

/-- **A plural reference ends at the first `@` after its `#@`**: `pluralReferenceLength`
finds one exactly when one starts the text, and gives its length. -/
theorem pluralReferenceLength_eq_some_iff (cs : List Char) (k : Nat) :
    pluralReferenceLength cs = some k ↔ ∃ u r, PluralReference u ∧ cs = u ++ r ∧ k = u.length := by
  constructor
  · exact reference_of_pluralReferenceLength
  · rintro ⟨u, r, hu, rfl, rfl⟩
    exact pluralReferenceLength_of_reference hu r

theorem pluralReferenceLength_eq_none_iff (cs : List Char) :
    pluralReferenceLength cs = none ↔ ¬ PluralAt cs := by
  constructor
  · rintro h ⟨u, r, hu, rfl⟩
    rw [pluralReferenceLength_of_reference hu r] at h
    cases h
  · intro h
    cases hk : pluralReferenceLength cs with
    | none => rfl
    | some k =>
      obtain ⟨u, r, hu, hcs, -⟩ := reference_of_pluralReferenceLength hk
      exact absurd ⟨u, r, hu, hcs⟩ h

/-- A name with white space in it makes no plural reference; `%#@` is then a placeholder with
the flag `#` and the conversion `@`. -/
example : pluralReferenceLength "#@a b@".toList = none ∧ specifierLength "#@a b@".toList = some 2 := by
  decide

/-! ## 8. One step at a `%` -/

theorem head_ne_of_not_percent {cs : List Char} (h : ∀ t, cs = '%' :: t → False) :
    cs.head? ≠ some '%' := by
  cases cs with
  | nil => simp
  | cons c t =>
    intro hc
    cases Option.some.inj hc
    exact h t rfl

theorem step_escape (rest : List Char) : step ('%' :: rest) = .skip 1 := rfl

/-- Away from an escape, the step tries a plural reference and then a placeholder. -/
theorem step_of_head {cs : List Char} (h : cs.head? ≠ some '%') :
    step cs = match pluralReferenceLength cs with
      | some n => .skip n
      | none =>
        match specifierLength cs with
        | some n => .count n
        | none => .pass := by
  unfold step
  split
  · exact absurd rfl h
  · rfl

/-- A skip is an escape or a plural reference. -/
theorem step_eq_skip {cs : List Char} {n : Nat} (h : step cs = .skip n) :
    (∃ t, cs = '%' :: t ∧ n = 1) ∨ (cs.head? ≠ some '%' ∧ pluralReferenceLength cs = some n) := by
  unfold step at h
  split at h
  · cases h
    exact Or.inl ⟨_, rfl, rfl⟩
  · rename_i hnot
    refine Or.inr ⟨head_ne_of_not_percent hnot, ?_⟩
    split at h
    · cases h
      assumption
    · split at h <;> cases h

theorem step_eq_count {cs : List Char} {n : Nat} (h : step cs = .count n) :
    cs.head? ≠ some '%' ∧ pluralReferenceLength cs = none ∧ specifierLength cs = some n := by
  unfold step at h
  split at h
  · cases h
  · rename_i hnot
    split at h
    · cases h
    · rename_i hplural
      split at h
      · cases h
        exact ⟨head_ne_of_not_percent hnot, hplural, by assumption⟩
      · cases h

theorem step_eq_pass {cs : List Char} (h : step cs = .pass) :
    cs.head? ≠ some '%' ∧ pluralReferenceLength cs = none ∧ specifierLength cs = none := by
  unfold step at h
  split at h
  · cases h
  · rename_i hnot
    split at h
    · cases h
    · rename_i hplural
      split at h
      · cases h
      · exact ⟨head_ne_of_not_percent hnot, hplural, by assumption⟩

theorem drop_past_conversion (u r : List Char) (c : Char) : (u ++ c :: r).drop (u.length + 1) = r := by
  simp

theorem countChars_nil : countChars [] = 0 := by
  rw [countChars]

theorem countChars_of_ne {c : Char} (hc : c ≠ '%') (cs : List Char) :
    countChars (c :: cs) = countChars cs := by
  rw [countChars, if_neg hc]

theorem countChars_skip {cs : List Char} {n : Nat} (h : step cs = .skip n) :
    countChars ('%' :: cs) = countChars (cs.drop n) := by
  rw [countChars, if_pos rfl, h]

theorem countChars_count {cs : List Char} {n : Nat} (h : step cs = .count n) :
    countChars ('%' :: cs) = countChars (cs.drop n) + 1 := by
  rw [countChars, if_pos rfl, h]

theorem countChars_pass {cs : List Char} (h : step cs = .pass) :
    countChars ('%' :: cs) = countChars cs := by
  rw [countChars, if_pos rfl, h]

/-! ## 9. The count is the scan -/

/-- Every scan derivation counts what `countChars` counts: each rule of the scan is the step
`countChars` takes there. -/
theorem countChars_of_scan {cs : List Char} {n : Nat} (h : Scan cs n) : countChars cs = n := by
  induction h with
  | nil => exact countChars_nil
  | literal hc _ ih => rw [countChars_of_ne hc, ih]
  | escape _ ih => rw [countChars_skip (step_escape _)]; exact ih
  | plural hhead hu hsplit _ ih =>
    have hplural : pluralReferenceLength _ = some _ := hsplit ▸ pluralReferenceLength_of_reference hu _
    rw [countChars_skip ((step_of_head hhead).trans (by rw [hplural])), hsplit, List.drop_left, ih]
  | placeholder hhead hnot hu hc hsplit _ ih =>
    have hplural := (pluralReferenceLength_eq_none_iff _).mpr hnot
    have hspec : specifierLength _ = some _ := hsplit ▸ specifierLength_of_body hu hc
    rw [countChars_count ((step_of_head hhead).trans (by rw [hplural, hspec])), hsplit,
      drop_past_conversion, ih]
  | lone hhead hnot hnone _ ih =>
    have hplural := (pluralReferenceLength_eq_none_iff _).mpr hnot
    have hspec := (specifierLength_eq_none_iff _).mpr hnone
    rw [countChars_pass ((step_of_head hhead).trans (by rw [hplural, hspec])), ih]

/-- The scan of every text has an outcome, the one `countChars` computes; the induction follows
the recursion of `countChars`. -/
theorem scan_countChars (cs : List Char) : Scan cs (countChars cs) := by
  fun_induction countChars cs with
  | case1 => exact Scan.nil
  | case2 rest n hstep ih =>
    rcases step_eq_skip hstep with ⟨t, rfl, rfl⟩ | ⟨hhead, hplural⟩
    · exact Scan.escape ih
    · obtain ⟨u, r, hu, hsplit, rfl⟩ := (pluralReferenceLength_eq_some_iff rest n).mp hplural
      have hdrop : rest.drop u.length = r := by rw [hsplit, List.drop_left]
      rw [hdrop] at ih ⊢
      exact Scan.plural hhead hu hsplit ih
  | case3 rest n hstep ih =>
    obtain ⟨hhead, hplural, hspec⟩ := step_eq_count hstep
    obtain ⟨u, c, r, hu, hc, hsplit, rfl⟩ := (specifierLength_eq_some_iff rest n).mp hspec
    have hdrop : rest.drop (u.length + 1) = r := by rw [hsplit, drop_past_conversion]
    rw [hdrop] at ih ⊢
    exact Scan.placeholder hhead ((pluralReferenceLength_eq_none_iff rest).mp hplural) hu hc
      hsplit ih
  | case4 rest hstep ih =>
    obtain ⟨hhead, hplural, hspec⟩ := step_eq_pass hstep
    exact Scan.lone hhead ((pluralReferenceLength_eq_none_iff rest).mp hplural)
      ((specifierLength_eq_none_iff rest).mp hspec) ih
  | case5 c rest hc ih => exact Scan.literal hc ih

/-- **The placeholder count is the left-to-right scan**: `count s = n` exactly when scanning `s`
counts `n`. -/
theorem count_eq_iff_scan (s : String) (n : Nat) : count s = n ↔ Scan s.toList n := by
  constructor
  · rintro rfl
    exact scan_countChars s.toList
  · exact countChars_of_scan

end L10nLint.Placeholder
