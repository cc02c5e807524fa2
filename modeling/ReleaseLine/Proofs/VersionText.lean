import Mathlib.Data.List.Induction
import ReleaseLine.Proofs.Marks
import ReleaseLine.Version

namespace ReleaseLine

namespace Decimal

/-- A run of ASCII digits denotes a number. -/
structure Denotes (digits : List Char) (n : Nat) : Prop where
  ne_nil : digits ≠ []
  isDigit : ∀ c ∈ digits, c.isDigit = true
  value_eq : value digits = n

theorem denotes_numeral (n : Nat) : Denotes (numeral n) n :=
  ⟨Nat.toDigits_ne_nil, fun _ => isDigit_of_mem_numeral, value_numeral n⟩

theorem Denotes.unique {digits : List Char} {n m : Nat} (hn : Denotes digits n)
    (hm : Denotes digits m) : n = m :=
  hn.value_eq.symm.trans hm.value_eq

theorem Denotes.notMem_dot {digits : List Char} {n : Nat} (h : Denotes digits n) :
    '.' ∉ digits := by
  intro hdot
  exact absurd (h.isDigit '.' hdot) (by decide)

/-- A numeral without the zeros that it need not start with. -/
def trimZeros : List Char → List Char
  | '0' :: c :: digits => trimZeros (c :: digits)
  | digits => digits

theorem mem_of_mem_trimZeros {digits : List Char} {c : Char} (h : c ∈ trimZeros digits) :
    c ∈ digits := by
  fun_induction trimZeros digits with
  | case1 d digits ih => exact List.mem_cons_of_mem '0' (ih h)
  | case2 digits => exact h

theorem denotes_zero_cons_iff {digits : List Char} (h : digits ≠ []) {n : Nat} :
    Denotes ('0' :: digits) n ↔ Denotes digits n := by
  constructor
  · intro hzero
    exact ⟨h, fun c hc => hzero.isDigit c (List.mem_cons_of_mem '0' hc), hzero.value_eq⟩
  · intro hdigits
    refine ⟨List.cons_ne_nil _ _, ?_, hdigits.value_eq⟩
    intro c hc
    rcases List.mem_cons.mp hc with rfl | hc
    · decide
    · exact hdigits.isDigit c hc

theorem denotes_trimZeros_iff {digits : List Char} {n : Nat} :
    Denotes (trimZeros digits) n ↔ Denotes digits n := by
  fun_induction trimZeros digits with
  | case1 c digits ih => exact ih.trans (denotes_zero_cons_iff (List.cons_ne_nil c digits)).symm
  | case2 digits => rfl

theorem Denotes.replicate {digits : List Char} {n : Nat} (h : Denotes digits n) (zeros : Nat) :
    Denotes (List.replicate zeros '0' ++ digits) n := by
  induction zeros with
  | zero => exact h
  | succ zeros ih => exact (denotes_zero_cons_iff ih.ne_nil).mpr ih

theorem trimZeros_singleton (c : Char) : trimZeros [c] = [c] := by simp [trimZeros]

theorem trimZeros_of_ne {c : Char} (h : c ≠ '0') (digits : List Char) :
    trimZeros (c :: digits) = c :: digits := by
  unfold trimZeros
  split
  · rename_i heq
    exact absurd (List.cons.inj heq).1 h
  · rfl

theorem trimZeros_append (digits later : List Char) :
    trimZeros (trimZeros digits ++ later) = trimZeros (digits ++ later) := by
  fun_induction trimZeros digits with
  | case1 c digits ih => exact ih
  | case2 digits => rfl

theorem digitChar_of_isDigit {c : Char} (h : c.isDigit = true) :
    (c.toNat - '0'.toNat).digitChar = c := by
  have hdigit := toNat_of_isDigit h
  change (c.toNat - 48).digitChar = c
  apply Char.toNat_inj.mp
  rw [Nat.toNat_digitChar_of_lt_ten (by omega)]
  omega

theorem numeral_append_digit (n : Nat) {c : Char} (hc : c.isDigit = true) :
    numeral (10 * n + (c.toNat - '0'.toNat)) = trimZeros (numeral n ++ [c]) := by
  have hlast : c.toNat - '0'.toNat < 10 := by
    have hbounds := toNat_of_isDigit hc
    change c.toNat - 48 < 10
    omega
  have hdigit : numeral (c.toNat - '0'.toNat) = [c] := by
    unfold numeral
    rw [Nat.toDigits_of_lt_base hlast, digitChar_of_isDigit hc]
  rcases numeral_cases n with rfl | ⟨d, later, hhead, hd⟩
  · have hzero : numeral 0 = ['0'] := Nat.toDigits_of_lt_base (by decide)
    rw [Nat.mul_zero, Nat.zero_add, hdigit, hzero]
    exact (trimZeros_singleton c).symm
  · have hpos : 0 < n := by
      apply Nat.pos_of_ne_zero
      rintro rfl
      cases hhead
      exact hd rfl
    calc numeral (10 * n + (c.toNat - '0'.toNat))
        = numeral n ++ numeral (c.toNat - '0'.toNat) :=
          (Nat.toDigits_append_toDigits (by decide) hpos hlast).symm
      _ = d :: (later ++ [c]) := by rw [hhead, hdigit, List.cons_append]
      _ = trimZeros (d :: (later ++ [c])) := (trimZeros_of_ne hd _).symm
      _ = trimZeros (numeral n ++ [c]) := by rw [hhead, List.cons_append]

theorem Denotes.numeral_eq {digits : List Char} {n : Nat} (h : Denotes digits n) :
    numeral n = trimZeros digits := by
  obtain ⟨hne, hdigit, rfl⟩ := h
  induction digits using List.reverseRecOn with
  | nil => exact absurd rfl hne
  | append_singleton digits c ih =>
      have hvalue : value (digits ++ [c]) = 10 * value digits + (c.toNat - '0'.toNat) :=
        Nat.ofDigitChars_append 0
      rw [hvalue, numeral_append_digit _ (hdigit c (by simp))]
      by_cases hempty : digits = []
      · subst hempty
        rfl
      · rw [ih hempty fun d hd => hdigit d (List.mem_append_left [c] hd), trimZeros_append]

end Decimal

namespace VersionNumber

variable {text : String}

theorem parse_eq_ok_iff {n : VersionNumber} :
    parse text = .ok n ↔ ∃ v, n = .release v ∧ ReleaseVersion.parse text = .ok v := by
  unfold parse
  cases ReleaseVersion.parse text with
  | ok v =>
      change Except.ok (release v) = _ ↔ _
      simp [eq_comm]
  | error error =>
      change Except.error error = _ ↔ _
      simp

theorem parse_eq_error_iff {error : VersionError} :
    parse text = .error error ↔ ReleaseVersion.parse text = .error error := by
  unfold parse
  cases ReleaseVersion.parse text with
  | ok v =>
      change Except.ok (release v) = _ ↔ _
      simp
  | error other =>
      change Except.error other = _ ↔ _
      simp

end VersionNumber

namespace ReleaseVersion

theorem readComponent?_eq_some_iff {digits : List Char} {n : { n : Nat // n ≤ maxComponent }} :
    readComponent? digits = some n ↔ Decimal.Denotes digits n := by
  unfold readComponent?
  constructor
  · intro h
    split at h
    · cases h
    · rename_i word hword
      split at h
      · obtain rfl := Option.some.inj h
        obtain ⟨hne, hdigit, hvalue⟩ := Decimal.readWord?_eq_some_iff.mp hword
        exact ⟨hne, hdigit, hvalue⟩
      · cases h
  · rintro ⟨hne, hdigit, hvalue⟩
    have hword := toNat_ofNat_of_le n.2
    have hread : Decimal.readWord? digits = some (UInt32.ofNat n) :=
      Decimal.readWord?_eq_some_iff.mpr ⟨hne, hdigit, hvalue.trans hword.symm⟩
    rw [hread]
    simp only [hword, n.2, dif_pos]

theorem ofChars?_of_notMem {text : List Char} (h : '.' ∉ text) : ofChars? text = none := by
  unfold ofChars?
  rw [Text.span_of_notMem h]

theorem ofChars?_dot {left : List Char} (h : '.' ∉ left) (right : List Char) :
    ofChars? (left ++ '.' :: right) =
      match readComponent? left, readComponent? right with
      | some a, some b => some ⟨a, b, a.2, b.2⟩
      | _, _ => none := by
  unfold ofChars?
  rw [Text.span_append h]
  rfl

theorem ofChars?_eq_some_iff {text : List Char} {v : ReleaseVersion} :
    ofChars? text = some v ↔ ∃ left right, text = left ++ '.' :: right ∧
      Decimal.Denotes left v.major ∧ Decimal.Denotes right v.minor := by
  constructor
  · intro h
    have hdot : '.' ∈ text := by
      by_contra hdot
      rw [ofChars?_of_notMem hdot] at h
      cases h
    obtain ⟨left, right, rfl, hleft⟩ := List.eq_append_cons_of_mem hdot
    rw [ofChars?_dot hleft] at h
    split at h
    · rename_i a b ha hb
      obtain rfl := Option.some.inj h
      exact ⟨left, right, rfl, readComponent?_eq_some_iff.mp ha, readComponent?_eq_some_iff.mp hb⟩
    · cases h
  · rintro ⟨left, right, rfl, hleft, hright⟩
    have ha : readComponent? left = some ⟨v.major, v.major_le⟩ :=
      readComponent?_eq_some_iff.mpr hleft
    have hb : readComponent? right = some ⟨v.minor, v.minor_le⟩ :=
      readComponent?_eq_some_iff.mpr hright
    rw [ofChars?_dot hleft.notMem_dot, ha, hb]

/-- A text is two numerals around a dot, both within bounds. -/
def Spells (text : String) (major minor : Nat) : Prop :=
  ∃ left right, text.toList = left ++ '.' :: right ∧
    Decimal.Denotes left major ∧ Decimal.Denotes right minor ∧
    major ≤ 2147483647 ∧ minor ≤ 2147483647

theorem parse_eq_ok_iff {text : String} {v : ReleaseVersion} :
    parse text = .ok v ↔ Spells text v.major v.minor := by
  have hchars : parse text = .ok v ↔ ofChars? text.toList = some v := by
    unfold parse
    split
    · rename_i w hw
      rw [hw, Except.ok.injEq, Option.some.injEq]
    · rename_i hnone
      rw [hnone]
      simp only [reduceCtorEq]
  rw [hchars, ofChars?_eq_some_iff]
  constructor
  · rintro ⟨left, right, htext, hleft, hright⟩
    exact ⟨left, right, htext, hleft, hright, v.major_le, v.minor_le⟩
  · rintro ⟨left, right, htext, hleft, hright, -, -⟩
    exact ⟨left, right, htext, hleft, hright⟩

theorem parse_cases (text : String) :
    (∃ v, parse text = .ok v) ∨ parse text = .error (.malformed text) := by
  unfold parse
  split
  · rename_i v hv
    exact .inl ⟨v, rfl⟩
  · exact .inr rfl

/-- How a text is read as a version: by itself, by conversion, and as a version number. -/
structure Reading (text : String) : Prop where
  accepted : ∀ major minor,
    (∃ v, parse text = .ok v ∧ v.major = major ∧ v.minor = minor) ↔ Spells text major minor
  refused : (¬ ∃ major minor, Spells text major minor) → parse text = .error (.malformed text)
  padded : ∀ v left right zeros zeros', parse text = .ok v →
    text.toList = left ++ '.' :: right →
    parse (String.ofList (List.replicate zeros '0' ++ left ++
      '.' :: (List.replicate zeros' '0' ++ right))) = .ok v
  converted : ofString text = parse text
  number_accepted : ∀ n,
    VersionNumber.parse text = .ok n ↔ ∃ v, n = .release v ∧ parse text = .ok v
  number_refused : ∀ error, VersionNumber.parse text = .error error ↔ parse text = .error error

theorem exists_parse_iff (text : String) (major minor : Nat) :
    (∃ v, parse text = .ok v ∧ v.major = major ∧ v.minor = minor) ↔
      Spells text major minor := by
  constructor
  · rintro ⟨v, hv, rfl, rfl⟩
    exact parse_eq_ok_iff.mp hv
  · intro h
    obtain ⟨-, -, -, -, -, hmajor, hminor⟩ := id h
    exact ⟨⟨major, minor, hmajor, hminor⟩, parse_eq_ok_iff.mpr h, rfl, rfl⟩

theorem parse_of_not_spells {text : String} (h : ¬ ∃ major minor, Spells text major minor) :
    parse text = .error (.malformed text) := by
  rcases parse_cases text with ⟨v, hv⟩ | hrefused
  · exact absurd ⟨v.major, v.minor, parse_eq_ok_iff.mp hv⟩ h
  · exact hrefused

/-- A text that spells out a version has one dot only, so any halves of it are the numerals. -/
theorem Spells.denotes {text : String} {major minor : Nat} (h : Spells text major minor)
    {left right : List Char} (htext : text.toList = left ++ '.' :: right) :
    Decimal.Denotes left major ∧ Decimal.Denotes right minor := by
  obtain ⟨left', right', htext', hmajor, hminor, -⟩ := h
  have hleft : '.' ∉ left := by
    intro hdot
    obtain ⟨before, after, rfl, hbefore⟩ := List.eq_append_cons_of_mem hdot
    rw [htext, List.append_assoc, List.cons_append] at htext'
    obtain ⟨-, rfl⟩ := Text.append_mark_inj hbefore hmajor.notMem_dot htext'
    exact hminor.notMem_dot (by simp)
  obtain ⟨rfl, rfl⟩ := Text.append_mark_inj hleft hmajor.notMem_dot (htext.symm.trans htext')
  exact ⟨hmajor, hminor⟩

theorem parse_padded {text : String} {v : ReleaseVersion} {left right : List Char}
    (zeros zeros' : Nat) (h : parse text = .ok v) (htext : text.toList = left ++ '.' :: right) :
    parse (String.ofList (List.replicate zeros '0' ++ left ++
      '.' :: (List.replicate zeros' '0' ++ right))) = .ok v := by
  obtain ⟨hmajor, hminor⟩ := (parse_eq_ok_iff.mp h).denotes htext
  refine parse_eq_ok_iff.mpr ⟨_, _, String.toList_ofList, ?_, ?_, v.major_le, v.minor_le⟩
  · exact hmajor.replicate zeros
  · exact hminor.replicate zeros'

/-- A text is read as a version just if it spells out two components, and then as these, however
many zeros come first. The words that digits are gathered in never run over. -/
theorem parse_spelled :
    (∀ digits word, Decimal.readWord? digits = some word ↔ Decimal.Denotes digits word.toNat) ∧
      ∀ text, Reading text := by
  constructor
  · intro digits word
    rw [Decimal.readWord?_eq_some_iff]
    exact ⟨fun ⟨hne, hdigit, hvalue⟩ => ⟨hne, hdigit, hvalue⟩,
      fun ⟨hne, hdigit, hvalue⟩ => ⟨hne, hdigit, hvalue⟩⟩
  · intro text
    exact ⟨exists_parse_iff text, parse_of_not_spells,
      fun v left right zeros zeros' => parse_padded zeros zeros', rfl,
      fun n => VersionNumber.parse_eq_ok_iff, fun error => VersionNumber.parse_eq_error_iff⟩

theorem spells_render (v : ReleaseVersion) : Spells v.render v.major v.minor :=
  ⟨_, _, String.toList_ofList, Decimal.denotes_numeral v.major, Decimal.denotes_numeral v.minor,
    v.major_le, v.minor_le⟩

theorem parse_render (v : ReleaseVersion) : parse v.render = .ok v :=
  parse_eq_ok_iff.mpr v.spells_render

theorem render_injective : Function.Injective render := by
  intro v w h
  have hparse := v.parse_render
  rw [h, w.parse_render] at hparse
  exact (Except.ok.inj hparse).symm

/-- What stands between the dots of a text. -/
def parts (text : String) : List (List Char) := text.toList.splitOn '.'

theorem spells_iff_parts {text : String} {major minor : Nat} :
    Spells text major minor ↔ ∃ left right, parts text = [left, right] ∧
      Decimal.Denotes left major ∧ Decimal.Denotes right minor ∧
      major ≤ 2147483647 ∧ minor ≤ 2147483647 := by
  refine exists_congr fun left => exists_congr fun right => and_congr_left ?_
  rintro ⟨hmajor, hminor, -⟩
  unfold parts
  constructor
  · intro htext
    rw [htext, List.splitOn_append_cons_self_of_not_mem hmajor.notMem_dot,
      List.splitOn_eq_singleton hminor.notMem_dot]
  · intro hparts
    have htext : ['.'].intercalate (text.toList.splitOn '.') = text.toList :=
      List.intercalate_splitOn '.'
    rw [← htext, hparts]
    simp

/-- The text with each part rid of the zeros that it need not start with. -/
def trimmed (text : String) : String :=
  String.ofList (['.'].intercalate ((parts text).map Decimal.trimZeros))

theorem parts_trimmed (text : String) :
    parts (trimmed text) = (parts text).map Decimal.trimZeros := by
  have hdot : ∀ part ∈ (parts text).map Decimal.trimZeros, '.' ∉ part := by
    intro trimmed htrimmed
    obtain ⟨part, hpart, rfl⟩ := List.mem_map.mp htrimmed
    exact fun h => Text.notMem_of_mem_splitOn hpart (Decimal.mem_of_mem_trimZeros h)
  have hne : (parts text).map Decimal.trimZeros ≠ [] := by
    rw [ne_eq, List.map_eq_nil_iff]
    exact List.splitOn_ne_nil '.' text.toList
  unfold trimmed
  rw [parts, String.toList_ofList]
  exact List.splitOn_intercalate '.' hdot hne

theorem spells_trimmed_iff {text : String} {major minor : Nat} :
    Spells (trimmed text) major minor ↔ Spells text major minor := by
  rw [spells_iff_parts, spells_iff_parts, parts_trimmed]
  constructor
  · rintro ⟨left, right, htrimmed, hmajor, hminor, hbounds⟩
    obtain ⟨left, rest, hparts, rfl, hrest⟩ := List.map_eq_cons_iff.mp htrimmed
    obtain ⟨right, rfl, rfl⟩ := List.map_eq_singleton_iff.mp hrest
    exact ⟨left, right, hparts, Decimal.denotes_trimZeros_iff.mp hmajor,
      Decimal.denotes_trimZeros_iff.mp hminor, hbounds⟩
  · rintro ⟨left, right, hparts, hmajor, hminor, hbounds⟩
    rw [hparts]
    exact ⟨_, _, rfl, Decimal.denotes_trimZeros_iff.mpr hmajor,
      Decimal.denotes_trimZeros_iff.mpr hminor, hbounds⟩

theorem parse_trimmed_eq_ok_iff {text : String} {v : ReleaseVersion} :
    parse (trimmed text) = .ok v ↔ parse text = .ok v := by
  rw [parse_eq_ok_iff, parse_eq_ok_iff, spells_trimmed_iff]

theorem render_of_parse {text : String} {v : ReleaseVersion} (h : parse text = .ok v) :
    v.render = trimmed text := by
  obtain ⟨left, right, hparts, hmajor, hminor, -⟩ := spells_iff_parts.mp (parse_eq_ok_iff.mp h)
  unfold trimmed
  rw [hparts, List.map_cons, List.map_singleton, ← hmajor.numeral_eq, ← hminor.numeral_eq]
  simp [render, toChars]

/-- An integer can be a component. -/
def InRange (value : Int) : Prop := 0 ≤ value ∧ value ≤ 2147483647

theorem component?_eq_some_iff {value : Int} {n : { n : Nat // n ≤ maxComponent }} :
    component? value = some n ↔ value = n := by
  unfold component?
  split
  · rw [Option.some.injEq, Subtype.ext_iff]
    dsimp only
    omega
  · have hle := n.2
    simp only [reduceCtorEq, false_iff]
    omega

theorem of_eq_ok_iff {a b : Int} {v : ReleaseVersion} :
    of a b = .ok v ↔ a = v.major ∧ b = v.minor := by
  unfold of
  constructor
  · intro h
    split at h
    · cases h
    · cases h
    · rename_i m n hm hn
      obtain rfl := Except.ok.inj h
      exact ⟨component?_eq_some_iff.mp hm, component?_eq_some_iff.mp hn⟩
  · rintro ⟨hmajor, hminor⟩
    have hm : component? a = some ⟨v.major, v.major_le⟩ := component?_eq_some_iff.mpr hmajor
    have hn : component? b = some ⟨v.minor, v.minor_le⟩ := component?_eq_some_iff.mpr hminor
    rw [hm, hn]

theorem exists_of_iff {a b : Int} : (∃ v, of a b = .ok v) ↔ InRange a ∧ InRange b := by
  constructor
  · rintro ⟨v, hv⟩
    obtain ⟨rfl, rfl⟩ := of_eq_ok_iff.mp hv
    exact ⟨⟨Int.natCast_nonneg _, Int.ofNat_le.mpr v.major_le⟩,
      Int.natCast_nonneg _, Int.ofNat_le.mpr v.minor_le⟩
  · rintro ⟨⟨ha, ha'⟩, hb, hb'⟩
    refine ⟨⟨a.toNat, b.toNat, Int.toNat_le.mpr ha', Int.toNat_le.mpr hb'⟩, ?_⟩
    exact of_eq_ok_iff.mpr ⟨(Int.toNat_of_nonneg ha).symm, (Int.toNat_of_nonneg hb).symm⟩

theorem of_of_major {a : Int} (h : ¬ InRange a) (b : Int) :
    of a b = .error (.majorOutOfRange a) := by
  have hnone : component? a = none := dif_neg h
  unfold of
  rw [hnone]

theorem of_of_minor {a b : Int} (ha : InRange a) (hb : ¬ InRange b) :
    of a b = .error (.minorOutOfRange b) := by
  have hsome : component? a = some _ := dif_pos ha
  have hnone : component? b = none := dif_neg hb
  unfold of
  rw [hsome, hnone]

theorem denotes_toString_iff {a : Int} {n : Nat} :
    Decimal.Denotes (toString a).toList n ↔ a = n := by
  cases a with
  | ofNat m =>
      have htext : (toString (Int.ofNat m)).toList = Decimal.numeral m := by
        change m.repr.toList = _
        rw [Nat.repr_eq_ofList_toDigits, String.toList_ofList]
        rfl
      rw [htext]
      constructor
      · intro h
        rw [(Decimal.denotes_numeral m).unique h]
        rfl
      · intro h
        rw [Int.ofNat.inj h]
        exact Decimal.denotes_numeral n
  | negSucc m =>
      have htext : (toString (Int.negSucc m)).toList = '-' :: (m + 1).repr.toList := by
        change ("-" ++ (m + 1).repr).toList = _
        rw [String.toList_append]
        rfl
      rw [htext]
      constructor
      · intro h
        exact absurd (h.isDigit '-' List.mem_cons_self) (by decide)
      · intro h
        cases h

theorem parse_toString_eq_ok_iff {a b : Int} {v : ReleaseVersion} :
    parse (toString a ++ "." ++ toString b) = .ok v ↔ of a b = .ok v := by
  have htext : (toString a ++ "." ++ toString b).toList =
      (toString a).toList ++ '.' :: (toString b).toList := by
    simp
  rw [parse_eq_ok_iff, of_eq_ok_iff]
  constructor
  · intro h
    obtain ⟨hmajor, hminor⟩ := h.denotes htext
    exact ⟨denotes_toString_iff.mp hmajor, denotes_toString_iff.mp hminor⟩
  · rintro ⟨ha, hb⟩
    exact ⟨_, _, htext, denotes_toString_iff.mpr ha, denotes_toString_iff.mpr hb, v.major_le,
      v.minor_le⟩

/-- What two integers make, as a version and as a text that is read. -/
structure Building (a b : Int) : Prop where
  succeeds_iff : (∃ v, parse (toString a ++ "." ++ toString b) = .ok v) ↔ ∃ v, of a b = .ok v
  agrees : ∀ v w, parse (toString a ++ "." ++ toString b) = .ok v → of a b = .ok w → v = w
  fails_iff : (∃ error, of a b = .error error) ↔ ¬ InRange a ∨ ¬ InRange b
  major : ¬ InRange a →
    of a b = .error (.majorOutOfRange a) ∧
      (VersionError.majorOutOfRange a).message = "majorVersion " ++ toString a
  minor : InRange a → ¬ InRange b →
    of a b = .error (.minorOutOfRange b) ∧
      (VersionError.minorOutOfRange b).message = "minorVersion " ++ toString b

theorem fails_of_iff {a b : Int} :
    (∃ error, of a b = .error error) ↔ ¬ InRange a ∨ ¬ InRange b := by
  rw [← not_and_or, ← exists_of_iff]
  cases of a b with
  | ok v => simp
  | error error => simp

/-- Versions are built of just the integers whose text is read; and what a version is shown as is
read as this version, and is the text that it was read from, superfluous zeros apart. -/
theorem built_read_shown :
    (∀ a b : Int, Building a b) ∧
      (∀ v : ReleaseVersion, parse v.render = .ok v) ∧ Function.Injective render ∧
      ∀ text v, parse text = .ok v → v.render = trimmed text ∧ parse (trimmed text) = .ok v := by
  refine ⟨?_, parse_render, render_injective, ?_⟩
  · intro a b
    refine ⟨exists_congr fun v => parse_toString_eq_ok_iff, ?_, fails_of_iff,
      fun ha => ⟨of_of_major ha b, rfl⟩, fun ha hb => ⟨of_of_minor ha hb, rfl⟩⟩
    intro v w hv hw
    rw [parse_toString_eq_ok_iff, hw] at hv
    exact (Except.ok.inj hv).symm
  · intro text v h
    exact ⟨render_of_parse h, parse_trimmed_eq_ok_iff.mpr h⟩

end ReleaseVersion

end ReleaseLine
