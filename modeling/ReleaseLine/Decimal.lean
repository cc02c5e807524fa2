
namespace ReleaseLine.Decimal

/-- The number that a run of digits denotes, most significant digit first. -/
def value (digits : List Char) : Nat := Nat.ofDigitChars 10 digits 0

/-- The digits of a number, without leading zeros. -/
def numeral (n : Nat) : List Char := Nat.toDigits 10 n

/-- Read a non-empty run of ASCII digits. -/
def read? (digits : List Char) : Option Nat :=
  if digits ≠ [] ∧ digits.all Char.isDigit then some (value digits) else none

/-- Append a digit to the number in a word; `none` if the result does not fit. -/
def appendDigit? (word : UInt32) (c : Char) : Option UInt32 :=
  let tens := word * 10
  let sum := tens + (c.val - '0'.val)
  -- A sum that was carried out of the word is less than its summands.
  if word ≤ 0xffffffff / 10 ∧ tens ≤ sum then some sum else none

/-- Read a non-empty run of ASCII digits into a word, digit by digit. -/
def readWord? (digits : List Char) : Option UInt32 :=
  if digits ≠ [] ∧ digits.all Char.isDigit then digits.foldlM appendDigit? 0 else none

theorem value_numeral (n : Nat) : value (numeral n) = n :=
  Nat.ofDigitChars_toDigits (by decide) (by decide)

theorem read?_eq_some_iff {digits : List Char} {n : Nat} :
    read? digits = some n ↔
      digits ≠ [] ∧ (∀ c ∈ digits, c.isDigit = true) ∧ value digits = n := by
  unfold read?
  split <;> rename_i h
  · simp only [List.all_eq_true] at h
    simp only [Option.some.injEq]
    exact ⟨fun e => ⟨h.1, h.2, e⟩, fun e => e.2.2⟩
  · simp only [List.all_eq_true] at h
    simp only [reduceCtorEq, false_iff]
    exact fun e => h ⟨e.1, e.2.1⟩

theorem numeral_cases (n : Nat) :
    n = 0 ∨ ∃ c digits, numeral n = c :: digits ∧ c ≠ '0' := by
  induction n using Nat.base_induction 10 (by decide) with
  | single m hm =>
      rcases Nat.eq_zero_or_pos m with hzero | hpos
      · exact .inl hzero
      · refine .inr ⟨m.digitChar, [], Nat.toDigits_of_lt_base hm, ?_⟩
        intro hdigit
        have hvalue := Nat.toNat_digitChar_sub_48_of_lt_ten hm
        rw [hdigit] at hvalue
        simp at hvalue
        omega
  | digit m k hk hm ih =>
      rcases ih with hzero | ⟨c, digits, hnumeral, hc⟩
      · omega
      · refine .inr ⟨c, digits ++ Nat.toDigits 10 k, ?_, hc⟩
        unfold numeral at hnumeral ⊢
        rw [← Nat.toDigits_append_toDigits (by decide) hm hk, hnumeral]
        rfl

theorem isDigit_of_mem_numeral {n : Nat} {c : Char} (h : c ∈ numeral n) :
    c.isDigit = true :=
  Nat.isDigit_of_mem_toDigits (by decide) (by decide) h

theorem toNat_of_isDigit {c : Char} (h : c.isDigit = true) : 48 ≤ c.toNat ∧ c.toNat ≤ 57 := by
  simp only [Char.isDigit, Bool.and_eq_true, decide_eq_true_eq] at h
  exact h

theorem appendDigit?_eq_some_iff {word result : UInt32} {c : Char} (h : c.isDigit = true) :
    appendDigit? word c = some result ↔ 10 * word.toNat + (c.toNat - '0'.toNat) = result.toNat := by
  have hdigit := toNat_of_isDigit h
  have hvalue : (c.val - '0'.val).toNat = c.toNat - 48 := UInt32.toNat_sub_of_le _ _ hdigit.1
  have hword := word.toNat_lt
  have hresult := result.toNat_lt
  have htens : (word * 10).toNat = word.toNat * 10 % 2 ^ 32 := UInt32.toNat_mul word 10
  have hsum : (word * 10 + (c.val - '0'.val)).toNat =
      (word.toNat * 10 % 2 ^ 32 + (c.toNat - 48)) % 2 ^ 32 := by
    rw [UInt32.toNat_add, htens, hvalue]
  have hfits : word ≤ 0xffffffff / 10 ∧ word * 10 ≤ word * 10 + (c.val - '0'.val) ↔
      10 * word.toNat + (c.toNat - 48) < 2 ^ 32 := by
    rw [UInt32.le_iff_toNat_le, UInt32.le_iff_toNat_le, hsum, htens]
    change word.toNat ≤ 429496729 ∧ _ ↔ _
    omega
  unfold appendDigit?
  change _ ↔ 10 * word.toNat + (c.toNat - 48) = _
  by_cases hlt : 10 * word.toNat + (c.toNat - 48) < 2 ^ 32
  · rw [if_pos (hfits.mpr hlt), Option.some.injEq, ← UInt32.toNat_inj, hsum]
    omega
  · rw [if_neg (mt hfits.mp hlt)]
    simp only [reduceCtorEq, false_iff]
    omega

theorem le_ofDigitChars (digits : List Char) (n : Nat) : n ≤ Nat.ofDigitChars 10 digits n := by
  induction digits generalizing n with
  | nil => exact Nat.le_refl n
  | cons c digits ih =>
      rw [Nat.ofDigitChars_cons]
      exact Nat.le_trans (by omega) (ih _)

theorem foldlM_appendDigit?_eq_some_iff {digits : List Char}
    (h : ∀ c ∈ digits, c.isDigit = true) {word result : UInt32} :
    digits.foldlM appendDigit? word = some result ↔
      Nat.ofDigitChars 10 digits word.toNat = result.toNat := by
  induction digits generalizing word with
  | nil =>
      change some word = some result ↔ word.toNat = result.toNat
      rw [Option.some.injEq, UInt32.toNat_inj]
  | cons c digits ih =>
      have hc := h c List.mem_cons_self
      have ih := @ih fun d hd => h d (List.mem_cons_of_mem c hd)
      rw [List.foldlM_cons, Option.bind_eq_bind, Option.bind_eq_some_iff, Nat.ofDigitChars_cons]
      constructor
      · rintro ⟨next, hnext, hrest⟩
        rw [appendDigit?_eq_some_iff hc] at hnext
        rw [hnext]
        exact ih.mp hrest
      · intro hvalue
        -- The digits so far are no more than all of them, so they fit as well.
        have hle := le_ofDigitChars digits (10 * word.toNat + (c.toNat - '0'.toNat))
        have hlt : 10 * word.toNat + (c.toNat - '0'.toNat) < UInt32.size :=
          Nat.lt_of_le_of_lt (hvalue ▸ hle) result.toNat_lt
        have hnext := UInt32.toNat_ofNat_of_lt' hlt
        refine ⟨_, (appendDigit?_eq_some_iff hc).mpr hnext.symm, ih.mpr ?_⟩
        rw [hnext]
        exact hvalue

theorem readWord?_eq_some_iff {digits : List Char} {word : UInt32} :
    readWord? digits = some word ↔
      digits ≠ [] ∧ (∀ c ∈ digits, c.isDigit = true) ∧ value digits = word.toNat := by
  unfold readWord?
  split
  · rename_i h
    rw [List.all_eq_true] at h
    rw [foldlM_appendDigit?_eq_some_iff h.2]
    exact ⟨fun hvalue => ⟨h.1, h.2, hvalue⟩, fun hread => hread.2.2⟩
  · rename_i h
    rw [List.all_eq_true] at h
    constructor
    · rintro ⟨⟩
    · exact fun hread => absurd ⟨hread.1, hread.2.1⟩ h

end ReleaseLine.Decimal
