import ReleaseLine.Text.Utf8

namespace ReleaseLine.Text

theorem toList_loop (bytes : ByteArray) (i : Nat) (before : List UInt8) :
    ByteArray.toList.loop bytes i before = before.reverse ++ bytes.data.toList.drop i := by
  fun_induction ByteArray.toList.loop bytes i before with
  | case1 i before h ih =>
      have hlength : i < bytes.data.toList.length := by simpa using h
      have hget : bytes.get! i = bytes.data.toList[i] := by
        simp [ByteArray.get!, getElem!_pos bytes.data i h]
      rw [ih, List.drop_eq_getElem_cons hlength, List.reverse_cons, List.append_assoc, hget]
      rfl
  | case2 i before h =>
      have hlength : bytes.data.toList.length ≤ i := by simpa using h
      rw [List.drop_eq_nil_of_le hlength, List.append_nil]

theorem toList_eq (bytes : ByteArray) : bytes.toList = bytes.data.toList := by
  unfold ByteArray.toList
  rw [toList_loop]
  rfl

theorem toList_toUTF8 (text : List Char) :
    (String.ofList text).toUTF8.toList = Utf8.encode text := by
  have hbytes : (String.ofList text).toUTF8 = text.utf8Encode := String.toByteArray_ofList
  rw [toList_eq, hbytes, List.utf8Encode, List.toList_data_toByteArray]
  rfl

theorem encode_toList (text : String) : Utf8.encode text.toList = text.toUTF8.toList := by
  rw [← toList_toUTF8, String.ofList_toList]

theorem fromUTF8?_toUTF8 (text : String) : String.fromUTF8? text.toUTF8 = some text := by
  have hbytes : text.toUTF8.IsValidUTF8 := text.isValidUTF8
  have hread : String.fromUTF8? text.toUTF8 = some (String.fromUTF8 text.toUTF8 hbytes) :=
    dif_pos hbytes
  rw [hread]
  rfl

/-- The bytes of a text in ASCII. -/
def ascii (text : List Char) : List UInt8 := text.map fun c => UInt8.ofNat c.toNat

def IsAscii (text : List Char) : Prop := ∀ c ∈ text, c.toNat < 0x80

instance (text : List Char) : Decidable (IsAscii text) :=
  List.decidableBAll (fun c : Char => c.toNat < 0x80) text

namespace IsAscii

theorem append {first second : List Char} (hfirst : IsAscii first) (hsecond : IsAscii second) :
    IsAscii (first ++ second) := by
  intro c hc
  rcases List.mem_append.mp hc with hc | hc
  · exact hfirst c hc
  · exact hsecond c hc

theorem of_isDigit {digits : List Char} (h : ∀ c ∈ digits, c.isDigit = true) :
    IsAscii digits := by
  intro c hc
  have hdigit : c.val ≤ 57 := by
    have hc := h c hc
    simp only [Char.isDigit, Bool.and_eq_true, decide_eq_true_eq] at hc
    exact hc.2
  have hle : c.toNat ≤ 57 := hdigit
  omega

end IsAscii

theorem utf8EncodeChar_of_lt {c : Char} (h : c.toNat < 0x80) :
    String.utf8EncodeChar c = [UInt8.ofNat c.toNat] := by
  have hle : c.val.toNat ≤ 127 := Nat.le_of_lt_succ h
  unfold String.utf8EncodeChar
  rw [if_pos hle]
  rfl

theorem encode_eq_ascii {text : List Char} (h : IsAscii text) :
    Utf8.encode text = ascii text := by
  induction text with
  | nil => rfl
  | cons c text ih =>
      have hrest : IsAscii text := fun d hd => h d (List.mem_cons_of_mem c hd)
      have hc : String.utf8EncodeChar c = [UInt8.ofNat c.toNat] :=
        utf8EncodeChar_of_lt (h c List.mem_cons_self)
      calc Utf8.encode (c :: text) = String.utf8EncodeChar c ++ Utf8.encode text := rfl
        _ = [UInt8.ofNat c.toNat] ++ ascii text := by rw [hc, ih hrest]

theorem toList_toUTF8_of_ascii {text : List Char} (h : IsAscii text) :
    (String.ofList text).toUTF8.toList = ascii text := by
  rw [toList_toUTF8, encode_eq_ascii h]

theorem toNat_ofNat_of_lt {n : Nat} (h : n < 0x80) : (UInt8.ofNat n).toNat = n := by
  have hlt : n < 2 ^ 8 := by omega
  exact Nat.mod_eq_of_lt hlt

theorem ofNat_ne {c d : Char} (hc : c.toNat < 0x80) (hd : d.toNat < 0x80) (h : c ≠ d) :
    UInt8.ofNat c.toNat ≠ UInt8.ofNat d.toNat := by
  intro heq
  have hnat : c.toNat = d.toNat := by
    rw [← toNat_ofNat_of_lt hc, ← toNat_ofNat_of_lt hd, heq]
  exact h (Char.toNat_inj.mp hnat)

theorem le_of_mem_utf8EncodeChar {c : Char} (h : 0x80 ≤ c.toNat) {b : UInt8}
    (hb : b ∈ String.utf8EncodeChar c) : 0x80 ≤ b.toNat := by
  have hof {n : Nat} (hleast : 0x80 ≤ n) (hlt : n < 256) : 0x80 ≤ (UInt8.ofNat n).toNat := by
    have hbyte : (UInt8.ofNat n).toNat = n := UInt8.toNat_ofNat_of_lt' hlt
    omega
  have hval : 0x80 ≤ c.val.toNat := h
  unfold String.utf8EncodeChar at hb
  dsimp only at hb
  split at hb
  · omega
  · split at hb
    · simp only [List.mem_cons, List.not_mem_nil, or_false] at hb
      rcases hb with rfl | rfl
      · exact hof (by omega) (by omega)
      · exact hof (by omega) (by omega)
    · split at hb
      · simp only [List.mem_cons, List.not_mem_nil, or_false] at hb
        rcases hb with rfl | rfl | rfl
        · exact hof (by omega) (by omega)
        · exact hof (by omega) (by omega)
        · exact hof (by omega) (by omega)
      · simp only [List.mem_cons, List.not_mem_nil, or_false] at hb
        rcases hb with rfl | rfl | rfl | rfl
        · exact hof (by omega) (by omega)
        · exact hof (by omega) (by omega)
        · exact hof (by omega) (by omega)
        · exact hof (by omega) (by omega)

theorem enter_ofNat {c : Char} (written : List Char) (h : c.toNat < 0x80) :
    Utf8.Decoder.enter written (UInt8.ofNat c.toNat) = ⟨none, c :: written⟩ := by
  have hbyte : (UInt8.ofNat c.toNat).toNat = c.toNat := toNat_ofNat_of_lt h
  have hlt : UInt8.ofNat c.toNat < 0x80 := by
    rw [UInt8.lt_iff_toNat_lt, hbyte]
    exact h
  unfold Utf8.Decoder.enter Utf8.opening
  rw [if_pos hlt, hbyte, Char.ofNat_toNat]

namespace Utf8

theorem opening_two {n : Nat} (hleast : 0xc2 ≤ n) (hgreatest : n < 0xe0) :
    opening (.ofNat n) = .lead ⟨1, 0x80, 0xbf, n - 0xc0⟩ := by
  have hbyte : (UInt8.ofNat n).toNat = n := UInt8.toNat_ofNat_of_lt' (show n < 256 by omega)
  simp only [opening, UInt8.lt_iff_toNat_lt, hbyte]
  rw [if_neg (by simp; omega), if_neg (by simp; omega), if_pos (by simp; omega)]

theorem opening_three {n : Nat} (hleast : 0xe0 ≤ n) (hgreatest : n < 0xf0) :
    opening (.ofNat n) = .lead ⟨2, if n = 0xe0 then 0xa0 else 0x80,
      if n = 0xed then 0x9f else 0xbf, n - 0xe0⟩ := by
  have hbyte : (UInt8.ofNat n).toNat = n := UInt8.toNat_ofNat_of_lt' (show n < 256 by omega)
  simp only [opening, UInt8.lt_iff_toNat_lt, ← UInt8.toNat_inj, hbyte]
  rw [if_neg (by simp; omega), if_neg (by simp; omega), if_neg (by simp; omega),
    if_pos (by simp; omega)]
  rfl

theorem opening_four {n : Nat} (hleast : 0xf0 ≤ n) (hgreatest : n < 0xf5) :
    opening (.ofNat n) = .lead ⟨3, if n = 0xf0 then 0x90 else 0x80,
      if n = 0xf4 then 0x8f else 0xbf, n - 0xf0⟩ := by
  have hbyte : (UInt8.ofNat n).toNat = n := UInt8.toNat_ofNat_of_lt' (show n < 256 by omega)
  simp only [opening, UInt8.lt_iff_toNat_lt, ← UInt8.toNat_inj, hbyte]
  rw [if_neg (by simp; omega), if_neg (by simp; omega), if_neg (by simp; omega),
    if_neg (by simp; omega), if_pos (by simp; omega)]
  rfl

namespace Decoder

theorem step_lead {b : UInt8} {p : Partial} (h : opening b = .lead p) (written : List Char) :
    step ⟨none, written⟩ b = ⟨some p, written⟩ := by
  simp only [step, enter, h]

theorem step_continuation {p : Partial} {n : Nat} (hleast : p.least.toNat ≤ n)
    (hgreatest : n ≤ p.greatest.toNat) (written : List Char) :
    step ⟨some p, written⟩ (.ofNat n) =
      if p.owed = 1 then ⟨none, Char.ofNat (p.bits * 64 + (n - 0x80)) :: written⟩
      else ⟨some ⟨p.owed - 1, 0x80, 0xbf, p.bits * 64 + (n - 0x80)⟩, written⟩ := by
  have hbound : p.greatest.toNat < 256 := p.greatest.toNat_lt
  have hlt : n < 256 := by omega
  have hbyte : (UInt8.ofNat n).toNat = n := UInt8.toNat_ofNat_of_lt' hlt
  unfold step Partial.extend
  simp only [UInt8.le_iff_toNat_le, hbyte]
  rw [if_pos ⟨hleast, hgreatest⟩]

theorem step_last {p : Partial} {n : Nat} (howed : p.owed = 1) (hleast : p.least.toNat ≤ n)
    (hgreatest : n ≤ p.greatest.toNat) (written : List Char) :
    step ⟨some p, written⟩ (.ofNat n) =
      ⟨none, Char.ofNat (p.bits * 64 + (n - 0x80)) :: written⟩ := by
  rw [step_continuation hleast hgreatest, if_pos howed]

theorem step_more {p : Partial} {n : Nat} (howed : p.owed ≠ 1) (hleast : p.least.toNat ≤ n)
    (hgreatest : n ≤ p.greatest.toNat) (written : List Char) :
    step ⟨some p, written⟩ (.ofNat n) =
      ⟨some ⟨p.owed - 1, 0x80, 0xbf, p.bits * 64 + (n - 0x80)⟩, written⟩ := by
  rw [step_continuation hleast hgreatest, if_neg howed]

theorem foldl_step_two {v : Nat} (hleast : 0x7f < v) (hgreatest : v ≤ 0x7ff)
    (written : List Char) :
    [UInt8.ofNat (v / 64 % 32 + 192), UInt8.ofNat (v % 64 + 128)].foldl step ⟨none, written⟩ =
      ⟨none, Char.ofNat v :: written⟩ := by
  have hlead := opening_two (n := v / 64 % 32 + 192) (by omega) (by omega)
  have hbits : (v / 64 % 32 + 192 - 0xc0) * 64 + (v % 64 + 128 - 0x80) = v := by omega
  rw [List.foldl_cons, step_lead hlead, List.foldl_cons,
    step_last rfl (by simp) (by simp; omega), List.foldl_nil]
  dsimp only
  rw [hbits]

-- The least and the greatest second byte keep overlong forms and surrogates out.
theorem foldl_step_three {v : Nat} (hleast : 0x7ff < v) (hgreatest : v ≤ 0xffff)
    (hvalid : v < 0xd800 ∨ 0xdfff < v) (written : List Char) :
    [UInt8.ofNat (v / 4096 % 16 + 224), UInt8.ofNat (v / 64 % 64 + 128),
      UInt8.ofNat (v % 64 + 128)].foldl step ⟨none, written⟩ =
      ⟨none, Char.ofNat v :: written⟩ := by
  have hlead := opening_three (n := v / 4096 % 16 + 224) (by omega) (by omega)
  have hbits : ((v / 4096 % 16 + 224 - 0xe0) * 64 + (v / 64 % 64 + 128 - 0x80)) * 64 +
      (v % 64 + 128 - 0x80) = v := by omega
  rw [List.foldl_cons, step_lead hlead, List.foldl_cons, step_more (by simp), List.foldl_cons,
    step_last rfl (by simp) (by simp; omega), List.foldl_nil]
  · dsimp only
    rw [hbits]
  · dsimp only
    split
    · simp; omega
    · simp
  · dsimp only
    split
    · simp; omega
    · simp; omega

theorem foldl_step_four {v : Nat} (hleast : 0xffff < v) (hgreatest : v < 0x110000)
    (written : List Char) :
    [UInt8.ofNat (v / 262144 % 8 + 240), UInt8.ofNat (v / 4096 % 64 + 128),
      UInt8.ofNat (v / 64 % 64 + 128), UInt8.ofNat (v % 64 + 128)].foldl step ⟨none, written⟩ =
      ⟨none, Char.ofNat v :: written⟩ := by
  have hlead := opening_four (n := v / 262144 % 8 + 240) (by omega) (by omega)
  have hbits : (((v / 262144 % 8 + 240 - 0xf0) * 64 + (v / 4096 % 64 + 128 - 0x80)) * 64 +
      (v / 64 % 64 + 128 - 0x80)) * 64 + (v % 64 + 128 - 0x80) = v := by omega
  rw [List.foldl_cons, step_lead hlead, List.foldl_cons, step_more (by simp), List.foldl_cons,
    step_more (by simp) (by simp) (by simp; omega), List.foldl_cons,
    step_last rfl (by simp) (by simp; omega), List.foldl_nil]
  · dsimp only
    rw [hbits]
  · dsimp only
    split
    · simp; omega
    · simp
  · dsimp only
    split
    · simp; omega
    · simp; omega

theorem foldl_step_utf8EncodeChar (c : Char) (written : List Char) :
    (String.utf8EncodeChar c).foldl step ⟨none, written⟩ = ⟨none, c :: written⟩ := by
  have hvalid : c.val.toNat < 0xd800 ∨ 0xdfff < c.val.toNat ∧ c.val.toNat < 0x110000 := c.valid
  have hchar : Char.ofNat c.val.toNat = c := c.ofNat_toNat
  unfold String.utf8EncodeChar
  dsimp only
  split
  · rename_i hone
    exact enter_ofNat written (Nat.lt_succ_of_le hone)
  · split
    · rw [foldl_step_two (by omega) (by omega), hchar]
    · split
      · rw [foldl_step_three (by omega) (by omega) (by omega), hchar]
      · rw [foldl_step_four (by omega) (by omega), hchar]

end Decoder

theorem decode_encode (text : List Char) : decode (encode text) = text := by
  have hfold (written : List Char) :
      (encode text).foldl Decoder.step ⟨none, written⟩ = ⟨none, text.reverse ++ written⟩ := by
    induction text generalizing written with
    | nil => rfl
    | cons c text ih =>
        change (String.utf8EncodeChar c ++ encode text).foldl Decoder.step ⟨none, written⟩ = _
        rw [List.foldl_append, Decoder.foldl_step_utf8EncodeChar, ih, List.reverse_cons,
          List.append_assoc]
        rfl
  unfold decode Decoder.start
  rw [hfold, List.append_nil]
  exact List.reverse_reverse text

end Utf8

theorem decode_ascii {text : List Char} (h : IsAscii text) : Utf8.decode (ascii text) = text := by
  rw [← encode_eq_ascii h, Utf8.decode_encode]

end ReleaseLine.Text
