import ReleaseLine.Proofs.Bytes
import ReleaseLine.Url.Form

namespace ReleaseLine.Url

open Text (ascii IsAscii)

namespace Percent

theorem ne_of_isAlphanum {c d : Char} (h : c.isAlphanum = true) (hd : d.isAlphanum = false) :
    c ≠ d := by
  rintro rfl
  rw [hd] at h
  cases h

theorem range_of_isAlphanum {c : Char} (h : c.isAlphanum = true) :
    48 ≤ c.toNat ∧ c.toNat < 127 := by
  rcases (Bool.or_eq_true _ _).mp h with hletter | hdigit
  · rcases (Bool.or_eq_true _ _).mp hletter with hupper | hlower
    · have hbounds : 65 ≤ c.toNat ∧ c.toNat ≤ 90 := of_decide_eq_true hupper
      omega
    · obtain ⟨hge, hle⟩ := (Bool.and_eq_true _ _).mp hlower
      have hge : 97 ≤ c.toNat := of_decide_eq_true hge
      have hle : c.toNat ≤ 122 := of_decide_eq_true hle
      omega
  · obtain ⟨hge, hle⟩ := (Bool.and_eq_true _ _).mp hdigit
    have hge : 48 ≤ c.toNat := of_decide_eq_true hge
    have hle : c.toNat ≤ 57 := of_decide_eq_true hle
    omega

theorem hexValue?_hexDigit {n : Nat} (h : n < 16) :
    hexValue? (UInt8.ofNat (hexDigit n).toNat) = some n := by
  have hall : ∀ m < 16, hexValue? (UInt8.ofNat (hexDigit m).toNat) = some m := by decide
  exact hall n h

theorem isAlphanum_hexDigit {n : Nat} (h : n < 16) : (hexDigit n).isAlphanum = true := by
  have hall : ∀ m < 16, (hexDigit m).isAlphanum = true := by decide
  exact hall n h

theorem mem_encodeByte {b : UInt8} {c : Char} (h : c ∈ encodeByte b) :
    c = '%' ∨ c.isAlphanum = true := by
  have hlt : b.toNat < 256 := b.toNat_lt
  simp only [encodeByte, List.mem_cons, List.not_mem_nil, or_false] at h
  rcases h with rfl | rfl | rfl
  · exact .inl rfl
  · exact .inr (isAlphanum_hexDigit (by omega))
  · exact .inr (isAlphanum_hexDigit (by omega))

theorem mem_escapes {bytes : List UInt8} {c : Char} (h : c ∈ bytes.flatMap encodeByte) :
    c = '%' ∨ c.isAlphanum = true := by
  obtain ⟨b, -, hc⟩ := List.mem_flatMap.mp h
  exact mem_encodeByte hc

theorem lt_of_mem_escapes {bytes : List UInt8} {c : Char} (h : c ∈ bytes.flatMap encodeByte) :
    c.toNat < 0x80 := by
  rcases mem_escapes h with rfl | hc
  · decide
  · have hrange := range_of_isAlphanum hc
    omega

theorem decode_cons {a : UInt8} (h : a ≠ 0x25) (rest : List UInt8) :
    decode (a :: rest) = a :: decode rest := by
  have hnone (high low : UInt8) : escaped? a high low = none := if_neg h
  match rest with
  | [] => rfl
  | [_] => rfl
  | high :: low :: rest => simp only [decode, hnone]

theorem decode_encodeByte (b : UInt8) (rest : List UInt8) :
    decode (ascii (encodeByte b) ++ rest) = b :: decode rest := by
  have hlt : b.toNat < 256 := b.toNat_lt
  have hescaped : escaped? (UInt8.ofNat '%'.toNat) (UInt8.ofNat (hexDigit (b.toNat / 16)).toNat)
      (UInt8.ofNat (hexDigit (b.toNat % 16)).toNat) = some b := by
    unfold escaped?
    rw [if_pos (by decide), hexValue?_hexDigit (by omega), hexValue?_hexDigit (by omega)]
    dsimp only
    rw [Nat.div_add_mod', UInt8.ofNat_toNat]
  simp only [encodeByte, ascii, List.map_cons, List.map_nil, List.cons_append, List.nil_append,
    decode, hescaped]

theorem decode_escapes (bytes rest : List UInt8) :
    decode (ascii (bytes.flatMap encodeByte) ++ rest) = bytes ++ decode rest := by
  induction bytes with
  | nil => rfl
  | cons b bytes ih =>
      have happend : ascii ((b :: bytes).flatMap encodeByte) =
          ascii (encodeByte b) ++ ascii (bytes.flatMap encodeByte) := by
        simp [ascii]
      rw [happend, List.append_assoc, decode_encodeByte, ih]
      rfl

section EncodeSet

variable {set : EncodeSet}

theorem encodeChar_of_kept {c : Char} (h : c.toNat < 0x80 ∧ set c = false) :
    encodeChar set c = [c] := if_pos h

theorem encodeChar_of_not_kept {c : Char} (h : ¬ (c.toNat < 0x80 ∧ set c = false)) :
    encodeChar set c = (String.utf8EncodeChar c).flatMap encodeByte := if_neg h

theorem encode_of_kept {set : EncodeSet} {text : List Char}
    (h : ∀ c ∈ text, c.toNat < 0x80 ∧ set c = false) : encode set text = text := by
  induction text with
  | nil => rfl
  | cons c text ih =>
      have hc : encodeChar set c = [c] := if_pos (h c List.mem_cons_self)
      have hrest := ih fun d hd => h d (List.mem_cons_of_mem c hd)
      unfold encode at hrest ⊢
      rw [List.flatMap_cons, hc, hrest]
      rfl

theorem mem_encode {text : List Char} {c : Char} (h : c ∈ encode set text) :
    c = '%' ∨ c.isAlphanum = true ∨ c ∈ text ∧ set c = false := by
  obtain ⟨d, hd, hc⟩ := List.mem_flatMap.mp h
  by_cases hkept : d.toNat < 0x80 ∧ set d = false
  · rw [encodeChar_of_kept hkept, List.mem_singleton] at hc
    rw [hc]
    exact .inr (.inr ⟨hd, hkept.2⟩)
  · rw [encodeChar_of_not_kept hkept] at hc
    rcases mem_escapes hc with rfl | hc
    · exact .inl rfl
    · exact .inr (.inl hc)

theorem isAscii_encode (set : EncodeSet) (text : List Char) : IsAscii (encode set text) := by
  intro c h
  obtain ⟨d, -, hc⟩ := List.mem_flatMap.mp h
  by_cases hkept : d.toNat < 0x80 ∧ set d = false
  · rw [encodeChar_of_kept hkept, List.mem_singleton] at hc
    rw [hc]
    exact hkept.1
  · rw [encodeChar_of_not_kept hkept] at hc
    exact lt_of_mem_escapes hc

theorem notMem_encode {mark : Char} (hset : set mark = true) (hplain : mark.isAlphanum = false)
    (hsign : mark ≠ '%') (text : List Char) : mark ∉ encode set text := by
  intro h
  rcases mem_encode h with heq | halphanum | ⟨-, hkept⟩
  · exact hsign heq
  · rw [hplain] at halphanum
    cases halphanum
  · rw [hset] at hkept
    cases hkept

variable (hset : set '%' = true)

include hset

theorem decode_encodeChar (c : Char) (rest : List UInt8) :
    decode (ascii (encodeChar set c) ++ rest) = String.utf8EncodeChar c ++ decode rest := by
  by_cases hkept : c.toNat < 0x80 ∧ set c = false
  · have hsign : c ≠ '%' := by
      rintro rfl
      rw [hset] at hkept
      cases hkept.2
    rw [encodeChar_of_kept hkept, Text.utf8EncodeChar_of_lt hkept.1]
    exact decode_cons (Text.ofNat_ne hkept.1 (by decide) hsign) rest
  · rw [encodeChar_of_not_kept hkept, decode_escapes]

theorem decode_encode (text : List Char) :
    decode (ascii (encode set text)) = Text.Utf8.encode text := by
  induction text with
  | nil => rfl
  | cons c text ih =>
      have happend : ascii (encode set (c :: text)) =
          ascii (encodeChar set c) ++ ascii (encode set text) := by
        simp [ascii, encode]
      rw [happend, decode_encodeChar hset, ih]
      rfl

theorem decodeText_encode (text : List Char) :
    decodeText (String.ofList (encode set text)) = Text.Utf8.encode text := by
  unfold decodeText
  rw [Text.toList_toUTF8_of_ascii (isAscii_encode set text), decode_encode hset]

end EncodeSet

end Percent

namespace Form

theorem encodeChar_cases (c : Char) :
    c = ' ' ∧ encodeChar c = ['+'] ∨
      c ≠ ' ' ∧ isPlain c = true ∧ encodeChar c = [c] ∨
      encodeChar c = (String.utf8EncodeChar c).flatMap Percent.encodeByte := by
  unfold encodeChar
  split
  · rename_i hspace
    exact .inl ⟨hspace, rfl⟩
  · rename_i hspace
    split
    · rename_i hplain
      exact .inr (.inl ⟨hspace, hplain, rfl⟩)
    · exact .inr (.inr rfl)

theorem isPlain_cases {c : Char} (h : isPlain c = true) :
    c.isAlphanum = true ∨ c = '*' ∨ c = '-' ∨ c = '.' ∨ c = '_' := by
  simpa [isPlain] using h

theorem mem_encode {text : List Char} {c : Char} (h : c ∈ encode text) :
    c = '%' ∨ c = '+' ∨ isPlain c = true := by
  obtain ⟨d, -, hc⟩ := List.mem_flatMap.mp h
  rcases encodeChar_cases d with ⟨-, hd⟩ | ⟨-, hplain, hd⟩ | hd
  · rw [hd, List.mem_singleton] at hc
    exact .inr (.inl hc)
  · rw [hd, List.mem_singleton] at hc
    rw [hc]
    exact .inr (.inr hplain)
  · rw [hd] at hc
    rcases Percent.mem_escapes hc with rfl | hc
    · exact .inl rfl
    · exact .inr (.inr (by simp [isPlain, hc]))

theorem notMem_encode {mark : Char} (hplain : isPlain mark = false) (hsign : mark ≠ '%')
    (hplus : mark ≠ '+') (text : List Char) : mark ∉ encode text := by
  intro h
  rcases mem_encode h with heq | heq | heq
  · exact hsign heq
  · exact hplus heq
  · rw [hplain] at heq
    cases heq

theorem lt_of_isPlain {c : Char} (h : isPlain c = true) : c.toNat < 0x80 := by
  rcases isPlain_cases h with h | rfl | rfl | rfl | rfl
  · have hrange := Percent.range_of_isAlphanum h
    omega
  · decide
  · decide
  · decide
  · decide

theorem isAscii_encode (text : List Char) : IsAscii (encode text) := by
  intro c hc
  rcases mem_encode hc with rfl | rfl | h
  · decide
  · decide
  · exact lt_of_isPlain h

/-- A byte of a query as it is read: a plus sign is a space. -/
def spaced (b : UInt8) : UInt8 := if b = 0x2b then 0x20 else b

theorem spaced_ofNat {c : Char} (hc : c.toNat < 0x80) (h : c ≠ '+') :
    spaced (UInt8.ofNat c.toNat) = UInt8.ofNat c.toNat :=
  if_neg (Text.ofNat_ne hc (by decide : '+'.toNat < 0x80) h)

theorem map_spaced_ascii {text : List Char} (hascii : IsAscii text) (h : '+' ∉ text) :
    (ascii text).map spaced = ascii text := by
  rw [ascii, List.map_map]
  apply List.map_congr_left
  intro c hc
  apply spaced_ofNat (hascii c hc)
  rintro rfl
  exact h hc

theorem decode_encodeChar (c : Char) (rest : List UInt8) :
    Percent.decode ((ascii (encodeChar c)).map spaced ++ rest) =
      String.utf8EncodeChar c ++ Percent.decode rest := by
  rcases encodeChar_cases c with ⟨rfl, hc⟩ | ⟨-, hplain, hc⟩ | hc
  · rw [hc]
    exact Percent.decode_cons (by decide : (0x20 : UInt8) ≠ 0x25) rest
  · have hlt : c.toNat < 0x80 := lt_of_isPlain hplain
    have hplus : '+' ∉ [c] := by
      rw [List.mem_singleton]
      rintro rfl
      cases hplain
    have hsign : c ≠ '%' := by
      rintro rfl
      cases hplain
    rw [hc, map_spaced_ascii (by simpa [IsAscii] using hlt) hplus,
      Text.utf8EncodeChar_of_lt hlt]
    exact Percent.decode_cons (Text.ofNat_ne hlt (by decide) hsign) rest
  · have hplus : '+' ∉ (String.utf8EncodeChar c).flatMap Percent.encodeByte := by
      intro h
      rcases Percent.mem_escapes h with heq | heq
      · cases heq
      · cases heq
    rw [hc, map_spaced_ascii (fun d => Percent.lt_of_mem_escapes) hplus, Percent.decode_escapes]

theorem decode_map_spaced (text : List Char) :
    Percent.decode ((ascii (encode text)).map spaced) = Text.Utf8.encode text := by
  induction text with
  | nil => rfl
  | cons c text ih =>
      have happend : (ascii (encode (c :: text))).map spaced =
          (ascii (encodeChar c)).map spaced ++ (ascii (encode text)).map spaced := by
        simp [ascii, encode]
      rw [happend, decode_encodeChar, ih]
      rfl

theorem decode_encode (text : String) : decode (encode text.toList) = text := by
  have hbytes : (String.ofList (encode text.toList)).toUTF8.toList = ascii (encode text.toList) :=
    Text.toList_toUTF8_of_ascii (isAscii_encode text.toList)
  have hdecoded : Percent.decode ((ascii (encode text.toList)).map fun b =>
      if b = 0x2b then 0x20 else b) = Text.Utf8.encode text.toList := decode_map_spaced text.toList
  unfold decode
  dsimp only
  rw [hbytes, hdecoded, Text.Utf8.decode_encode, String.ofList_toList]

end Form

end ReleaseLine.Url
