import Mathlib.Data.List.Basic
import Mathlib.Data.List.Induction
import ReleaseLine.Proofs.Bytes

/-!
Any bytes as a text. Characters are told apart from what cannot be one: a stray byte, or the longest
run of bytes that begins a character which the next byte does not go on with. Each of these is read
as one replacement character, and nothing else is.
-/

namespace ReleaseLine.Text.Utf8

/-- Some character has these bytes and this one behind them. -/
def GoesOn (run : List UInt8) (b : UInt8) : Prop :=
  ∃ c tail, String.utf8EncodeChar c = run ++ b :: tail

/-- Bytes are read as a text. -/
inductive Decodes : List UInt8 → List Char → Prop
  | nil : Decodes [] []
  | char (c : Char) {bytes text} : Decodes bytes text →
      Decodes (String.utf8EncodeChar c ++ bytes) (c :: text)
  /-- No character begins with this byte. -/
  | stray {b bytes text} : ¬ GoesOn [] b → Decodes bytes text →
      Decodes (b :: bytes) (replacement :: text)
  /-- A character is begun, but what follows does not go on with it. -/
  | cut {run bytes text} : run ≠ [] → (∃ b, GoesOn run b) → (∀ b ∈ bytes.head?, ¬ GoesOn run b) →
      Decodes bytes text → Decodes (run ++ bytes) (replacement :: text)

section Encoding

variable {a b c d : Nat}

theorem val_ofNat {v : Nat} (h : v < 0xd800 ∨ 0xdfff < v ∧ v < 0x110000) :
    (Char.ofNat v).val.toNat = v := by
  rw [Char.ofNat, dif_pos h]
  rfl

theorem utf8EncodeChar_one (ha : a < 0x80) : String.utf8EncodeChar (.ofNat a) = [.ofNat a] := by
  unfold String.utf8EncodeChar
  rw [val_ofNat (by omega)]
  exact if_pos (Nat.le_of_lt_succ ha)

theorem utf8EncodeChar_two (ha : 2 ≤ a) (ha' : a < 32) (hb : b < 64) :
    String.utf8EncodeChar (.ofNat (a * 64 + b)) = [.ofNat (a + 0xc0), .ofNat (b + 0x80)] := by
  unfold String.utf8EncodeChar
  rw [val_ofNat (by omega)]
  dsimp only
  rw [if_neg (by omega), if_pos (by omega), show (a * 64 + b) / 64 % 32 = a by omega,
    show (a * 64 + b) % 64 = b by omega]

theorem utf8EncodeChar_three (ha : a < 16) (hb : b < 64) (hc : c < 64) (hleast : a = 0 → 32 ≤ b)
    (hgreatest : a = 13 → b < 32) :
    String.utf8EncodeChar (.ofNat ((a * 64 + b) * 64 + c)) =
      [.ofNat (a + 0xe0), .ofNat (b + 0x80), .ofNat (c + 0x80)] := by
  unfold String.utf8EncodeChar
  rw [val_ofNat (by omega)]
  dsimp only
  rw [if_neg (by omega), if_neg (by omega), if_pos (by omega),
    show ((a * 64 + b) * 64 + c) / 4096 % 16 = a by omega,
    show ((a * 64 + b) * 64 + c) / 64 % 64 = b by omega,
    show ((a * 64 + b) * 64 + c) % 64 = c by omega]

theorem utf8EncodeChar_four (ha : a < 5) (hb : b < 64) (hc : c < 64) (hd : d < 64)
    (hleast : a = 0 → 16 ≤ b) (hgreatest : a = 4 → b < 16) :
    String.utf8EncodeChar (.ofNat (((a * 64 + b) * 64 + c) * 64 + d)) =
      [.ofNat (a + 0xf0), .ofNat (b + 0x80), .ofNat (c + 0x80), .ofNat (d + 0x80)] := by
  unfold String.utf8EncodeChar
  rw [val_ofNat (by omega)]
  dsimp only
  rw [if_neg (by omega), if_neg (by omega), if_neg (by omega),
    show (((a * 64 + b) * 64 + c) * 64 + d) / 262144 % 8 = a by omega,
    show (((a * 64 + b) * 64 + c) * 64 + d) / 4096 % 64 = b by omega,
    show (((a * 64 + b) * 64 + c) * 64 + d) / 64 % 64 = c by omega,
    show (((a * 64 + b) * 64 + c) * 64 + d) % 64 = d by omega]

end Encoding

theorem utf8EncodeChar_of_single {b : UInt8} {c : Char} (h : opening b = .single c) :
    String.utf8EncodeChar c = [b] := by
  unfold opening at h
  split at h
  · rename_i hlt
    cases h
    rw [utf8EncodeChar_one (UInt8.lt_iff_toNat_lt.mp hlt), UInt8.ofNat_toNat]
  · split at h
    · cases h
    · split at h
      · cases h
      · split at h
        · cases h
        · split at h <;> cases h

/-- The bytes that have been read of a character under way. -/
inductive Reads : Partial → List UInt8 → Prop
  | lead {b p} : opening b = .lead p → Reads p [b]
  | more {p run b} : Reads p run → p.owed ≠ 1 → p.least ≤ b → b ≤ p.greatest →
      Reads ⟨p.owed - 1, 0x80, 0xbf, p.extend b⟩ (run ++ [b])

theorem opening_lead_cases {b : UInt8} {p : Partial} (h : opening b = .lead p) :
    (∃ a, 2 ≤ a ∧ a < 32 ∧ b = .ofNat (a + 0xc0) ∧ p = ⟨1, 0x80, 0xbf, a⟩) ∨
    (∃ a, a < 16 ∧ b = .ofNat (a + 0xe0) ∧
      p = ⟨2, if a = 0 then 0xa0 else 0x80, if a = 13 then 0x9f else 0xbf, a⟩) ∨
    ∃ a, a < 5 ∧ b = .ofNat (a + 0xf0) ∧
      p = ⟨3, if a = 0 then 0x90 else 0x80, if a = 4 then 0x8f else 0xbf, a⟩ := by
  have hbyte (least : Nat) (hle : least ≤ b.toNat) : b = .ofNat (b.toNat - least + least) := by
    rw [Nat.sub_add_cancel hle, UInt8.ofNat_toNat]
  unfold opening at h
  simp only [UInt8.lt_iff_toNat_lt, ← UInt8.toNat_inj, UInt8.reduceToNat] at h
  split at h
  · cases h
  · split at h
    · cases h
    · split at h
      · cases h
        exact .inl ⟨_, by omega, by omega, hbyte 0xc0 (by omega), rfl⟩
      · split at h
        · cases h
          refine .inr (.inl ⟨_, by omega, hbyte 0xe0 (by omega), ?_⟩)
          simp only [show b.toNat - 0xe0 = 0 ↔ b.toNat = 0xe0 by omega,
            show b.toNat - 0xe0 = 13 ↔ b.toNat = 0xed by omega]
        · split at h
          · cases h
            refine .inr (.inr ⟨_, by omega, hbyte 0xf0 (by omega), ?_⟩)
            simp only [show b.toNat - 0xf0 = 0 ↔ b.toNat = 0xf0 by omega,
              show b.toNat - 0xf0 = 4 ↔ b.toNat = 0xf4 by omega]
          · cases h

namespace Reads

variable {p : Partial} {run : List UInt8} {b : UInt8}

theorem range (h : Reads p run) :
    0 < p.owed ∧ 0x80 ≤ p.least.toNat ∧ p.least.toNat ≤ p.greatest.toNat ∧
      p.greatest.toNat ≤ 0xbf := by
  induction h with
  | lead h =>
      rcases opening_lead_cases h with ⟨a, -, -, -, rfl⟩ | ⟨a, -, -, rfl⟩ | ⟨a, -, -, rfl⟩
      · simp
      · dsimp only
        split <;> split <;> simp_all
      · dsimp only
        split <;> split <;> simp_all
  | more h howed _ _ ih =>
      have hpos := ih.1
      exact ⟨by dsimp only; omega, by simp, by simp, by simp⟩

theorem exists_bits (h : Reads p run) (hleast : p.least ≤ b) (hgreatest : b ≤ p.greatest) :
    ∃ m < 64, b = .ofNat (m + 0x80) ∧ p.extend b = p.bits * 64 + m ∧
      p.least.toNat ≤ m + 0x80 ∧ m + 0x80 ≤ p.greatest.toNat := by
  obtain ⟨-, hfrom, -, hto⟩ := h.range
  rw [UInt8.le_iff_toNat_le] at hleast hgreatest
  refine ⟨b.toNat - 0x80, by omega, ?_, rfl, by omega, by omega⟩
  rw [Nat.sub_add_cancel (by omega), UInt8.ofNat_toNat]

theorem utf8EncodeChar_foldl (h : Reads p run) {rest : List Nat} (howed : rest.length = p.owed)
    (hlt : ∀ m ∈ rest, m < 64)
    (hrange : ∀ m ∈ rest.head?, p.least.toNat ≤ m + 0x80 ∧ m + 0x80 ≤ p.greatest.toNat) :
    String.utf8EncodeChar (.ofNat (rest.foldl (fun bits m => bits * 64 + m) p.bits)) =
      run ++ rest.map fun m => .ofNat (m + 0x80) := by
  induction h generalizing rest with
  | lead h =>
      rcases opening_lead_cases h with
        ⟨a, ha, ha', rfl, rfl⟩ | ⟨a, ha, rfl, rfl⟩ | ⟨a, ha, rfl, rfl⟩
      · obtain ⟨b, rfl⟩ := List.length_eq_one_iff.mp howed
        exact utf8EncodeChar_two ha ha' (hlt b (by simp))
      · obtain ⟨b, c, rfl⟩ := List.length_eq_two.mp howed
        have hb := hrange b rfl
        refine utf8EncodeChar_three ha (hlt b (by simp)) (hlt c (by simp)) ?_ ?_
        · rintro rfl
          simpa using hb.1
        · rintro rfl
          exact Nat.lt_succ_of_le (by simpa using hb.2)
      · obtain ⟨b, c, d, rfl⟩ := List.length_eq_three.mp howed
        have hb := hrange b rfl
        refine utf8EncodeChar_four ha (hlt b (by simp)) (hlt c (by simp)) (hlt d (by simp)) ?_ ?_
        · rintro rfl
          simpa using hb.1
        · rintro rfl
          exact Nat.lt_succ_of_le (by simpa using hb.2)
  | more h howed' hleast hgreatest ih =>
      obtain ⟨m, hm, rfl, hbits, hmrange⟩ := h.exists_bits hleast hgreatest
      have hpos := h.range.1
      have hrest := @ih (m :: rest) (by simp only [List.length_cons, howed]; omega)
        (by simpa [hm] using hlt) (by simpa using hmrange)
      rw [List.foldl_cons, ← hbits] at hrest
      rw [hrest, List.append_assoc]
      rfl

theorem utf8EncodeChar_extend (h : Reads p run) (howed : p.owed = 1) (hleast : p.least ≤ b)
    (hgreatest : b ≤ p.greatest) :
    String.utf8EncodeChar (.ofNat (p.extend b)) = run ++ [b] := by
  obtain ⟨m, hm, rfl, hbits, hrange⟩ := h.exists_bits hleast hgreatest
  have hlast := @utf8EncodeChar_foldl p run h [m] howed.symm (by simpa using hm)
    (by simpa using hrange)
  rw [hbits]
  exact hlast

theorem exists_goesOn (h : Reads p run) : ∃ b, GoesOn run b := by
  obtain ⟨hpos, hfrom, hle, hto⟩ := h.range
  have hfinish := @utf8EncodeChar_foldl p run h
    ((p.least.toNat - 0x80) :: List.replicate (p.owed - 1) 0) (by simp; omega)
    (by simp; omega) (by simp; omega)
  exact ⟨_, _, _, hfinish⟩

theorem ne_nil (h : Reads p run) : run ≠ [] := by
  cases h <;> simp

theorem foldl_step (h : Reads p run) (written : List Char) :
    run.foldl Decoder.step ⟨none, written⟩ = ⟨some p, written⟩ := by
  induction h with
  | lead h => exact Decoder.step_lead h written
  | more _ howed hleast hgreatest ih =>
      rw [List.foldl_append, ih, List.foldl_cons, List.foldl_nil, Decoder.step]
      exact (if_pos ⟨hleast, hgreatest⟩).trans (if_neg howed)

end Reads

namespace Decoder

/-- How many characters a decoder has written, one of which may be under way. -/
def weight (d : Decoder) : Nat := d.written.length + (if d.pending.isSome then 1 else 0)

theorem weight_enter (written : List Char) (b : UInt8) :
    (enter written b).weight = written.length + 1 := by
  unfold enter
  cases opening b <;> simp [weight]

theorem weight_le_step (d : Decoder) (b : UInt8) : d.weight ≤ (d.step b).weight := by
  obtain ⟨pending, written⟩ := d
  cases pending with
  | none =>
      change written.length ≤ (enter written b).weight
      rw [weight_enter]
      omega
  | some p =>
      change written.length + 1 ≤ _
      unfold step
      dsimp only
      split
      · split <;> simp [weight]
      · rw [weight_enter, List.length_cons]
        omega

theorem weight_le_foldl (d : Decoder) (bytes : List UInt8) :
    d.weight ≤ (bytes.foldl step d).weight := by
  induction bytes generalizing d with
  | nil => exact Nat.le_refl _
  | cons b bytes ih => exact Nat.le_trans (d.weight_le_step b) (ih (d.step b))

end Decoder

/-- The bytes of a character write it and nothing else, so none of them ends what is under way. -/
theorem Reads.mem_range_of_goesOn {p : Partial} {run : List UInt8} {b : UInt8} (h : Reads p run)
    (hb : GoesOn run b) : p.least ≤ b ∧ b ≤ p.greatest := by
  obtain ⟨c, tail, hc⟩ := hb
  by_contra hrange
  have hfold := Decoder.foldl_step_utf8EncodeChar c []
  have hstep : Decoder.step ⟨some p, []⟩ b = Decoder.enter [replacement] b := if_neg hrange
  rw [hc, List.foldl_append, h.foldl_step, List.foldl_cons, hstep] at hfold
  have hweight := Decoder.weight_le_foldl (Decoder.enter [replacement] b) tail
  rw [hfold, Decoder.weight_enter] at hweight
  exact absurd hweight (by simp [Decoder.weight])

theorem not_goesOn_of_written {run : List UInt8} {written : Char}
    (h : run.foldl Decoder.step ⟨none, []⟩ = ⟨none, [written]⟩) (b : UInt8) : ¬ GoesOn run b := by
  rintro ⟨c, tail, hc⟩
  have hfold := Decoder.foldl_step_utf8EncodeChar c []
  rw [hc, List.foldl_append, h, List.foldl_cons] at hfold
  have hweight := Decoder.weight_le_foldl (Decoder.enter [written] b) tail
  rw [Decoder.weight_enter, show tail.foldl _ (Decoder.enter _ b) = _ from hfold] at hweight
  exact absurd hweight (by simp [Decoder.weight])

theorem not_goesOn_of_invalid {b : UInt8} (h : opening b = .invalid) : ¬ GoesOn [] b := by
  have hstep : [b].foldl Decoder.step ⟨none, []⟩ = ⟨none, [replacement]⟩ := by
    simp only [List.foldl_cons, List.foldl_nil, Decoder.step, Decoder.enter, h]
  rintro ⟨c, tail, hc⟩
  cases tail with
  | nil =>
      have hfold := Decoder.foldl_step_utf8EncodeChar c []
      rw [hc, List.nil_append, hstep] at hfold
      obtain rfl : replacement = c := by simpa using hfold
      have hlength : (String.utf8EncodeChar replacement).length = 1 := congrArg List.length hc
      exact absurd hlength (by decide)
  | cons next tail => exact not_goesOn_of_written hstep next ⟨c, tail, hc⟩

theorem exists_reads {run : List UInt8} (hne : run ≠ []) {next : UInt8} (h : GoesOn run next) :
    ∃ p, Reads p run := by
  induction run using List.reverseRecOn generalizing next with
  | nil => exact absurd rfl hne
  | append_singleton run b ih =>
      obtain ⟨c, tail, hc⟩ := h
      have hb : GoesOn run b := ⟨c, next :: tail, by rw [hc, List.append_assoc]; rfl⟩
      by_cases hrun : run = []
      · subst hrun
        cases hopening : opening b with
        | single first =>
            have hfold : [b].foldl Decoder.step ⟨none, []⟩ = ⟨none, [first]⟩ := by
              simp only [List.foldl_cons, List.foldl_nil, Decoder.step, Decoder.enter, hopening]
            exact absurd ⟨c, tail, hc⟩ (not_goesOn_of_written hfold next)
        | lead p => exact ⟨p, .lead hopening⟩
        | invalid => exact absurd hb (not_goesOn_of_invalid hopening)
      · obtain ⟨p, hp⟩ := ih hrun hb
        obtain ⟨hleast, hgreatest⟩ := hp.mem_range_of_goesOn hb
        by_cases howed : p.owed = 1
        · have hlast := hp.utf8EncodeChar_extend howed hleast hgreatest
          have hfold := Decoder.foldl_step_utf8EncodeChar (.ofNat (p.extend b)) []
          rw [hlast] at hfold
          exact absurd ⟨c, tail, hc⟩ (not_goesOn_of_written hfold next)
        · exact ⟨_, hp.more howed hleast hgreatest⟩

theorem Reads.goesOn_of_mem_range {p : Partial} {run : List UInt8} {b : UInt8} (h : Reads p run)
    (hleast : p.least ≤ b) (hgreatest : b ≤ p.greatest) : GoesOn run b := by
  by_cases howed : p.owed = 1
  · exact ⟨_, [], h.utf8EncodeChar_extend howed hleast hgreatest⟩
  · obtain ⟨next, c, tail, hc⟩ := (h.more howed hleast hgreatest).exists_goesOn
    exact ⟨c, next :: tail, by rw [hc, List.append_assoc]; rfl⟩

theorem exists_enter (b : UInt8) :
    ∃ pending new, ∀ written, Decoder.enter written b = ⟨pending, new ++ written⟩ := by
  unfold Decoder.enter
  cases opening b with
  | single c => exact ⟨none, [c], fun _ => rfl⟩
  | lead p => exact ⟨some p, [], fun _ => rfl⟩
  | invalid => exact ⟨none, [replacement], fun _ => rfl⟩

theorem exists_step (pending : Option Partial) (b : UInt8) :
    ∃ pending' new, ∀ written,
      Decoder.step ⟨pending, written⟩ b = ⟨pending', new ++ written⟩ := by
  obtain ⟨entered, new, henter⟩ := exists_enter b
  cases pending with
  | none => exact ⟨entered, new, henter⟩
  | some p =>
      unfold Decoder.step
      dsimp only
      split
      · split
        · exact ⟨none, [_], fun _ => rfl⟩
        · exact ⟨some _, [], fun _ => rfl⟩
      · refine ⟨entered, new ++ [replacement], fun written => ?_⟩
        rw [henter, List.append_assoc]
        rfl

theorem finish_foldl (pending : Option Partial) (written : List Char) (bytes : List UInt8) :
    (bytes.foldl Decoder.step ⟨pending, written⟩).finish =
      written.reverse ++ (bytes.foldl Decoder.step ⟨pending, []⟩).finish := by
  induction bytes generalizing pending written with
  | nil => cases pending <;> simp [Decoder.finish]
  | cons b bytes ih =>
      obtain ⟨pending', new, hstep⟩ := exists_step pending b
      rw [List.foldl_cons, List.foldl_cons, hstep, hstep, ih, ih pending' (new ++ []),
        List.append_nil, List.reverse_append, List.append_assoc]

theorem decode_char_append (c : Char) (bytes : List UInt8) :
    decode (String.utf8EncodeChar c ++ bytes) = c :: decode bytes := by
  unfold decode Decoder.start
  rw [List.foldl_append, Decoder.foldl_step_utf8EncodeChar, finish_foldl]
  rfl

theorem finish_of_cut {p : Partial} {bytes : List UInt8}
    (h : ∀ b ∈ bytes.head?, ¬ (p.least ≤ b ∧ b ≤ p.greatest)) :
    (bytes.foldl Decoder.step ⟨some p, []⟩).finish = replacement :: decode bytes := by
  cases bytes with
  | nil => rfl
  | cons b bytes =>
      obtain ⟨pending, new, henter⟩ := exists_enter b
      have hcut : Decoder.step ⟨some p, []⟩ b = ⟨pending, new ++ [replacement]⟩ :=
        (if_neg (h b rfl)).trans (henter _)
      have hfresh : Decoder.step ⟨none, []⟩ b = ⟨pending, new ++ []⟩ := henter []
      unfold decode Decoder.start
      rw [List.foldl_cons, List.foldl_cons, hcut, hfresh, finish_foldl,
        finish_foldl pending (new ++ []), List.append_nil, List.reverse_append]
      rfl

theorem decodes_foldl (bytes : List UInt8) :
    Decodes bytes (decode bytes) ∧ ∀ p run, Reads p run →
      Decodes (run ++ bytes) (bytes.foldl Decoder.step ⟨some p, []⟩).finish := by
  induction bytes with
  | nil =>
      refine ⟨.nil, fun p run hrun => ?_⟩
      exact .cut hrun.ne_nil hrun.exists_goesOn (by simp) .nil
  | cons b bytes ih =>
      obtain ⟨hnone, hsome⟩ := ih
      have henter : Decodes (b :: bytes) (decode (b :: bytes)) := by
        unfold decode Decoder.start
        rw [List.foldl_cons, Decoder.step]
        unfold Decoder.enter
        cases hopening : opening b with
        | single c =>
            have hchar := Decodes.char c hnone
            rw [utf8EncodeChar_of_single hopening] at hchar
            rw [finish_foldl]
            exact hchar
        | lead p => exact hsome p [b] (.lead hopening)
        | invalid =>
            rw [finish_foldl]
            exact .stray (not_goesOn_of_invalid hopening) hnone
      refine ⟨henter, fun p run hrun => ?_⟩
      by_cases hrange : p.least ≤ b ∧ b ≤ p.greatest
      · by_cases howed : p.owed = 1
        · have hstep : Decoder.step ⟨some p, []⟩ b = ⟨none, [.ofNat (p.extend b)]⟩ :=
            (if_pos hrange).trans (if_pos howed)
          have hchar := Decodes.char (Char.ofNat (p.extend b)) hnone
          rw [hrun.utf8EncodeChar_extend howed hrange.1 hrange.2, List.append_assoc] at hchar
          rw [List.foldl_cons, hstep, finish_foldl]
          exact hchar
        · have hstep : Decoder.step ⟨some p, []⟩ b =
              ⟨some ⟨p.owed - 1, 0x80, 0xbf, p.extend b⟩, []⟩ :=
            (if_pos hrange).trans (if_neg howed)
          have hmore := hsome _ _ (hrun.more howed hrange.1 hrange.2)
          rw [List.append_assoc] at hmore
          rwa [List.foldl_cons, hstep]
      · have hcut : ∀ next ∈ (b :: bytes).head?, ¬ (p.least ≤ next ∧ next ≤ p.greatest) := by
          rintro next ⟨⟩
          exact hrange
        rw [finish_of_cut hcut]
        exact .cut hrun.ne_nil hrun.exists_goesOn
          (fun next hnext hgoes => hcut next hnext (hrun.mem_range_of_goesOn hgoes)) henter

/-- Bytes are read as one text only, the one to which they are decoded. -/
theorem decodes_iff {bytes : List UInt8} {text : List Char} :
    Decodes bytes text ↔ decode bytes = text := by
  constructor
  · intro h
    induction h with
    | nil => rfl
    | char c _ ih => rw [decode_char_append, ih]
    | @stray b bytes text hb _ ih =>
        cases hopening : opening b with
        | single c => exact absurd ⟨c, [], utf8EncodeChar_of_single hopening⟩ hb
        | lead p =>
            obtain ⟨next, c, tail, hc⟩ := (Reads.lead hopening).exists_goesOn
            exact absurd ⟨c, next :: tail, hc⟩ hb
        | invalid =>
            have hstep : Decoder.step Decoder.start b = ⟨none, [replacement]⟩ := by
              simp only [Decoder.step, Decoder.start, Decoder.enter, hopening]
            unfold decode
            rw [List.foldl_cons, hstep, finish_foldl, ← ih]
            rfl
    | @cut run bytes text hne hgoes hnext _ ih =>
        obtain ⟨b, hb⟩ := hgoes
        obtain ⟨p, hp⟩ := exists_reads hne hb
        unfold decode Decoder.start
        rw [List.foldl_append, hp.foldl_step, finish_of_cut, ih]
        rintro next hnext' ⟨hleast, hgreatest⟩
        exact hnext next hnext' (hp.goesOn_of_mem_range hleast hgreatest)
  · rintro rfl
    exact (decodes_foldl bytes).1

end ReleaseLine.Text.Utf8
