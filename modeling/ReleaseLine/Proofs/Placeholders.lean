import Mathlib.Data.List.Count
import ReleaseLine.Config
import ReleaseLine.Proofs.Marks

/-!
Placeholders that are filled in: all in one scan, or one kind after the other. The second pass reads
what the first one has put in, so the two come to the same just if that makes no new placeholder.
-/

namespace ReleaseLine

namespace Text

/-- How often a pattern occurs in a text. -/
def occurrences (pattern text : List Char) : Nat := text.tails.countP (pattern.isPrefixOf ·)

/-- A placeholder is a word in braces. -/
def IsPlaceholder (pattern : List Char) : Prop :=
  ∃ word, pattern = '{' :: (word ++ ['}']) ∧ '{' ∉ word ∧ '}' ∉ word

variable {p q r s text rest : List Char}

theorem occurrences_cons (pattern : List Char) (c : Char) (rest : List Char) :
    occurrences pattern (c :: rest) =
      occurrences pattern rest + if pattern <+: c :: rest then 1 else 0 := by
  change ((c :: rest) :: rest.tails).countP (pattern.isPrefixOf ·) = _
  rw [List.countP_cons]
  simp only [List.isPrefixOf_iff_prefix]
  rfl

theorem occurrences_le_append (pattern front rest : List Char) :
    occurrences pattern rest ≤ occurrences pattern (front ++ rest) := by
  induction front with
  | nil => exact Nat.le_refl _
  | cons c front ih =>
      rw [List.cons_append, occurrences_cons]
      exact Nat.le_trans ih (Nat.le_add_right ..)

theorem replaceFrom_skip (p r text : List Char) (skip : Nat) :
    replaceFrom p r skip text = replaceFrom p r 0 (text.drop skip) := by
  induction text generalizing skip with
  | nil => simp [replaceFrom]
  | cons c text ih =>
      cases skip with
      | zero => rfl
      | succ skip =>
          rw [List.drop_succ_cons, ← ih skip]
          rfl

theorem replaceFrom_cons {c : Char} (h : ¬ p <+: c :: rest) :
    replaceFrom p r 0 (c :: rest) = c :: replaceFrom p r 0 rest := by
  rw [replaceFrom, if_neg (by rwa [List.isPrefixOf_iff_prefix])]

theorem replaceFrom_append {front : List Char}
    (h : occurrences p (front ++ rest) = occurrences p rest) :
    replaceFrom p r 0 (front ++ rest) = front ++ replaceFrom p r 0 rest := by
  induction front with
  | nil => rfl
  | cons c front ih =>
      have hle := occurrences_le_append p front rest
      rw [List.cons_append, occurrences_cons] at h
      have hstart : ¬ p <+: c :: (front ++ rest) := by
        intro hstart
        rw [if_pos hstart] at h
        omega
      rw [List.cons_append, replaceFrom_cons hstart, ih (by omega)]
      rfl

namespace IsPlaceholder

theorem ne_nil (hp : IsPlaceholder p) : p ≠ [] := by
  obtain ⟨word, rfl, -, -⟩ := hp
  exact List.cons_ne_nil _ _

theorem not_prefix_of_ne (hp : IsPlaceholder p) {c : Char} (hc : c ≠ '{') :
    ¬ p <+: c :: rest := by
  obtain ⟨word, rfl, -, -⟩ := hp
  intro h
  exact hc (List.cons_prefix_cons.mp h).1.symm

theorem eq_of_begins (hp : IsPlaceholder p) (hq : IsPlaceholder q) (h : p <+: q ++ rest) :
    p = q := by
  obtain ⟨word, rfl, -, hword⟩ := hp
  obtain ⟨word', rfl, -, hword'⟩ := hq
  obtain ⟨later, hlater⟩ := h
  simp only [List.cons_append, List.append_assoc, List.nil_append, List.cons.injEq,
    true_and] at hlater
  rw [(append_mark_inj hword hword' hlater).1]

/-- No other placeholder starts inside of one. -/
theorem exists_tail (hq : IsPlaceholder q) : ∃ tail, q = '{' :: tail ∧ '{' ∉ tail := by
  obtain ⟨word, rfl, hword, -⟩ := hq
  refine ⟨word ++ ['}'], rfl, ?_⟩
  simp [hword]

theorem count_eq_one (hq : IsPlaceholder q) : q.count '{' = 1 := by
  obtain ⟨tail, rfl, htail⟩ := hq.exists_tail
  rw [List.count_cons_self, List.count_eq_zero_of_not_mem htail]

theorem occurrences_append_of_notMem (hp : IsPlaceholder p) {front : List Char}
    (h : '{' ∉ front) : occurrences p (front ++ rest) = occurrences p rest := by
  induction front with
  | nil => rfl
  | cons c front ih =>
      obtain ⟨hc, hfront⟩ := List.ne_and_not_mem_of_not_mem_cons h
      rw [List.cons_append, occurrences_cons, if_neg (hp.not_prefix_of_ne (Ne.symm hc)),
        ih hfront, Nat.add_zero]

theorem occurrences_append_of_ne (hp : IsPlaceholder p) (hq : IsPlaceholder q) (hne : p ≠ q)
    (rest : List Char) : occurrences p (q ++ rest) = occurrences p rest := by
  have hstart : ¬ p <+: q ++ rest := fun h => hne (hp.eq_of_begins hq h)
  obtain ⟨tail, rfl, htail⟩ := hq.exists_tail
  rw [List.cons_append] at hstart ⊢
  rw [occurrences_cons, if_neg hstart, hp.occurrences_append_of_notMem htail, Nat.add_zero]

theorem occurrences_append_self (hp : IsPlaceholder p) (rest : List Char) :
    occurrences p (p ++ rest) = occurrences p rest + 1 := by
  have hstart : p <+: p ++ rest := List.prefix_append p rest
  obtain ⟨tail, heq, htail⟩ := hp.exists_tail
  have hsplit : p ++ rest = '{' :: (tail ++ rest) := by rw [heq, List.cons_append]
  rw [hsplit] at hstart ⊢
  rw [occurrences_cons, if_pos hstart, hp.occurrences_append_of_notMem htail]

theorem replaceFrom_append_self (hp : IsPlaceholder p) (r rest : List Char) :
    replaceFrom p r 0 (p ++ rest) = r ++ replaceFrom p r 0 rest := by
  have hstart : p.isPrefixOf (p ++ rest) = true :=
    List.isPrefixOf_iff_prefix.mpr (List.prefix_append p rest)
  obtain ⟨c, tail, heq⟩ := List.exists_cons_of_ne_nil hp.ne_nil
  have hsplit : p ++ rest = c :: (tail ++ rest) := by rw [heq, List.cons_append]
  have hdrop : (tail ++ rest).drop (p.length - 1) = rest := by simp [heq]
  rw [hsplit] at hstart ⊢
  rw [replaceFrom, if_pos hstart, replaceFrom_skip, hdrop]

end IsPlaceholder

/-- A text with its placeholders filled in, all in one scan from left to right. Every other
character is kept, and what is filled in is not read. -/
inductive Fills (values : List (List Char × List Char)) : List Char → List Char → Prop
  | done : Fills values [] []
  | filled {pattern value rest filled : List Char} (h : (pattern, value) ∈ values)
      (hrest : Fills values rest filled) : Fills values (pattern ++ rest) (value ++ filled)
  | kept {c : Char} {rest filled : List Char} (h : ∀ pair ∈ values, ¬ pair.1 <+: c :: rest)
      (hrest : Fills values rest filled) : Fills values (c :: rest) (c :: filled)

theorem exists_fills {values : List (List Char × List Char)}
    (hvalues : ∀ pair ∈ values, IsPlaceholder pair.1) (text : List Char) :
    ∃ filled, Fills values text filled := by
  induction hlength : text.length using Nat.strong_induction_on generalizing text with
  | _ n ih =>
      cases text with
      | nil => exact ⟨[], .done⟩
      | cons c rest =>
          by_cases hstart : ∃ pair ∈ values, pair.1 <+: c :: rest
          · obtain ⟨⟨pattern, value⟩, hmem, later, hlater⟩ := hstart
            have hpattern : 0 < pattern.length :=
              List.length_pos_iff.mpr (hvalues _ hmem).ne_nil
            have hless : later.length < n := by
              rw [← hlength, ← hlater, List.length_append]
              exact Nat.lt_add_of_pos_left hpattern
            obtain ⟨filled, hfilled⟩ := ih later.length hless later rfl
            rw [← hlater]
            exact ⟨value ++ filled, .filled hmem hfilled⟩
          · have hless : rest.length < n := by
              rw [← hlength]
              exact Nat.lt_succ_self _
            obtain ⟨filled, hfilled⟩ := ih rest.length hless rest rfl
            refine ⟨c :: filled, .kept ?_ hfilled⟩
            exact fun pair hpair hprefix => hstart ⟨pair, hpair, hprefix⟩

theorem Fills.unique {values : List (List Char × List Char)}
    (hvalues : ∀ pair ∈ values, IsPlaceholder pair.1)
    (hone : ∀ pair ∈ values, ∀ other ∈ values, pair.1 = other.1 → pair = other)
    {text' filled filled' : List Char} (h : Fills values text filled)
    (h' : Fills values text' filled') (htext : text = text') : filled = filled' := by
  induction h generalizing text' filled' with
  | done =>
      cases h' with
      | done => rfl
      | filled hmem hrest =>
          exact absurd (List.append_eq_nil_iff.mp htext.symm).1 (hvalues _ hmem).ne_nil
      | kept hother hrest => cases htext
  | @filled pattern value rest filled hmem hrest ih =>
      cases h' with
      | done => exact absurd (List.append_eq_nil_iff.mp htext).1 (hvalues _ hmem).ne_nil
      | @filled pattern' value' rest' filled' hmem' hrest' =>
          have hprefix : pattern <+: pattern' ++ rest' := ⟨rest, htext⟩
          have hpattern := (hvalues _ hmem).eq_of_begins (hvalues _ hmem') hprefix
          obtain ⟨-, rfl⟩ := Prod.mk.inj (hone _ hmem _ hmem' hpattern)
          obtain rfl := hpattern
          rw [ih hrest' (List.append_cancel_left htext)]
      | kept hother hrest' =>
          exact absurd ⟨rest, htext⟩ (hother _ hmem)
  | @kept c rest filled hother hrest ih =>
      cases h' with
      | done => cases htext
      | @filled pattern' value' rest' filled' hmem' hrest' =>
          exact absurd ⟨rest', htext.symm⟩ (hother _ hmem')
      | kept hother' hrest' =>
          obtain ⟨rfl, rfl⟩ := List.cons.inj htext
          rw [ih hrest' rfl]

section Passes

variable {filled : List Char}

theorem Fills.induction_two {motive : List Char → List Char → Prop}
    (h : Fills [(p, r), (q, s)] text filled) (done : motive [] [])
    (first : ∀ rest filled, Fills [(p, r), (q, s)] rest filled → motive rest filled →
      motive (p ++ rest) (r ++ filled))
    (second : ∀ rest filled, Fills [(p, r), (q, s)] rest filled → motive rest filled →
      motive (q ++ rest) (s ++ filled))
    (kept : ∀ c rest filled, ¬ p <+: c :: rest → ¬ q <+: c :: rest →
      Fills [(p, r), (q, s)] rest filled → motive rest filled →
      motive (c :: rest) (c :: filled)) : motive text filled := by
  induction h with
  | done => exact done
  | filled hmem hrest ih =>
      simp only [List.mem_cons, Prod.mk.injEq, List.not_mem_nil, or_false] at hmem
      rcases hmem with ⟨rfl, rfl⟩ | ⟨rfl, rfl⟩
      · exact first _ _ hrest ih
      · exact second _ _ hrest ih
  | kept hother hrest ih =>
      simp only [List.forall_mem_cons] at hother
      exact kept _ _ _ hother.1 hother.2.1 hrest ih

theorem IsPlaceholder.replaceFrom_append_of_ne (hp : IsPlaceholder p) (hq : IsPlaceholder q)
    (hne : p ≠ q) (rest : List Char) :
    replaceFrom p r 0 (q ++ rest) = q ++ replaceFrom p r 0 rest :=
  replaceFrom_append (hp.occurrences_append_of_ne hq hne rest)

theorem Fills.occurrences_le (hp : IsPlaceholder p) (hq : IsPlaceholder q) (hne : p ≠ q)
    (h : Fills [(p, r), (q, s)] text filled) :
    occurrences q text ≤ occurrences q (replaceFrom p r 0 text) := by
  refine h.induction_two (motive := fun text _ =>
    occurrences q text ≤ occurrences q (replaceFrom p r 0 text)) ?_ ?_ ?_ ?_
  · exact Nat.le_refl _
  · intro rest _ _ ih
    rw [hp.replaceFrom_append_self, hq.occurrences_append_of_ne hp (Ne.symm hne)]
    exact Nat.le_trans ih (occurrences_le_append q r _)
  · intro rest _ _ ih
    rw [hp.replaceFrom_append_of_ne hq hne, hq.occurrences_append_self,
      hq.occurrences_append_self]
    exact Nat.succ_le_succ ih
  · intro c rest _ hfirst hsecond _ ih
    rw [replaceFrom_cons hfirst, occurrences_cons q c rest, if_neg hsecond]
    exact Nat.le_trans ih (occurrences_le_append q [c] _)

theorem Fills.replaceFrom_replaceFrom (hp : IsPlaceholder p) (hq : IsPlaceholder q) (hne : p ≠ q)
    (h : Fills [(p, r), (q, s)] text filled)
    (hocc : occurrences q (replaceFrom p r 0 text) = occurrences q text) :
    replaceFrom q s 0 (replaceFrom p r 0 text) = filled := by
  revert hocc
  refine h.induction_two (motive := fun text filled =>
    occurrences q (replaceFrom p r 0 text) = occurrences q text →
      replaceFrom q s 0 (replaceFrom p r 0 text) = filled) ?_ ?_ ?_ ?_
  · exact fun _ => rfl
  · intro rest filled hrest ih hocc
    -- What is put in adds no occurrence, so none starts in it.
    have hle := hrest.occurrences_le hp hq hne
    rw [hp.replaceFrom_append_self, hq.occurrences_append_of_ne hp (Ne.symm hne)] at hocc
    have hle' := occurrences_le_append q r (replaceFrom p r 0 rest)
    rw [hp.replaceFrom_append_self, replaceFrom_append (by omega), ih (by omega)]
  · intro rest filled _ ih hocc
    rw [hp.replaceFrom_append_of_ne hq hne, hq.occurrences_append_self,
      hq.occurrences_append_self] at hocc
    rw [hp.replaceFrom_append_of_ne hq hne, hq.replaceFrom_append_self, ih (by omega)]
  · intro c rest filled hfirst hsecond hrest ih hocc
    have hle := hrest.occurrences_le hp hq hne
    rw [replaceFrom_cons hfirst, occurrences_cons q c rest, if_neg hsecond] at hocc
    have hle' := occurrences_le_append q [c] (replaceFrom p r 0 rest)
    have hquiet : replaceFrom q s 0 ([c] ++ replaceFrom p r 0 rest) =
        [c] ++ replaceFrom q s 0 (replaceFrom p r 0 rest) :=
      replaceFrom_append (by rw [List.singleton_append] at hle' ⊢; omega)
    rw [List.singleton_append, ih (by rw [List.singleton_append] at hle'; omega)] at hquiet
    rw [replaceFrom_cons hfirst, hquiet]
    rfl

theorem Fills.count_add_occurrences (hp : IsPlaceholder p) (hq : IsPlaceholder q) (hne : p ≠ q)
    (hs : '{' ∉ s) (h : Fills [(p, r), (q, s)] text filled) :
    filled.count '{' + occurrences q text = (replaceFrom p r 0 text).count '{' := by
  refine h.induction_two (motive := fun text filled =>
    filled.count '{' + occurrences q text = (replaceFrom p r 0 text).count '{') ?_ ?_ ?_ ?_
  · obtain ⟨tail, rfl, -⟩ := hq.exists_tail
    rfl
  · intro rest filled _ ih
    rw [hp.replaceFrom_append_self, hq.occurrences_append_of_ne hp (Ne.symm hne),
      List.count_append, List.count_append, Nat.add_assoc, ih]
  · intro rest filled _ ih
    rw [hp.replaceFrom_append_of_ne hq hne, hq.occurrences_append_self, List.count_append,
      List.count_append, List.count_eq_zero_of_not_mem hs, hq.count_eq_one, ← ih]
    omega
  · intro c rest filled hfirst hsecond _ ih
    rw [replaceFrom_cons hfirst, occurrences_cons, if_neg hsecond, List.count_cons,
      List.count_cons, ← ih]
    omega

theorem IsPlaceholder.count_replaceFrom (hq : IsPlaceholder q) (hs : '{' ∉ s)
    (text : List Char) :
    (replaceFrom q s 0 text).count '{' + occurrences q text = text.count '{' := by
  have hvalues : ∀ pair ∈ [(q, s)], IsPlaceholder pair.1 := by simpa using hq
  obtain ⟨filled, hfilled⟩ := exists_fills hvalues text
  induction hfilled with
  | done =>
      obtain ⟨tail, rfl, -⟩ := hq.exists_tail
      rfl
  | @filled pattern value rest filled hmem _ ih =>
      obtain ⟨rfl, rfl⟩ := Prod.mk.inj (List.mem_singleton.mp hmem)
      rw [hq.replaceFrom_append_self, hq.occurrences_append_self, List.count_append,
        List.count_append, List.count_eq_zero_of_not_mem hs, hq.count_eq_one, ← ih]
      omega
  | @kept c rest filled hother _ ih =>
      have hstart : ¬ q <+: c :: rest := hother (q, s) List.mem_cons_self
      rw [replaceFrom_cons hstart, occurrences_cons, if_neg hstart, List.count_cons,
        List.count_cons, ← ih]
      omega

/-- Two passes come to one scan just if the first one makes no new placeholder for the second. -/
theorem Fills.replaceFrom_eq_iff (hp : IsPlaceholder p) (hq : IsPlaceholder q) (hne : p ≠ q)
    (hs : '{' ∉ s) (h : Fills [(p, r), (q, s)] text filled) :
    replaceFrom q s 0 (replaceFrom p r 0 text) = filled ↔
      occurrences q (replaceFrom p r 0 text) = occurrences q text := by
  constructor
  · intro heq
    have hcount := h.count_add_occurrences hp hq hne hs
    have hpass := hq.count_replaceFrom hs (replaceFrom p r 0 text)
    rw [heq] at hpass
    omega
  · exact h.replaceFrom_replaceFrom hp hq hne

theorem prefix_of_prefix_replaceFrom {d : Char} {front : List Char} (hd : d ∉ front)
    (h : front <+: replaceFrom q (d :: s) 0 text) : front <+: text := by
  induction front generalizing text with
  | nil => exact List.nil_prefix
  | cons c front ih =>
      obtain ⟨hc, hfront⟩ := List.ne_and_not_mem_of_not_mem_cons hd
      cases text with
      | nil => simp [replaceFrom] at h
      | cons e text =>
          by_cases hstart : q.isPrefixOf (e :: text) = true
          · rw [replaceFrom, if_pos hstart] at h
            exact absurd (List.cons_prefix_cons.mp h).1.symm hc
          · rw [replaceFrom, if_neg hstart] at h
            obtain ⟨heq, hrest⟩ := List.cons_prefix_cons.mp h
            exact List.cons_prefix_cons.mpr ⟨heq, ih hfront hrest⟩

theorem Fills.replaceFrom_swapped (hp : IsPlaceholder p) (hq : IsPlaceholder q) (hne : p ≠ q)
    {d : Char} (hd : d ∉ p) (hs : '{' ∉ d :: s)
    (h : Fills [(p, r), (q, d :: s)] text filled) :
    replaceFrom p r 0 (replaceFrom q (d :: s) 0 text) = filled := by
  refine h.induction_two (motive := fun text filled =>
    replaceFrom p r 0 (replaceFrom q (d :: s) 0 text) = filled) ?_ ?_ ?_ ?_
  · rfl
  · intro rest filled _ ih
    rw [hq.replaceFrom_append_of_ne hp (Ne.symm hne), hp.replaceFrom_append_self, ih]
  · intro rest filled _ ih
    rw [hq.replaceFrom_append_self,
      replaceFrom_append (hp.occurrences_append_of_notMem hs), ih]
  · intro c rest filled hfirst hsecond _ ih
    have hstart : ¬ p <+: c :: replaceFrom q (d :: s) 0 rest := by
      intro hstart
      obtain ⟨first, tail, rfl⟩ := List.exists_cons_of_ne_nil hp.ne_nil
      obtain ⟨rfl, htail⟩ := List.cons_prefix_cons.mp hstart
      have hbefore := prefix_of_prefix_replaceFrom
        (List.ne_and_not_mem_of_not_mem_cons hd).2 htail
      exact hfirst (List.cons_prefix_cons.mpr ⟨rfl, hbefore⟩)
    rw [replaceFrom_cons hsecond, replaceFrom_cons hstart, ih]

end Passes

theorem toList_replace (pattern replacement text : String) :
    (replace pattern replacement text).toList =
      replaceFrom pattern.toList replacement.toList 0 text.toList := String.toList_ofList

end Text

namespace Config

open Text

def repositoryMark : String := "\x7brepository\x7d"

def versionMark : String := "\x7bversion\x7d"

theorem isPlaceholder_repositoryMark : IsPlaceholder repositoryMark.toList :=
  ⟨"repository".toList, by decide, by decide, by decide⟩

theorem isPlaceholder_versionMark : IsPlaceholder versionMark.toList :=
  ⟨"version".toList, by decide, by decide, by decide⟩

theorem repositoryMark_ne_versionMark : repositoryMark.toList ≠ versionMark.toList := by decide

theorem exists_cons_render (version : VersionNumber) :
    ∃ d rest, version.render.toList = d :: rest ∧ d ∉ repositoryMark.toList ∧ '{' ∉ d :: rest := by
  cases version with
  | development => exact ⟨'d', "evelopment".toList, by decide, by decide, by decide⟩
  | release v =>
      obtain ⟨d, rest, hnumeral⟩ : ∃ d rest, Decimal.numeral v.major = d :: rest :=
        List.exists_cons_of_ne_nil Nat.toDigits_ne_nil
      have hrender : (VersionNumber.release v).render.toList =
          d :: (rest ++ '.' :: Decimal.numeral v.minor) := by
        change (String.ofList v.toChars).toList = _
        rw [String.toList_ofList, ReleaseVersion.toChars, hnumeral, List.cons_append]
      have hdigit : d.isDigit = true :=
        Decimal.isDigit_of_mem_numeral (hnumeral ▸ List.mem_cons_self)
      refine ⟨d, _, hrender, ?_, ?_⟩
      · intro hmem
        have hnone : repositoryMark.toList.all (fun c => !c.isDigit) = true := by decide
        have hnot := List.all_eq_true.mp hnone d hmem
        rw [hdigit] at hnot
        cases hnot
      · rw [← List.cons_append, ← hnumeral]
        intro hmem
        have hbrace : ¬ ('{'.isDigit = true) := by decide
        rcases List.mem_append.mp hmem with hmem | hmem
        · exact hbrace (Decimal.isDigit_of_mem_numeral hmem)
        · rcases List.mem_cons.mp hmem with heq | hmem
          · cases heq
          · exact hbrace (Decimal.isDigit_of_mem_numeral hmem)

/-- What placeholders in the name of an artifact stand for. -/
def nameValues (c : Config) (version : VersionNumber) : List (List Char × List Char) :=
  [(repositoryMark.toList, (c.repository.getD "").toList),
    (versionMark.toList, version.render.toList)]

/-- A name is had from the template in one scan. -/
def Expands (c : Config) (version : VersionNumber) (name : String) : Prop :=
  Fills (c.nameValues version) c.artifact.name.toList name.toList

/-- The template with the repository in place of its placeholders. -/
def nameOfRepository (c : Config) : String :=
  Text.replace repositoryMark (c.repository.getD "") c.artifact.name

/-- One scan of the template gives one name. The artifact has it just if the name of the repository
makes no new placeholder of the version; it would have it in any case if the version came first. -/
theorem name_expands_iff (c : Config) (path : String) (version : VersionNumber) :
    ∃ name, (∀ text, c.Expands version text ↔ text = name) ∧
      ((c.artifactOf path version).name = name ↔
        occurrences versionMark.toList c.nameOfRepository.toList =
          occurrences versionMark.toList c.artifact.name.toList) ∧
      Text.replace repositoryMark (c.repository.getD "")
        (Text.replace versionMark version.render c.artifact.name) = name := by
  have hp := isPlaceholder_repositoryMark
  have hq := isPlaceholder_versionMark
  have hne := repositoryMark_ne_versionMark
  obtain ⟨d, rest, hrender, hd, hbrace⟩ := exists_cons_render version
  have hvalues : ∀ pair ∈ c.nameValues version, IsPlaceholder pair.1 := by
    simp [nameValues, hp, hq]
  have hone : ∀ pair ∈ c.nameValues version, ∀ other ∈ c.nameValues version,
      pair.1 = other.1 → pair = other := by
    simp [nameValues, hne, Ne.symm hne]
  obtain ⟨filled, hfilled⟩ := exists_fills hvalues c.artifact.name.toList
  refine ⟨String.ofList filled, ?_, ?_, ?_⟩
  · intro text
    constructor
    · intro h
      rw [← h.unique hvalues hone hfilled rfl, String.ofList_toList]
    · rintro rfl
      unfold Expands
      rwa [String.toList_ofList]
  · have hname : (c.artifactOf path version).name.toList =
        replaceFrom versionMark.toList version.render.toList 0 c.nameOfRepository.toList :=
      toList_replace versionMark version.render c.nameOfRepository
    have hiff := hfilled.replaceFrom_eq_iff hp hq hne (hrender ▸ hbrace)
    rw [← String.toList_inj, String.toList_ofList, hname]
    unfold nameOfRepository
    rw [toList_replace]
    exact hiff
  · unfold nameValues at hfilled
    rw [hrender] at hfilled
    have hswapped := hfilled.replaceFrom_swapped hp hq hne hd hbrace
    apply String.toList_injective
    rw [toList_replace, toList_replace, hrender, String.toList_ofList]
    exact hswapped

/-- The name of a repository is read for placeholders of the version, alone and together with what
stands around it in the template, but not if the version comes first. -/
theorem repository_reread :
    let version := VersionNumber.release ⟨1, 82, by decide, by decide⟩
    let alone : Config :=
      { repository := some "\x7bversion\x7d", artifact := { name := "\x7brepository\x7d" } }
    let joined : Config :=
      { repository := some "version", artifact := { name := "\x7b\x7brepository\x7d\x7d" } }
    alone.Expands version "\x7bversion\x7d" ∧ joined.Expands version "\x7bversion\x7d" ∧
      (alone.artifactOf "a.jar" version).name = "1.82" ∧
      (joined.artifactOf "a.jar" version).name = "1.82" ∧
      Text.replace repositoryMark "\x7bversion\x7d"
        (Text.replace versionMark version.render alone.artifact.name) = "\x7bversion\x7d" := by
  intro version alone joined
  refine ⟨?_, ?_, by decide +kernel, by decide +kernel, by decide +kernel⟩
  · have hfilled : Fills (alone.nameValues version) (repositoryMark.toList ++ [])
        ("\x7bversion\x7d".toList ++ []) := .filled List.mem_cons_self .done
    rwa [List.append_nil, List.append_nil] at hfilled
  · have htemplate : joined.artifact.name.toList = '{' :: (repositoryMark.toList ++ ['}']) := by
      decide +kernel
    have hname : "\x7bversion\x7d".toList = '{' :: ("version".toList ++ ['}']) := by
      decide +kernel
    unfold Expands
    rw [htemplate, hname]
    refine .kept ?_ (.filled List.mem_cons_self (.kept ?_ .done))
    · decide +kernel
    · decide +kernel

end Config

end ReleaseLine
