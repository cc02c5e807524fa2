import Mathlib.Data.List.Basic
import ReleaseLine.Operation
import ReleaseLine.Proofs.Escape

namespace ReleaseLine

namespace Url

namespace Path

/-- A text as it is put into a path. -/
def escaped (special : Bool) (text : List Char) : String :=
  String.ofList (Percent.encode (if special then Percent.specialSegment else Percent.segment) text)

/-- A path to whose end a segment is added stays as it is before this end. -/
structure IsSettled (onDisk : Bool) (list : List String) : Prop where
  notEmpty : list ≠ []
  notRoot : list ≠ [""]
  head : onDisk = true → list.head? ≠ some ""

theorem trimStart_eq {list : List String} (h : IsSettled true list) : trimStart list = list := by
  obtain ⟨first, rest, rfl⟩ := List.exists_cons_of_ne_nil h.notEmpty
  have hfirst : first ≠ "" := fun heq => h.head rfl (by rw [heq]; rfl)
  have hdrop : (first :: rest).dropWhile (· = "") = first :: rest :=
    List.dropWhile_cons_of_neg (by simpa using hfirst)
  unfold trimStart
  rw [hdrop]

theorem IsSettled.append {onDisk : Bool} {list : List String} (h : IsSettled onDisk list)
    (texts : List String) : IsSettled onDisk (list ++ texts) := by
  obtain ⟨first, rest, rfl⟩ := List.exists_cons_of_ne_nil h.notEmpty
  refine ⟨by simp, ?_, h.head⟩
  intro heq
  obtain ⟨rfl, hnil⟩ := List.cons_eq_cons.mp heq
  rw [(List.append_eq_nil_iff.mp hnil).1] at h
  exact h.notRoot rfl

/-- A text that is no dot segment until tabs and line breaks are dropped from it is none. -/
def HidesNoDots (text : String) : Prop :=
  dropTabs text.toList = ['.'] ∨ dropTabs text.toList = ['.', '.'] → text = "." ∨ text = ".."

/-- What stands for a text in a path. -/
def segmentsFor (special : Bool) (text : String) : List String :=
  if text = "." ∨ text = ".." then []
  else [escaped special (dropTabs text.toList)]

theorem push_of_isSettled (special : Bool) {onDisk : Bool} {list : List String} {text : String}
    (htext : HidesNoDots text) (h : IsSettled onDisk list) :
    push special onDisk list text = list ++ segmentsFor special text := by
  unfold push segmentsFor
  by_cases hdots : text = "." ∨ text = ".."
  · rw [if_pos hdots, if_pos hdots, List.append_nil]
  · have hsingle : dropTabs text.toList ≠ ['.'] := fun heq => hdots (htext (.inl heq))
    have hdouble : dropTabs text.toList ≠ ['.', '.'] := fun heq => hdots (htext (.inr heq))
    have hfirst : (onDisk && (list.isEmpty || decide (list = [""]))) = false := by
      simp [h.notEmpty, h.notRoot]
    rw [if_neg hdots, if_neg hdots]
    dsimp only
    rw [if_neg hsingle, if_neg hdouble, hfirst, Bool.false_and, add, if_neg h.notRoot]
    cases onDisk with
    | false => rfl
    | true => exact trimStart_eq (h.append [escaped special (dropTabs text.toList)])

theorem foldl_push (special : Bool) {onDisk : Bool} {list texts : List String}
    (htexts : ∀ text ∈ texts, HidesNoDots text) (h : IsSettled onDisk list) :
    texts.foldl (push special onDisk) list = list ++ texts.flatMap (segmentsFor special) := by
  induction texts generalizing list with
  | nil => exact (List.append_nil list).symm
  | cons text texts ih =>
      have hrest : ∀ t ∈ texts, HidesNoDots t := fun t ht =>
        htexts t (List.mem_cons_of_mem text ht)
      rw [List.foldl_cons, push_of_isSettled special (htexts text List.mem_cons_self) h,
        ih hrest (h.append _), List.append_assoc]
      rfl

/-- A text of letters and digits only. -/
structure IsPlain (text : String) : Prop where
  notEmpty : text ≠ ""
  alphanum : ∀ c ∈ text.toList, c.isAlphanum = true

instance (text : String) : Decidable (IsPlain text) :=
  decidable_of_iff (text ≠ "" ∧ text.toList.all Char.isAlphanum = true)
    ⟨fun h => ⟨h.1, List.all_eq_true.mp h.2⟩,
      fun h => ⟨h.notEmpty, List.all_eq_true.mpr h.alphanum⟩⟩

theorem specialSegment_of_isAlphanum {c : Char} (h : c.isAlphanum = true) :
    Percent.specialSegment c = false := by
  have hrange := Percent.range_of_isAlphanum h
  have hcontrol : Percent.isControl c = false := by
    simp only [Percent.isControl, Bool.or_eq_false_iff, decide_eq_false_iff_not]
    omega
  have hother (list : List Char) (hlist : list.any Char.isAlphanum = false) :
      list.contains c = false := by
    refine Bool.eq_false_iff.mpr fun hmem => ?_
    exact List.any_eq_false.mp hlist c (List.contains_iff_mem.mp hmem) h
  have hne (d : Char) (hd : d.isAlphanum = false) : decide (c = d) = false :=
    decide_eq_false (Percent.ne_of_isAlphanum h hd)
  unfold Percent.specialSegment Percent.segment Percent.path Percent.fragment
  rw [hcontrol, hother _ (by decide), hother _ (by decide), hne _ rfl, hne _ rfl, hne _ rfl]
  rfl

namespace IsPlain

variable {text : String} (h : IsPlain text)

include h

theorem escaped_eq (special : Bool) : escaped special text.toList = text := by
  refine (congrArg String.ofList (Percent.encode_of_kept fun c hc => ?_)).trans
    String.ofList_toList
  have hkept := specialSegment_of_isAlphanum (h.alphanum c hc)
  have hrange := Percent.range_of_isAlphanum (h.alphanum c hc)
  refine ⟨by omega, ?_⟩
  cases special with
  | false => exact (Bool.or_eq_false_iff.mp hkept).1
  | true => exact hkept

theorem isTabOrBreak_eq {c : Char} (hc : c ∈ text.toList) : isTabOrBreak c = false := by
  have hne (d : Char) (hd : d.isAlphanum = false) : decide (c = d) = false :=
    decide_eq_false (Percent.ne_of_isAlphanum (h.alphanum c hc) hd)
  unfold isTabOrBreak
  rw [hne _ rfl, hne _ rfl, hne _ rfl]
  rfl

theorem dropTabs_eq : dropTabs text.toList = text.toList := by
  refine List.filter_eq_self.mpr fun c hc => ?_
  rw [h.isTabOrBreak_eq hc]
  rfl

theorem notMem {c : Char} (hc : c.isAlphanum = false) : c ∉ text.toList := fun hmem =>
  Percent.ne_of_isAlphanum (h.alphanum c hmem) hc rfl

theorem partedDrive?_eq : partedDrive? text.toList = none := by
  have hcolon := h.notMem (c := ':') rfl
  unfold partedDrive?
  split
  · rename_i letter more hpiece
    split
    · rename_i tab rest hmore
      have hmem : ':' ∈ more := by
        refine List.dropWhile_subset isTabOrBreak ?_
        rw [hmore]
        exact List.mem_cons_self
      have hpart : ':' ∈ text.toList.dropWhile isTabOrBreak := by
        rw [hpiece]
        exact List.mem_cons_of_mem letter hmem
      exact absurd (List.dropWhile_subset _ hpart) hcolon
    · rfl
  · rfl

theorem isDrive_eq : isDrive text.toList = false := by
  unfold isDrive
  split
  · rename_i letter mark htext
    have hne (d : Char) (hd : d.isAlphanum = false) : decide (mark = d) = false := by
      refine decide_eq_false ?_
      rintro rfl
      exact h.notMem hd (by simp [htext])
    rw [hne _ rfl, hne _ rfl]
    simp
  · rfl

theorem notDots : ¬ (text = "." ∨ text = "..") := by
  have hdot : '.' ∉ text.toList := h.notMem rfl
  rintro (rfl | rfl)
  · exact hdot (by decide)
  · exact hdot (by decide)

theorem dropTabs_ne : dropTabs text.toList ≠ ['.'] ∧ dropTabs text.toList ≠ ['.', '.'] := by
  have hdot : '.' ∉ text.toList := h.notMem rfl
  rw [h.dropTabs_eq]
  exact ⟨fun heq => hdot (by simp [heq]), fun heq => hdot (by simp [heq])⟩

theorem hidesNoDots : HidesNoDots text := by
  rintro (hsingle | hdouble)
  · exact absurd hsingle h.dropTabs_ne.1
  · exact absurd hdouble h.dropTabs_ne.2

theorem segmentsFor_eq (special : Bool) : segmentsFor special text = [text] := by
  unfold segmentsFor
  rw [if_neg h.notDots, h.dropTabs_eq, h.escaped_eq]

theorem push_eq (special onDisk : Bool) (list : List String) :
    push special onDisk list text =
      if onDisk then trimStart (add list text) else add list text := by
  have hescaped : String.ofList (Percent.encode
      (if special then Percent.specialSegment else Percent.segment) text.toList) = text :=
    h.escaped_eq special
  unfold push
  rw [if_neg h.notDots]
  dsimp only
  rw [if_neg h.dropTabs_ne.1, if_neg h.dropTabs_ne.2, h.dropTabs_eq, h.partedDrive?_eq,
    h.isDrive_eq, hescaped]
  simp

end IsPlain

theorem flatMap_segmentsFor (special : Bool) {texts : List String}
    (h : ∀ text ∈ texts, IsPlain text) : texts.flatMap (segmentsFor special) = texts := by
  rw [List.flatMap_congr fun text htext => (h text htext).segmentsFor_eq special,
    List.flatMap_singleton']

theorem isSettled_append (onDisk : Bool) {front : List String} {text : String}
    (htext : text ≠ "") (h : onDisk = true → front.head? ≠ some "") :
    IsSettled onDisk (front ++ [text]) := by
  refine ⟨by simp, ?_, ?_⟩
  · intro heq
    have hlast := congrArg List.getLast? heq
    rw [List.getLast?_concat] at hlast
    exact htext (Option.some.inj hlast)
  · intro hdisk
    cases front with
    | nil => simpa using htext
    | cons first rest => exact h hdisk

theorem exists_push (special onDisk : Bool) (list : List String) {text : String}
    (htext : IsPlain text) :
    ∃ front, push special onDisk list text = front ++ [text] ∧
      IsSettled onDisk (front ++ [text]) := by
  have hadd : ∃ front, add list text = front ++ [text] := by
    unfold add
    split
    · exact ⟨[], rfl⟩
    · exact ⟨list, rfl⟩
  obtain ⟨front, hadd⟩ := hadd
  rw [htext.push_eq, hadd]
  cases onDisk with
  | false => exact ⟨front, rfl, isSettled_append false htext.notEmpty (by simp)⟩
  | true =>
      have hdrop : (front ++ [text]).dropWhile (· = "") = front.dropWhile (· = "") ++ [text] := by
        have hlast : [text].dropWhile (· = "") = [text] :=
          List.dropWhile_cons_of_neg (by simpa using htext.notEmpty)
        rw [List.dropWhile_append, hlast]
        split
        · rename_i hempty
          rw [List.isEmpty_iff.mp hempty]
          rfl
        · rfl
      have hhead : (front.dropWhile (· = "")).head? ≠ some "" := by
        intro heq
        have hnot := List.head?_dropWhile_not (· = "") front
        rw [heq] at hnot
        simp at hnot
      have hsettled := isSettled_append true htext.notEmpty fun _ => hhead
      refine ⟨_, ?_, hsettled⟩
      unfold trimStart
      rw [if_pos rfl, hdrop]
      split
      · rename_i hnil
        exact absurd hnil hsettled.notEmpty
      · rfl

end Path

theorem authorityText_eq {url : Url} {front rest : List String} {first second : String}
    (hpath : url.path = .segments (front ++ first :: second :: rest)) (hfirst : first ≠ "") :
    url.authorityText = match url.authority with
      | some a => "//" ++ a.userInfoText ++ a.hostText
      | none => if front.head? = some "" then "/." else "" := by
  unfold authorityText
  rw [hpath]
  cases url.authority with
  | some a => rfl
  | none =>
      match front with
      | [] => simp [hfirst]
      | head :: [] => by_cases hhead : head = "" <;> simp [hhead]
      | head :: next :: more => by_cases hhead : head = "" <;> simp [hhead]

end Url

open Url.Path

/-- The paths of a base and a repository part ways only behind the releases. -/
theorem exists_path_releasesUrl {base : Url} (hbase : base.isRootless = false)
    (repository : Repository) :
    ∃ front, ∀ tail, (∀ text ∈ tail, IsPlain text) →
      (releasesUrl base repository tail).path = .segments (front ++ "releases" :: tail) := by
  cases hpath : base.path with
  | rootless text => simp [Url.isRootless, hpath] at hbase
  | segments list =>
      have hreleases : IsPlain "releases" := by decide
      obtain ⟨front, hpush, hsettled⟩ := exists_push base.isSpecial base.isLocal
        (["repos", repository.owner, repository.name].foldl (push base.isSpecial base.isLocal)
          (dropEmptyEnd list)) hreleases
      refine ⟨if base.authority.isNone ∧ list = ["", ""] then "." :: front else front, ?_⟩
      intro tail htail
      have hkept := flatMap_segmentsFor base.isSpecial htail
      have hlonger : (["repos", repository.owner, repository.name, "releases"] ++ tail).foldl
          (push base.isSpecial base.isLocal) (dropEmptyEnd list) = front ++ "releases" :: tail := by
        have hfour : ["repos", repository.owner, repository.name, "releases"].foldl
            (push base.isSpecial base.isLocal) (dropEmptyEnd list) = front ++ ["releases"] := hpush
        rw [List.foldl_append, hfour,
          foldl_push base.isSpecial (fun text htext => (htail text htext).hidesNoDots) hsettled,
          hkept, List.append_assoc]
        rfl
      unfold releasesUrl Url.extend
      rw [hpath]
      dsimp only
      rw [hlonger]
      split
      · rfl
      · rfl

theorem isPlain_toString (n : Nat) : IsPlain (toString n) := by
  have htext : (toString n).toList = Nat.toDigits 10 n := by
    rw [Nat.toString_eq_ofList_toDigits, String.toList_ofList]
  refine ⟨?_, ?_⟩
  · intro hempty
    rw [hempty] at htext
    exact Nat.toDigits_ne_nil htext.symm
  · intro c hc
    rw [htext] at hc
    have hdigit : c.isDigit = true := Nat.isDigit_of_mem_toDigits (by decide) (by decide) hc
    unfold Char.isAlphanum
    rw [hdigit, Bool.or_true]

theorem isPlain_of_mem_assets (n : Nat) : ∀ text ∈ [toString n, "assets"], IsPlain text := by
  intro text htext
  rcases List.mem_pair.mp htext with rfl | rfl
  · exact isPlain_toString n
  · decide

end ReleaseLine
