import ReleaseLine.Proofs.Query
import ReleaseLine.Proofs.ReleasePath

/-!
Where the paths of release URLs lead. The texts that name a repository stand in segments of their
own behind the path of the base, and are had back from them; but dot segments are left out, and
tabs and line breaks are dropped.
-/

namespace ReleaseLine

namespace Url

namespace Path

/-- A text that stands in a path as a whole: no dot segment, with no tabs or line breaks in it. -/
structure IsWhole (text : String) : Prop where
  notDot : text ≠ "."
  notDots : text ≠ ".."
  unbroken : ∀ c ∈ text.toList, isTabOrBreak c = false

instance (text : String) : Decidable (IsWhole text) :=
  decidable_of_iff (text ≠ "." ∧ text ≠ ".." ∧ text.toList.all (!isTabOrBreak ·) = true)
    ⟨fun h => ⟨h.1, h.2.1, by simpa using h.2.2⟩,
      fun h => ⟨h.notDot, h.notDots, by simpa using h.unbroken⟩⟩

theorem IsPlain.isWhole {text : String} (h : IsPlain text) : IsWhole text := by
  constructor
  · exact fun hdot => h.notDots (.inl hdot)
  · exact fun hdots => h.notDots (.inr hdots)
  · exact fun c hc => h.isTabOrBreak_eq hc

theorem IsWhole.dropTabs_eq {text : String} (h : IsWhole text) :
    dropTabs text.toList = text.toList := by
  apply List.filter_eq_self.mpr
  intro c hc
  rw [h.unbroken c hc]
  rfl

theorem IsWhole.hidesNoDots {text : String} (h : IsWhole text) : HidesNoDots text := by
  unfold HidesNoDots
  rw [h.dropTabs_eq]
  exact Or.imp (fun heq => String.toList_injective heq) (fun heq => String.toList_injective heq)

theorem IsWhole.segmentsFor_eq {text : String} (h : IsWhole text) (special : Bool) :
    segmentsFor special text = [escaped special text.toList] := by
  unfold segmentsFor
  rw [if_neg (not_or_intro h.notDot h.notDots), h.dropTabs_eq]

theorem decodeText_escaped (special : Bool) (text : String) :
    Percent.decodeText (escaped special text.toList) = text.toUTF8.toList := by
  rw [← Text.encode_toList]
  cases special
  · exact Percent.decodeText_encode (by decide) text.toList
  · exact Percent.decodeText_encode (by decide) text.toList

theorem escaped_injective (special : Bool) :
    Function.Injective fun text : String => escaped special text.toList := by
  intro text other h
  have hdecoded : Percent.decodeText (escaped special text.toList) =
      Percent.decodeText (escaped special other.toList) := congrArg Percent.decodeText h
  rw [decodeText_escaped, decodeText_escaped, ← Text.encode_toList, ← Text.encode_toList]
    at hdecoded
  have hread := congrArg Text.Utf8.decode hdecoded
  rw [Text.Utf8.decode_encode, Text.Utf8.decode_encode] at hread
  exact String.toList_injective hread

theorem splitOn_segments {first : List Char} {list : List String} (hfirst : '/' ∉ first)
    (h : IsParted list) :
    (first ++ list.flatMap fun segment => '/' :: segment.toList).splitOn '/' =
      first :: list.map String.toList := by
  induction list generalizing first with
  | nil => simpa using List.splitOn_eq_singleton hfirst
  | cons segment list ih =>
      have hsegment : '/' ∉ segment.toList := fun hmem => by
        cases h segment List.mem_cons_self '/' hmem
      have hrest : IsParted list := h.subset (List.subset_cons_self segment list)
      rw [List.flatMap_cons, List.cons_append,
        List.splitOn_append_cons_self_of_not_mem hfirst, ih hsegment hrest]
      rfl

end Path

open ReleaseLine.Url.Path

theorem splitOn_pathText {url : Url} (h : url.isRootless = false)
    (hparted : IsParted url.segments) :
    url.pathText.toList.splitOn '/' = [] :: url.segments.map String.toList := by
  rw [toList_pathText h]
  exact splitOn_segments List.not_mem_nil hparted

theorem segments_eq_of_pathText_eq {url other : Url} (h : url.isRootless = false)
    (hother : other.isRootless = false) (hparted : IsParted url.segments)
    (hparted' : IsParted other.segments) (heq : url.pathText.toList = other.pathText.toList) :
    url.segments = other.segments := by
  have hread := splitOn_pathText h hparted
  rw [heq, splitOn_pathText hother hparted', List.cons.injEq] at hread
  exact (List.map_inj_right fun _ _ => String.toList_injective).mp hread.2.symm

def Path.withoutEmptyEnd (list : List String) : List String :=
  if list.getLast? = some "" then list.dropLast else list

/-- What stays of the path of a base when it is added to. Of two empty segments both go; where
there is no authority, a dot stays. -/
def trunk (base : Url) : List String :=
  if base.segments = ["", ""] then if base.authority.isNone then ["."] else []
  else withoutEmptyEnd base.segments

namespace Path

theorem add_dropEmptyEnd (list : List String) (text : String) :
    add (dropEmptyEnd list) text =
      (if list = ["", ""] then [] else withoutEmptyEnd list) ++ [text] := by
  unfold add dropEmptyEnd withoutEmptyEnd
  match list with
  | [] => rfl
  | [only] => by_cases honly : only = "" <;> simp [honly]
  | [first, second] =>
      by_cases hsecond : second = ""
      · by_cases hfirst : first = "" <;> simp [hfirst, hsecond]
      · simp [hsecond]
  | first :: second :: third :: rest =>
      by_cases hlast : (third :: rest).getLast? = some "" <;> simp [hlast]

theorem head?_withoutEmptyEnd {list : List String} (h : list.head? ≠ some "") :
    (withoutEmptyEnd list).head? ≠ some "" := by
  unfold withoutEmptyEnd
  split
  · rw [List.head?_dropLast]
    split
    · exact h
    · simp
  · exact h

theorem head?_trimStart {list : List String} (h : trimStart list ≠ [""]) :
    (trimStart list).head? ≠ some "" := by
  unfold trimStart at h ⊢
  split at h
  · exact absurd rfl h
  · have hnot := List.head?_dropWhile_not (· = "") list
    intro hhead
    rw [hhead] at hnot
    simp at hnot

end Path

/-- The names of a place among the releases of a repository. -/
def placeNames (repository : Repository) (tail : List String) : List String :=
  ["repos", repository.owner, repository.name, "releases"] ++ tail

theorem isPlain_repos : Path.IsPlain "repos" := by decide

variable {base : Url}

theorem foldl_push_placeNames (hread : base.IsRead) {repository : Repository} {tail : List String}
    (htexts : ∀ text ∈ placeNames repository tail, HidesNoDots text) :
    (placeNames repository tail).foldl (push base.isSpecial base.isLocal)
        (dropEmptyEnd base.segments) =
      (if base.segments = ["", ""] then [] else withoutEmptyEnd base.segments) ++
        (placeNames repository tail).flatMap (segmentsFor base.isSpecial) := by
  obtain ⟨front, hfront⟩ : ∃ front,
      (if base.segments = ["", ""] then [] else withoutEmptyEnd base.segments) = front := ⟨_, rfl⟩
  have hhead : base.isLocal = true → front.head? ≠ some "" := by
    intro hlocal
    obtain ⟨list, hlist⟩ := hread.trimmed hlocal
    rw [← hfront]
    split
    · simp
    · by_cases hroot : base.segments = [""]
      · simp [hroot, withoutEmptyEnd]
      · apply head?_withoutEmptyEnd
        rw [hlist] at hroot ⊢
        exact head?_trimStart hroot
  have hsettled : IsSettled base.isLocal (front ++ ["repos"]) :=
    isSettled_append base.isLocal isPlain_repos.notEmpty hhead
  have hpush : push base.isSpecial base.isLocal (dropEmptyEnd base.segments) "repos" =
      front ++ ["repos"] := by
    rw [isPlain_repos.push_eq, add_dropEmptyEnd, hfront]
    cases hlocal : base.isLocal with
    | false => rfl
    | true =>
        rw [hlocal] at hsettled
        exact trimStart_eq hsettled
  have hrest : ∀ text ∈ [repository.owner, repository.name, "releases"] ++ tail,
      HidesNoDots text := fun text htext => htexts text (List.mem_cons_of_mem "repos" htext)
  have hsplit : placeNames repository tail =
      "repos" :: ([repository.owner, repository.name, "releases"] ++ tail) := rfl
  rw [hfront, hsplit, List.foldl_cons, hpush, foldl_push base.isSpecial hrest hsettled,
    List.flatMap_cons, isPlain_repos.segmentsFor_eq, List.append_assoc]

/-- Behind the path of a base every text has its own segment, but those of dots alone. -/
theorem segments_releasesUrl (hread : base.IsRead) (hrooted : base.isRootless = false)
    {repository : Repository} {tail : List String}
    (htexts : ∀ text ∈ placeNames repository tail, HidesNoDots text) :
    (releasesUrl base repository tail).segments =
      base.trunk ++ (placeNames repository tail).flatMap (segmentsFor base.isSpecial) := by
  have hpushed := foldl_push_placeNames hread htexts
  have hof (list : List String) : ({ base with path := .segments list } : Url).segments = list :=
    rfl
  unfold releasesUrl extend trunk
  rw [path_eq hrooted]
  unfold placeNames at hpushed ⊢
  dsimp only
  rw [hof, hpushed]
  by_cases hempty : base.segments = ["", ""]
  · by_cases hnone : base.authority.isNone = true <;> simp [hempty, hnone]
  · simp [hempty]

/-- A URL leads from a base to a place among the releases of a repository: every name on the way
has a segment, from which it is had back, and nothing else is added. -/
structure LeadsTo (url base : Url) (repository : Repository) (tail : List String) : Prop where
  scheme : url.scheme = base.scheme
  authority : url.authority = base.authority
  fragment : url.fragment = base.fragment
  path : url.path = .segments (base.trunk ++
    (placeNames repository tail).map fun text => escaped base.isSpecial text.toList)
  decoded : url.segments.map Percent.decodeText =
    base.trunk.map Percent.decodeText ++ (placeNames repository tail).map (·.toUTF8.toList)
  /-- The path as text holds these segments and no mark that would end it. -/
  parted : IsParted url.segments
  read : url.pathText.toList.splitOn '/' = [] :: url.segments.map String.toList

theorem isWhole_of_mem_placeNames {repository : Repository} {tail : List String}
    (howner : IsWhole repository.owner) (hname : IsWhole repository.name)
    (htail : ∀ text ∈ tail, Path.IsPlain text) :
    ∀ text ∈ placeNames repository tail, IsWhole text := by
  intro text htext
  rcases List.mem_append.mp htext with hfront | hbehind
  · simp only [List.mem_cons, List.not_mem_nil, or_false] at hfront
    rcases hfront with rfl | rfl | rfl | rfl
    · exact isPlain_repos.isWhole
    · exact howner
    · exact hname
    · exact (by decide : Path.IsPlain "releases").isWhole
  · exact (htail text hbehind).isWhole

theorem leadsTo_releasesUrl (hread : base.IsRead) (hrooted : base.isRootless = false)
    {repository : Repository} {tail : List String}
    (htexts : ∀ text ∈ placeNames repository tail, IsWhole text) (query : Option String) :
    LeadsTo { releasesUrl base repository tail with query := query } base repository tail := by
  obtain ⟨path, hkept⟩ := releasesUrl_eq base repository tail
  have hrooted' : (releasesUrl base repository tail).isRootless = false :=
    (isRootless_extend base _).trans hrooted
  have hparted : IsParted (releasesUrl base repository tail).segments :=
    isParted_extend hread.parted _
  have hescaped : (placeNames repository tail).flatMap (segmentsFor base.isSpecial) =
      (placeNames repository tail).map fun text => escaped base.isSpecial text.toList := by
    rw [List.map_eq_flatMap]
    exact List.flatMap_congr fun text htext => (htexts text htext).segmentsFor_eq base.isSpecial
  have hsegments := segments_releasesUrl hread hrooted fun text htext =>
    (htexts text htext).hidesNoDots
  rw [hescaped] at hsegments
  constructor
  · rw [hkept]
  · rw [hkept]
  · rw [hkept]
  · rw [← hsegments]
    exact path_eq hrooted'
  · change (releasesUrl base repository tail).segments.map Percent.decodeText = _
    rw [hsegments, List.map_append, List.map_map]
    congr 1
    exact List.map_congr_left fun text _ => decodeText_escaped base.isSpecial text
  · exact hparted
  · exact splitOn_pathText hrooted' hparted

namespace LeadsTo

variable {url other : Url} {repository repository' : Repository} {tail tail' : List String}

theorem isRootless_eq (h : LeadsTo url base repository tail) : url.isRootless = false := by
  simp [isRootless, h.path]

theorem segments_eq (h : LeadsTo url base repository tail) :
    url.segments = base.trunk ++
      (placeNames repository tail).map fun text => escaped base.isSpecial text.toList := by
  simp [segments, h.path]

theorem authorityText_eq (h : LeadsTo url base repository tail) :
    url.authorityText = match base.authority with
      | some a => "//" ++ a.userInfoText ++ a.hostText
      | none => if base.trunk.head? = some "" then "/." else "" := by
  have hrepos : escaped base.isSpecial "repos".toList ≠ "" := by
    rw [isPlain_repos.escaped_eq]
    exact isPlain_repos.notEmpty
  rw [← h.authority]
  exact Url.authorityText_eq h.path hrepos

theorem unique (h : LeadsTo url base repository tail) (h' : LeadsTo other base repository' tail')
    (heq : url.render = other.render) : repository = repository' ∧ tail = tail' := by
  have hpaths := pathText_eq_of_render_eq (notMem_pathText h.isRootless_eq h.parted)
    (notMem_pathText h'.isRootless_eq h'.parted) (h.scheme.trans h'.scheme.symm)
    (h.authorityText_eq.trans h'.authorityText_eq.symm) (h.fragment.trans h'.fragment.symm) heq
  have hsegments := segments_eq_of_pathText_eq h.isRootless_eq h'.isRootless_eq h.parted
    h'.parted hpaths
  rw [h.segments_eq, h'.segments_eq] at hsegments
  have hnames : placeNames repository tail = placeNames repository' tail' :=
    (List.map_inj_right fun _ _ heq => escaped_injective base.isSpecial heq).mp
      (List.append_cancel_left hsegments)
  unfold placeNames at hnames
  simp only [List.cons_append, List.nil_append, List.cons.injEq, true_and] at hnames
  obtain ⟨howner, hname, htail⟩ := hnames
  exact ⟨by cases repository; cases repository'; simp_all, htail⟩

end LeadsTo

end Url

open Url.Path

/-- A repository whose owner and name stand in a path as they are. -/
def Repository.IsWhole (repository : Repository) : Prop :=
  Url.Path.IsWhole repository.owner ∧ Url.Path.IsWhole repository.name

instance (repository : Repository) : Decidable repository.IsWhole :=
  inferInstanceAs (Decidable (_ ∧ _))

/-- What a base keeps apart: each operation leads to the repository that it is about, and to no
other. -/
structure Confines (base : Url) : Prop where
  rooted : base.isRootless = false
  origin : ∀ repository tail, (releasesUrl base repository tail).scheme = base.scheme ∧
    (releasesUrl base repository tail).authority = base.authority ∧
    (releasesUrl base repository tail).fragment = base.fragment
  latest : ∀ repository, repository.IsWhole →
    (Operation.latest base repository).url.LeadsTo base repository []
  create : ∀ repository token version, repository.IsWhole →
    (Operation.create base repository token version).url.LeadsTo base repository []
  upload : ∀ repository token n artifact, repository.IsWhole →
    (Operation.upload base repository token ⟨toString n⟩ artifact).url.LeadsTo base repository
      [toString (n : Nat), "assets"]
  apart : ∀ url other repository repository' tail tail',
    Url.LeadsTo url base repository tail → Url.LeadsTo other base repository' tail' →
      url.render = other.render → repository = repository' ∧ tail = tail'
  /-- Names that are dots alone add nothing, and tabs and line breaks in names do not count. -/
  others : ∀ repository tail, (∀ text ∈ Url.placeNames repository tail, HidesNoDots text) →
    (releasesUrl base repository tail).segments =
      base.trunk ++ (Url.placeNames repository tail).flatMap (segmentsFor base.isSpecial)

theorem confines_of_baseUrl {text : String} {base : Url} (hbase : Config.baseUrl text = .ok base) :
    Confines base := by
  obtain ⟨hparse, hrooted⟩ := of_baseUrl hbase
  have hread := Url.isRead_of_parse hparse
  have hleads {repository : Repository} {tail : List String} (hrepository : repository.IsWhole)
      (htail : ∀ text ∈ tail, IsPlain text) (query : Option String) :
      Url.LeadsTo { releasesUrl base repository tail with query := query } base repository tail :=
    Url.leadsTo_releasesUrl hread hrooted
      (Url.isWhole_of_mem_placeNames hrepository.1 hrepository.2 htail) query
  have hnone : ∀ text ∈ ([] : List String), IsPlain text := by
    simp
  constructor
  · exact hrooted
  · intro repository tail
    obtain ⟨path, hkept⟩ := releasesUrl_eq base repository tail
    rw [hkept]
    exact ⟨rfl, rfl, rfl⟩
  · exact fun repository hrepository => hleads hrepository hnone _
  · exact fun repository token version hrepository => hleads hrepository hnone _
  · exact fun repository token n artifact hrepository =>
      hleads hrepository (isPlain_of_mem_assets n) _
  · exact fun url other repository repository' tail tail' h h' => h.unique h'
  · exact fun repository tail htexts => Url.segments_releasesUrl hread hrooted htexts

theorem confines_of_sample :
    ∃ base, Config.baseUrl "https://api.test/v3/?q#end" = .ok base ∧
      Repository.IsWhole ⟨"a b", "c/d%\\ü"⟩ ∧
      (releasesUrl base ⟨"a b", "c/d%\\ü"⟩ []).segments =
        ["v3", "repos", "a%20b", "c%2Fd%25%5C%C3%BC", "releases"] ∧ Confines base := by
  have hsegments : (Config.baseUrl "https://api.test/v3/?q#end").toOption.map
      (fun base => (releasesUrl base ⟨"a b", "c/d%\\ü"⟩ []).segments) =
      some ["v3", "repos", "a%20b", "c%2Fd%25%5C%C3%BC", "releases"] := by
    decide +kernel
  have hwhole : Repository.IsWhole ⟨"a b", "c/d%\\ü"⟩ := by
    decide +kernel
  cases hbase : Config.baseUrl "https://api.test/v3/?q#end" with
  | error error =>
      rw [hbase] at hsegments
      cases hsegments
  | ok base =>
      rw [hbase] at hsegments
      exact ⟨base, rfl, hwhole, Option.some.inj hsegments, confines_of_baseUrl hbase⟩

/-- Names that are taken from a configuration and do not stand in a path as they are: two owners
share a URL, one is left out, one leads out of the repositories; and a base loses a segment. -/
theorem repositories_not_apart :
    Config.repositoryOf { owner := some "a\tb", repository := some "r" } = .ok ⟨"a\tb", "r"⟩ ∧
      (Config.baseUrl "http://api.test").toOption.map (fun base =>
        [(Operation.latest base ⟨"a\tb", "r"⟩).url.render,
          (Operation.latest base ⟨"ab", "r"⟩).url.render,
          (Operation.latest base ⟨"..", "r"⟩).url.render,
          (Operation.latest base ⟨".\t.", "r"⟩).url.render]) =
        some ["http://api.test/repos/ab/r/releases?per_page=1",
          "http://api.test/repos/ab/r/releases?per_page=1",
          "http://api.test/repos/r/releases?per_page=1",
          "http://api.test/r/releases?per_page=1"] ∧
      (Config.baseUrl "http://api.test//").toOption.map (fun base =>
        (base.segments, (Operation.latest base ⟨"o", "r"⟩).url.segments)) =
        some (["", ""], ["repos", "o", "r", "releases"]) := by
  refine ⟨rfl, ?_, ?_⟩
  · decide +kernel
  · decide +kernel

end ReleaseLine
