import ReleaseLine.Config
import ReleaseLine.Proofs.Escape
import ReleaseLine.Proofs.Exchange
import ReleaseLine.Proofs.Marks

namespace ReleaseLine.Url

def isSeparator (c : Char) : Bool := c = '/' || c = '?' || c = '#'

/-- A text that no mark in it ends. -/
def IsUnbroken (text : List Char) : Prop := ∀ c ∈ text, isSeparator c = false

theorem isSeparator_of_isAlphanum {c : Char} (h : c.isAlphanum = true) : isSeparator c = false := by
  have hne (d : Char) (hd : d.isAlphanum = false) : decide (c = d) = false :=
    decide_eq_false (Percent.ne_of_isAlphanum h hd)
  unfold isSeparator
  rw [hne _ rfl, hne _ rfl, hne _ rfl]
  rfl

theorem isUnbroken_encode {set : Percent.EncodeSet} (hquestion : set '?' = true)
    (hhash : set '#' = true) {text : List Char} (hslash : set '/' = true ∨ '/' ∉ text) :
    IsUnbroken (Percent.encode set text) := by
  intro c hc
  rcases Percent.mem_encode hc with rfl | halphanum | ⟨hmem, hkept⟩
  · rfl
  · exact isSeparator_of_isAlphanum halphanum
  · have hne (d : Char) (hd : set d = true) : c ≠ d := by
      rintro rfl
      rw [hd] at hkept
      cases hkept
    have hnotSlash : c ≠ '/' := by
      rcases hslash with hset | hnot
      · exact hne '/' hset
      · rintro rfl
        exact hnot hmem
    simp [isSeparator, hnotSlash, hne '?' hquestion, hne '#' hhash]

namespace Path

def IsParted (list : List String) : Prop := ∀ segment ∈ list, IsUnbroken segment.toList

theorem isParted_nil : IsParted [] := by
  simp [IsParted]

theorem IsParted.singleton {segment : String} (h : IsUnbroken segment.toList) :
    IsParted [segment] := by
  simpa [IsParted] using h

theorem isParted_root : IsParted [""] := .singleton (by simp [IsUnbroken])

theorem isParted_dot : IsParted ["."] := .singleton (by simp [IsUnbroken, isSeparator])

theorem IsParted.append {first second : List String} (h : IsParted first)
    (h' : IsParted second) : IsParted (first ++ second) := by
  intro segment hsegment
  rcases List.mem_append.mp hsegment with hfirst | hsecond
  · exact h segment hfirst
  · exact h' segment hsecond

theorem IsParted.subset {list part : List String} (h : IsParted list) (hpart : part ⊆ list) :
    IsParted part := fun segment hsegment => h segment (hpart hsegment)

theorem isUnbroken_drive {letter : Char} (h : letter.isAlpha = true) :
    IsUnbroken (String.ofList [letter, ':']).toList := by
  have hletter : isSeparator letter = false :=
    isSeparator_of_isAlphanum (by simp [Char.isAlphanum, h])
  have hcolon : isSeparator ':' = false := by decide
  simp [IsUnbroken, hletter, hcolon]

theorem mem_of_mem_dropTabs {text : List Char} {c : Char} (h : c ∈ dropTabs text) : c ∈ text :=
  (List.mem_filter.mp h).1

theorem isUnbroken_path_encode {text : List Char} (h : '/' ∉ text) :
    IsUnbroken (encode text).toList := by
  unfold encode
  rw [String.toList_ofList]
  exact isUnbroken_encode (by decide) (by decide) (.inr h)

theorem of_partedDrive? {piece drive rest : List Char}
    (h : partedDrive? piece = some (drive, rest)) :
    (∃ letter, letter.isAlpha = true ∧ drive = [letter, ':']) ∧ rest ⊆ piece := by
  unfold partedDrive? at h
  split at h
  · rename_i letter more hpiece
    split at h
    · rename_i tab behind hmore
      split at h
      · rename_i hparted
        obtain ⟨rfl, rfl⟩ := Prod.mk.inj (Option.some.inj h)
        refine ⟨⟨letter, ?_, rfl⟩, ?_⟩
        · simp only [Bool.and_eq_true] at hparted
          exact hparted.1.1
        · intro c hc
          have hmem : c ∈ more.dropWhile isTabOrBreak := by
            rw [hmore]
            exact List.mem_cons_of_mem _ (List.mem_cons_of_mem _ (mem_of_mem_dropTabs hc))
          have hpart : c ∈ piece.dropWhile isTabOrBreak := by
            rw [hpiece]
            exact List.mem_cons_of_mem letter (List.dropWhile_subset _ hmem)
          exact List.dropWhile_subset _ hpart
      · cases h
    · cases h
  · cases h

theorem exists_of_isDrive {segment : List Char} (h : isDrive segment = true) :
    ∃ letter mark, letter.isAlpha = true ∧ segment = [letter, mark] := by
  unfold isDrive at h
  split at h
  · rename_i letter mark
    exact ⟨letter, mark, (Bool.and_eq_true _ _ |>.mp h).1, rfl⟩
  · cases h

theorem leave_subset (list : List String) : leave list ⊆ list := by
  unfold leave
  split
  · split
    · exact List.Subset.refl list
    · exact List.dropLast_subset list
  · exact List.nil_subset list

theorem Trail.isParted_add {onDisk : Bool} {trail : Trail} {piece : List Char}
    (h : IsParted trail.list) (hpiece : '/' ∉ piece) (last : Bool) :
    IsParted (trail.add onDisk piece last).list := by
  have hclosing : IsParted (if last then [""] else []) := by
    cases last
    · exact isParted_nil
    · exact isParted_root
  have hsegment : IsParted [encode (dropTabs piece)] :=
    .singleton (isUnbroken_path_encode fun hmem => hpiece (mem_of_mem_dropTabs hmem))
  unfold Trail.add
  dsimp only
  split
  · exact (h.subset (leave_subset _)).append hclosing
  split
  · exact h.append hclosing
  split
  · split
    · rename_i drive rest hdrive
      obtain ⟨⟨letter, hletter, rfl⟩, hrest⟩ := of_partedDrive? hdrive
      have hbehind : IsParted [encode rest] :=
        .singleton (isUnbroken_path_encode fun hmem => hpiece (hrest hmem))
      exact (IsParted.singleton (isUnbroken_drive hletter)).append hbehind
    · split
      · rename_i hdrive
        obtain ⟨letter, mark, hletter, hsegment⟩ := exists_of_isDrive hdrive
        rw [hsegment]
        exact .singleton (isUnbroken_drive hletter)
      · exact hsegment
  · exact h.append hsegment

theorem Trail.isParted_addAll {onDisk : Bool} {trail : Trail} {pieces : List (List Char)}
    (h : IsParted trail.list) (hpieces : ∀ piece ∈ pieces, '/' ∉ piece) :
    IsParted (trail.addAll onDisk pieces).list := by
  fun_induction Trail.addAll onDisk trail pieces with
  | case1 trail => exact h
  | case2 trail last => exact isParted_add h (hpieces last List.mem_cons_self) true
  | case3 trail piece rest _ ih =>
      apply ih
      · exact isParted_add h (hpieces piece List.mem_cons_self) false
      · exact fun other hother => hpieces other (List.mem_cons_of_mem piece hother)

theorem isParted_follow {special onDisk : Bool} {list : List String} (h : IsParted list)
    (text : List Char) : IsParted (follow special onDisk list text).list :=
  Trail.isParted_addAll h fun _ => Text.notMem_of_mem_splitOn

theorem isParted_trimStart {list : List String} (h : IsParted list) :
    IsParted (trimStart list) := by
  unfold trimStart
  split
  · exact isParted_root
  · exact h.subset (List.dropWhile_subset _)

theorem IsParted.add {list : List String} (h : IsParted list) {segment : String}
    (hsegment : IsUnbroken segment.toList) : IsParted (add list segment) := by
  unfold Path.add
  split
  · exact .singleton hsegment
  · exact h.append (.singleton hsegment)

theorem isParted_dropEmptyEnd {list : List String} (h : IsParted list) :
    IsParted (dropEmptyEnd list) := by
  unfold dropEmptyEnd
  split
  · exact h.subset (List.dropLast_subset list)
  · exact h

theorem isParted_push {special onDisk : Bool} {list : List String} (h : IsParted list)
    (text : String) : IsParted (push special onDisk list text) := by
  have hencode (part : List Char) : IsUnbroken (String.ofList (Percent.encode
      (if special then Percent.specialSegment else Percent.segment) part)).toList := by
    rw [String.toList_ofList]
    cases special
    · exact isUnbroken_encode (by decide) (by decide) (.inl (by decide))
    · exact isUnbroken_encode (by decide) (by decide) (.inl (by decide))
  have hempty : IsUnbroken "".toList := by
    simp [IsUnbroken]
  have htrim {longer : List String} (hlonger : IsParted longer) :
      IsParted (if onDisk then trimStart longer else longer) := by
    split
    · exact isParted_trimStart hlonger
    · exact hlonger
  unfold push
  dsimp only
  split
  · exact h
  apply htrim
  split
  · exact h.add hempty
  split
  · exact (h.subset (leave_subset list)).add hempty
  split
  · rename_i drive rest hdrive
    split at hdrive
    · obtain ⟨⟨letter, hletter, rfl⟩, -⟩ := of_partedDrive? hdrive
      exact (IsParted.singleton (isUnbroken_drive hletter)).append (.singleton (hencode rest))
    · cases hdrive
  · split
    · rename_i hdrive
      obtain ⟨letter, mark, hletter, hsegment⟩ :=
        exists_of_isDrive ((Bool.and_eq_true _ _).mp hdrive).2
      rw [hsegment]
      exact .singleton (isUnbroken_drive hletter)
    · exact h.add (hencode _)

end Path

open ReleaseLine.Url.Path

theorem toList_foldl_append (list : List String) (before : String) :
    (list.foldl (· ++ ·) before).toList = before.toList ++ list.flatMap String.toList := by
  induction list generalizing before with
  | nil => simp
  | cons text list ih =>
      rw [List.foldl_cons, ih, String.toList_append, List.append_assoc]
      rfl

theorem path_eq {url : Url} (h : url.isRootless = false) : url.path = .segments url.segments := by
  unfold segments
  cases hpath : url.path with
  | rootless text => simp [isRootless, hpath] at h
  | segments list => rfl

theorem toList_pathText {url : Url} (h : url.isRootless = false) :
    url.pathText.toList = url.segments.flatMap fun segment => '/' :: segment.toList := by
  have hjoin := toList_foldl_append (url.segments.map ("/" ++ ·)) ""
  rw [String.toList_empty, List.nil_append, List.flatMap_map] at hjoin
  unfold pathText
  rw [path_eq h]
  exact hjoin.trans (by simp [String.toList_append])

theorem toList_pathText_of_segments {url : Url} {list : List String}
    (h : url.path = .segments list) :
    url.pathText.toList = list.flatMap fun segment => '/' :: segment.toList := by
  have hrooted : url.isRootless = false := by simp [isRootless, h]
  rw [toList_pathText hrooted, segments, h]

theorem notMem_pathText {url : Url} (h : url.isRootless = false) (hparted : IsParted url.segments) :
    '?' ∉ url.pathText.toList := by
  rw [toList_pathText h, List.mem_flatMap]
  rintro ⟨segment, hsegment, hmem⟩
  rcases List.mem_cons.mp hmem with heq | hmem
  · cases heq
  · cases hparted segment hsegment '?' hmem

theorem isParted_extend {url : Url} (h : IsParted url.segments) (texts : List String) :
    IsParted (url.extend texts).segments := by
  have hpushed {list : List String} (hlist : IsParted list) :
      IsParted (texts.foldl (push url.isSpecial url.isLocal) list) :=
    List.foldlRecOn texts _ hlist fun _ hlonger text _ => isParted_push hlonger text
  unfold extend
  split
  · exact h
  · rename_i list hpath
    have hlist : IsParted list := by
      simpa [segments, hpath] using h
    have hlonger := hpushed (isParted_dropEmptyEnd hlist)
    dsimp only [segments]
    split
    · exact isParted_dot.append hlonger
    · exact hlonger

/-- A query that the fragment behind it does not cut short. -/
def HasClosedQuery (url : Url) : Prop := ∀ query ∈ url.query, '#' ∉ query.toList

/-- What can be relied on in a URL that is read. -/
structure IsRead (url : Url) : Prop where
  parted : IsParted url.segments
  trimmed : url.isLocal = true → ∃ list, url.segments = trimStart list
  query : url.HasClosedQuery

theorem notMem_query_splitTail (special : Bool) (text : List Char) :
    ∀ query ∈ (splitTail special text).2.1, '#' ∉ query.toList := by
  intro query hquery
  obtain ⟨read, -, rfl⟩ := Option.map_eq_some_iff.mp hquery
  rw [String.toList_ofList]
  cases special
  · exact Percent.notMem_encode (by decide) (by decide) (by decide) _
  · exact Percent.notMem_encode (by decide) (by decide) (by decide) _

theorem isParted_readSegments (special : Bool) (text : List Char) :
    IsParted (readSegments special text) := by
  unfold readSegments
  split
  · cases special
    · exact isParted_nil
    · exact isParted_root
  · exact isParted_follow isParted_nil _

theorem isRead_withAuthority {scheme : String} (hscheme : scheme ≠ "file") {text : List Char}
    {url : Url} (h : withAuthority scheme text = .ok url) : url.IsRead := by
  obtain ⟨read, -, h⟩ := bind_eq_ok_iff.mp h
  cases h
  constructor
  · exact isParted_readSegments _ _
  · exact fun hlocal => absurd (of_decide_eq_true hlocal) hscheme
  · exact notMem_query_splitTail _ _

theorem isRead_ofUnknown {scheme : String} (hscheme : scheme ≠ "file") {text : List Char}
    {url : Url} (h : ofUnknown scheme text = .ok url) : url.IsRead := by
  unfold ofUnknown at h
  split at h
  · exact isRead_withAuthority hscheme h
  · dsimp only at h
    split at h
    · cases h
      constructor
      · exact isParted_follow isParted_nil _
      · exact fun hlocal => absurd (of_decide_eq_true hlocal) hscheme
      · exact notMem_query_splitTail false text
    · cases h
      constructor
      · exact isParted_nil
      · exact fun hlocal => absurd (of_decide_eq_true hlocal) hscheme
      · exact notMem_query_splitTail false text

theorem isParted_readFileLocation {text : List Char} {host : Option Host} {list : List String}
    (h : readFileLocation text = .ok (host, list)) : IsParted list := by
  unfold readFileLocation at h
  dsimp only at h
  split at h
  · cases h
    exact isParted_follow isParted_nil _
  · obtain ⟨named, -, h⟩ := bind_eq_ok_iff.mp h
    split at h
    · cases h
      exact isParted_follow isParted_nil _
    · cases h
      exact isParted_follow isParted_nil _

theorem isRead_ofFile {text : List Char} {url : Url} (h : ofFile text = .ok url) :
    url.IsRead := by
  have hread {host : Option Host} {list : List String} {fragment : Option String}
      (hlist : IsParted list) :
      IsRead ⟨"file", some ⟨"", "", host, none⟩, .segments (trimStart list),
        (splitTail true text).2.1, fragment⟩ :=
    ⟨isParted_trimStart hlist, fun _ => ⟨list, rfl⟩, notMem_query_splitTail true text⟩
  unfold ofFile at h
  dsimp only at h
  split at h
  · cases h
    exact hread (isParted_follow isParted_nil _)
  · split at h
    · cases h
      exact hread (isParted_follow isParted_nil _)
    · obtain ⟨⟨host, list⟩, hlocation, h⟩ := bind_eq_ok_iff.mp h
      cases h
      exact hread (isParted_readFileLocation hlocation)

theorem isRead_of_parse {text : String} {url : Url} (h : parse text = .ok url) : url.IsRead := by
  unfold parse at h
  dsimp only at h
  split at h
  · cases h
  · rename_i scheme rest hscheme
    unfold ofScheme at h
    split at h
    · exact isRead_ofFile h
    · rename_i hother
      split at h
      · exact isRead_withAuthority hother h
      · exact isRead_ofUnknown hother h

end ReleaseLine.Url

namespace ReleaseLine

/-- A base is a URL that is read and whose path segments can be added to. -/
theorem of_baseUrl {text : String} {url : Url} (h : Config.baseUrl text = .ok url) :
    Url.parse text = .ok url ∧ url.isRootless = false := by
  unfold Config.baseUrl at h
  split at h
  · cases h
  · rename_i read hread
    split at h
    · cases h
    · rename_i hrooted
      cases h
      exact ⟨hread, by simpa using hrooted⟩

end ReleaseLine
