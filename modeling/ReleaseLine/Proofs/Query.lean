import ReleaseLine.Operation
import ReleaseLine.Proofs.Segments

namespace ReleaseLine

namespace Url

namespace Form

theorem decodePair_encodePair (name value : String) :
    decodePair (encodePair name value) = (name, value) := by
  have hname : '=' ∉ encode name.toList := notMem_encode rfl (by decide) (by decide) _
  unfold decodePair encodePair
  rw [Text.span_append hname]
  simp only [List.tail_cons, decode_encode]

theorem notMem_encodePair {mark : Char} (hplain : isPlain mark = false) (hsign : mark ≠ '%')
    (hplus : mark ≠ '+') (hequals : mark ≠ '=') (name value : String) :
    mark ∉ encodePair name value := by
  have hpart (text : List Char) : mark ∉ encode text := notMem_encode hplain hsign hplus text
  simp [encodePair, hpart, hequals]

theorem toList_append (query : Option String) (name value : String) :
    (append query name value).toList = (query.getD "").toList ++
      ((if (query.getD "").toList.isEmpty then [] else ['&']) ++ encodePair name value) := by
  unfold append
  rw [String.toList_ofList, List.append_assoc]

theorem decodePairs_append (query : Option String) (name value : String) :
    decodePairs (append query name value) = decodePairs (query.getD "") ++ [(name, value)] := by
  have hand : '&' ∉ encodePair name value :=
    notMem_encodePair rfl (by decide) (by decide) (by decide) name value
  have hfilled : (encodePair name value).isEmpty = false := by
    simp [encodePair]
  have hlast : (([encodePair name value].filter (!·.isEmpty)).map decodePair) =
      [(name, value)] := by
    simp [hfilled, decodePair_encodePair]
  unfold decodePairs
  rw [toList_append]
  cases hbefore : (query.getD "").toList with
  | nil =>
      rw [List.isEmpty_nil, if_pos rfl, List.nil_append, List.nil_append,
        List.splitOn_eq_singleton hand, hlast]
      rfl
  | cons c before =>
      have hsplit : (c :: before ++ ('&' :: encodePair name value)).splitOn '&' =
          (c :: before).splitOn '&' ++ [encodePair name value] := by
        rw [List.splitOn_append_cons_self, List.splitOn_eq_singleton hand]
      rw [List.isEmpty_cons, if_neg (by decide), List.singleton_append, hsplit, List.filter_append,
        List.map_append, hlast]

end Form

/-- The names and values in the query of a URL. -/
def pairs (url : Url) : List (String × String) := Form.decodePairs (url.query.getD "")

@[simp] theorem pairs_appendPair (url : Url) (name value : String) :
    (url.appendPair name value).pairs = url.pairs ++ [(name, value)] :=
  Form.decodePairs_append url.query name value

theorem HasClosedQuery.appendPair {url : Url} (h : url.HasClosedQuery) (name value : String) :
    (url.appendPair name value).HasClosedQuery := by
  have hbefore : '#' ∉ (url.query.getD "").toList := by
    cases hquery : url.query with
    | none => simp
    | some query => exact h query hquery
  have hpair : '#' ∉ Form.encodePair name value :=
    Form.notMem_encodePair rfl (by decide) (by decide) (by decide) name value
  have hseparator : '#' ∉ (if (url.query.getD "").toList.isEmpty then [] else ['&']) := by
    split
    · simp
    · simp
  rintro query ⟨⟩
  rw [Form.toList_append, List.mem_append, List.mem_append]
  exact not_or_intro hbefore (not_or_intro hseparator hpair)

theorem splitAtChar_queryText {front : List Char} (h : '?' ∉ front) (url : Url) :
    splitAtChar '?' (front ++ url.queryText.toList) = (front, url.query.map String.toList) := by
  unfold splitAtChar queryText
  cases url.query with
  | none =>
      rw [String.toList_empty, List.append_nil, Text.span_of_notMem h]
      rfl
  | some query =>
      have htext : ("?" ++ query).toList = '?' :: query.toList := String.toList_append
      rw [htext, Text.span_append h]
      rfl

theorem inner_eq_of_render_eq {url other : Url} (hscheme : url.scheme = other.scheme)
    (hfragment : url.fragment = other.fragment) (h : url.render = other.render) :
    url.authorityText.toList ++ (url.pathText.toList ++ url.queryText.toList) =
      other.authorityText.toList ++ (other.pathText.toList ++ other.queryText.toList) := by
  have hlists := congrArg String.toList h
  unfold render at hlists
  rw [hscheme, hfragment] at hlists
  simp only [String.toList_append] at hlists
  have hinner := List.append_cancel_right hlists
  simp only [List.append_assoc] at hinner
  exact List.append_cancel_left (List.append_cancel_left hinner)

/-- URLs that differ in path and query only differ as texts if their queries do. -/
theorem query_eq_of_render_eq {url other : Url} (hpath : '?' ∉ url.pathText.toList)
    (hother : '?' ∉ other.pathText.toList) (hscheme : url.scheme = other.scheme)
    (hauthority : url.authority = other.authority) (hfragment : url.fragment = other.fragment)
    (h : url.render = other.render) : url.query = other.query := by
  -- What stands between the authority, if there is one, and the query.
  have hfront (url : Url) (hpath : '?' ∉ url.pathText.toList) :
      ∃ front, '?' ∉ front ∧ url.authorityText.toList ++ url.pathText.toList =
        (url.authority.map fun a => ("//" ++ a.userInfoText ++ a.hostText).toList).getD [] ++
          front := by
    unfold authorityText
    cases url.authority with
    | some a => exact ⟨_, hpath, rfl⟩
    | none =>
        dsimp only
        split
        · exact ⟨"/.".toList ++ url.pathText.toList, by simp [hpath], rfl⟩
        · exact ⟨url.pathText.toList, hpath, rfl⟩
  obtain ⟨front, hnot, hsplit⟩ := hfront url hpath
  obtain ⟨front', hnot', hsplit'⟩ := hfront other hother
  have htexts : front ++ url.queryText.toList = front' ++ other.queryText.toList := by
    have hinner := inner_eq_of_render_eq hscheme hfragment h
    rw [← List.append_assoc, ← List.append_assoc, hsplit, hsplit', hauthority, List.append_assoc,
      List.append_assoc] at hinner
    exact List.append_cancel_left hinner
  have hread := splitAtChar_queryText hnot url
  rw [htexts, splitAtChar_queryText hnot' other, Prod.mk.injEq] at hread
  exact Option.map_injective (fun _ _ => String.toList_injective) hread.2.symm

theorem pathText_eq_of_render_eq {url other : Url} (hpath : '?' ∉ url.pathText.toList)
    (hother : '?' ∉ other.pathText.toList) (hscheme : url.scheme = other.scheme)
    (hauthority : url.authorityText = other.authorityText)
    (hfragment : url.fragment = other.fragment) (h : url.render = other.render) :
    url.pathText.toList = other.pathText.toList := by
  have hinner := inner_eq_of_render_eq hscheme hfragment h
  rw [hauthority] at hinner
  have hread := splitAtChar_queryText hpath url
  rw [List.append_cancel_left hinner, splitAtChar_queryText hother other, Prod.mk.injEq] at hread
  exact hread.1.symm

theorem extend_eq (url : Url) (texts : List String) :
    ∃ path, url.extend texts = { url with path := path } := by
  unfold extend
  split
  · exact ⟨url.path, rfl⟩
  · exact ⟨_, rfl⟩

theorem isRootless_extend (url : Url) (texts : List String) :
    (url.extend texts).isRootless = url.isRootless := by
  unfold extend
  split
  · rfl
  · rename_i list hpath
    simp [isRootless, hpath]

end Url

/-- What an operation asks at a place below a base: what the query of the base asks, and more. -/
structure Operation.Asks {α : Type} (op : Operation α) (base place : Url)
    (more : List (String × String)) : Prop where
  scheme : op.url.scheme = base.scheme
  authority : op.url.authority = base.authority
  path : op.url.path = place.path
  fragment : op.url.fragment = base.fragment
  pairs : op.url.pairs = base.pairs ++ more
  closed : op.url.HasClosedQuery
  /-- What a server is sent holds the path of the place and this query. -/
  received : Url.splitAtChar '?' op.address.target.toList =
    (place.pathText.toList, op.url.query.map String.toList)

/-- What the queries of all operations on the releases below a base ask. -/
structure QueriesAdd (base : Url) : Prop where
  latest : ∀ repository, (Operation.latest base repository).Asks base
    (releasesUrl base repository []) [("per_page", "1")]
  create : ∀ repository token version,
    (Operation.create base repository token version).Asks base (releasesUrl base repository []) [] ∧
      (Operation.create base repository token version).url.query = base.query
  upload : ∀ repository token id artifact,
    (Operation.upload base repository token id artifact).Asks base
      (releasesUrl base repository [id.text, "assets"])
      [("name", artifact.name), ("label", artifact.label)]
  apart : ∀ repository repository' token token' id id' artifact artifact',
    (Operation.upload base repository token id artifact).url.render =
        (Operation.upload base repository' token' id' artifact').url.render →
      artifact.name = artifact'.name ∧ artifact.label = artifact'.label

theorem releasesUrl_eq (base : Url) (repository : Repository) (tail : List String) :
    ∃ path, releasesUrl base repository tail = { base with path := path } :=
  Url.extend_eq base _

theorem target_address {α : Type} (op : Operation α) : op.address.target = op.url.target := by
  unfold Operation.address
  split
  · rfl
  · rfl

section Place

variable {text : String} {base : Url} (hbase : Config.baseUrl text = .ok base)

include hbase

theorem notMem_pathText_releasesUrl (repository : Repository) (tail : List String) :
    '?' ∉ (releasesUrl base repository tail).pathText.toList := by
  obtain ⟨hread, hrooted⟩ := of_baseUrl hbase
  apply Url.notMem_pathText
  · exact (Url.isRootless_extend base _).trans hrooted
  · exact Url.isParted_extend (Url.isRead_of_parse hread).parted _

theorem asks_of_url {α : Type} {op : Operation α} {repository : Repository} {tail : List String}
    {more : List (String × String)}
    (hurl : op.url = { releasesUrl base repository tail with query := op.url.query })
    (hpairs : op.url.pairs = base.pairs ++ more) (hclosed : op.url.HasClosedQuery) :
    op.Asks base (releasesUrl base repository tail) more := by
  obtain ⟨path, hplace⟩ := releasesUrl_eq base repository tail
  have hpath : op.url.pathText = (releasesUrl base repository tail).pathText := by
    rw [hurl]
    rfl
  constructor
  · rw [hurl, hplace]
  · rw [hurl, hplace]
  · rw [hurl]
  · rw [hurl, hplace]
  · exact hpairs
  · exact hclosed
  · have hnot := notMem_pathText_releasesUrl hbase repository tail
    rw [target_address, Url.target, String.toList_append, hpath,
      Url.splitAtChar_queryText hnot op.url]

/-- Whatever an operation is given, its query asks what the base asks and what it has to. -/
theorem queriesAdd_of_baseUrl : QueriesAdd base := by
  have hplace (repository : Repository) (tail : List String) :
      (releasesUrl base repository tail).query = base.query := by
    obtain ⟨path, hplace⟩ := releasesUrl_eq base repository tail
    rw [hplace]
  have hpairs (repository : Repository) (tail : List String) :
      (releasesUrl base repository tail).pairs = base.pairs := by
    rw [Url.pairs, hplace, Url.pairs]
  have hclosed (repository : Repository) (tail : List String) :
      (releasesUrl base repository tail).HasClosedQuery := by
    intro query hquery
    rw [hplace] at hquery
    exact (Url.isRead_of_parse (of_baseUrl hbase).1).query query hquery
  have hupload (repository : Repository) (token : Token) (id : ReleaseId) (artifact : Artifact) :
      (Operation.upload base repository token id artifact).Asks base
        (releasesUrl base repository [id.text, "assets"])
        [("name", artifact.name), ("label", artifact.label)] := by
    apply asks_of_url hbase rfl
    · simp [Operation.upload, hpairs]
    · exact ((hclosed _ _).appendPair _ _).appendPair _ _
  constructor
  · intro repository
    apply asks_of_url hbase rfl
    · simp [Operation.latest, hpairs]
    · exact (hclosed _ _).appendPair _ _
  · intro repository token version
    refine ⟨asks_of_url hbase rfl ?_ (hclosed _ _), hplace _ _⟩
    exact (hpairs _ _).trans (List.append_nil _).symm
  · exact hupload
  · intro repository repository' token token' id id' artifact artifact' h
    have hasks := hupload repository token id artifact
    have hasks' := hupload repository' token' id' artifact'
    have hquery : (Operation.upload base repository token id artifact).url.query =
        (Operation.upload base repository' token' id' artifact').url.query := by
      apply Url.query_eq_of_render_eq ?_ ?_ ?_ ?_ ?_ h
      · exact notMem_pathText_releasesUrl hbase repository [id.text, "assets"]
      · exact notMem_pathText_releasesUrl hbase repository' [id'.text, "assets"]
      · exact hasks.scheme.trans hasks'.scheme.symm
      · exact hasks.authority.trans hasks'.authority.symm
      · exact hasks.fragment.trans hasks'.fragment.symm
    have hread := hasks.pairs
    rw [Url.pairs, hquery, ← Url.pairs, hasks'.pairs, List.append_cancel_left_eq] at hread
    simp only [List.cons.injEq, Prod.mk.injEq, true_and, and_true] at hread
    exact ⟨hread.1.symm, hread.2.symm⟩

end Place

theorem queriesAdd_of_sample :
    ∃ base, Config.baseUrl "http://uploads.test/v3?q=a%26b&#end" = .ok base ∧
      base.pairs = [("q", "a&b")] ∧ QueriesAdd base := by
  have hpairs : (Config.baseUrl "http://uploads.test/v3?q=a%26b&#end").toOption.map Url.pairs =
      some [("q", "a&b")] := by
    decide +kernel
  cases hbase : Config.baseUrl "http://uploads.test/v3?q=a%26b&#end" with
  | error error =>
      rw [hbase] at hpairs
      cases hpairs
  | ok base =>
      rw [hbase] at hpairs
      exact ⟨base, rfl, Option.some.inj hpairs, queriesAdd_of_baseUrl hbase⟩

end ReleaseLine
