import Mathlib.Data.List.Perm.Basic
import Mathlib.Data.List.ReduceOption
import ReleaseLine.Config

/-!
A configuration that holds some fields of another. Each field is read by itself: what a file says of
a field is what was written, and what it does not say is as it is by default, whatever the order of
the fields and whatever else the file holds.
-/

namespace ReleaseLine

namespace Yaml

namespace Scalar

theorem digits?_of_isDigit {digits : List Char} (hne : digits ≠ [])
    (h : ∀ c ∈ digits, c.isDigit = true) : digits? 10 digits = some (Decimal.value digits) := by
  have hfold (n : Nat) : digits.foldlM (fun n c => do
      let d ← Token.hexValue? c
      if d < 10 then some (n * 10 + d) else none) n = some (Nat.ofDigitChars 10 digits n) := by
    clear hne
    induction digits generalizing n with
    | nil => rfl
    | cons c digits ih =>
        have hc := h c List.mem_cons_self
        have hvalue : Token.hexValue? c = some (c.toNat - 48) := if_pos hc
        have hlt : c.toNat - 48 < 10 := by
          have hdigit := Decimal.toNat_of_isDigit hc
          omega
        rw [List.foldlM_cons, hvalue]
        change (if c.toNat - 48 < 10 then some (n * 10 + (c.toNat - 48)) else none) >>= _ = _
        rw [if_pos hlt, Nat.mul_comm]
        exact ih (fun d hd => h d (List.mem_cons_of_mem c hd)) _
  unfold digits?
  rw [if_neg (by simpa using hne)]
  exact hfold 0

theorem unsigned?_numeral (n : Nat) : unsigned? (Decimal.numeral n) = some n := by
  have hdigits : ∀ c ∈ Decimal.numeral n, c.isDigit = true := fun c =>
    Decimal.isDigit_of_mem_numeral
  have hread : digits? 10 (Decimal.numeral n) = some n := by
    have hne : Decimal.numeral n ≠ [] := Nat.toDigits_ne_nil
    exact (digits?_of_isDigit hne hdigits).trans (congrArg some (Decimal.value_numeral n))
  rcases Decimal.numeral_cases n with rfl | ⟨c, digits, hnumeral, hc⟩
  · decide
  · rw [hnumeral] at hdigits hread ⊢
    have hdigit := hdigits c List.mem_cons_self
    have hplus : c ≠ '+' := by
      rintro rfl
      cases hdigit
    have hminus : c ≠ '-' := by
      rintro rfl
      cases hdigit
    have hpadded : isZeroPadded (c :: digits) = false := by
      simp [isZeroPadded, hplus, hminus, hc]
    simp [unsigned?, natural?, hplus, hc, hpadded, hread]

theorem not_null_of_plain {text : String} (h : Printer.styleOf text = .plain) :
    ¬ (text = "" ∨ isNull text) := by
  intro hnull
  have hnothing : resolve text = .nothing := if_pos hnull
  unfold Printer.styleOf at h
  rw [hnothing] at h
  grind

end Scalar

namespace Node

mutual

/-- Whether a tree is another one again, with the same scalars in the same order. -/
def repeats : Node → Node → Bool
  | .scalar _ _ content, .scalar _ _ content' => content = content'
  | .sequence _ _ items, .sequence _ _ items' => allRepeat items items'
  | .mapping _ _ entries, .mapping _ _ entries' => allPairsRepeat entries entries'
  | _, _ => false

def allRepeat : List Node → List Node → Bool
  | [], [] => true
  | node :: rest, node' :: rest' => repeats node node' && allRepeat rest rest'
  | _, _ => false

def allPairsRepeat : List (Node × Node) → List (Node × Node) → Bool
  | [], [] => true
  | (key, value) :: rest, (key', value') :: rest' =>
    repeats key key' && repeats value value' && allPairsRepeat rest rest'
  | _, _ => false

end

mutual

theorem isWhole_of_repeats {node node' : Node} (h : node.repeats node' = true) :
    node.isWhole = true := by
  cases node with
  | scalar => rfl
  | sequence mark anchor items =>
      cases node' with
      | sequence mark' anchor' items' => exact allWhole_of_allRepeat h
      | _ => cases h
  | mapping mark anchor entries =>
      cases node' with
      | mapping mark' anchor' entries' => exact allPairsWhole_of_allPairsRepeat h
      | _ => cases h
  | _ => cases h

theorem allWhole_of_allRepeat {items items' : List Node} (h : allRepeat items items' = true) :
    allWhole items = true := by
  match items, items' with
  | [], _ => rfl
  | _ :: _, [] => cases h
  | _ :: _, _ :: _ =>
      obtain ⟨hnode, hrest⟩ := (Bool.and_eq_true _ _).mp h
      exact (Bool.and_eq_true _ _).mpr ⟨isWhole_of_repeats hnode, allWhole_of_allRepeat hrest⟩

theorem allPairsWhole_of_allPairsRepeat {entries entries' : List (Node × Node)}
    (h : allPairsRepeat entries entries' = true) : allPairsWhole entries = true := by
  match entries, entries' with
  | [], _ => rfl
  | _ :: _, [] => cases h
  | (_, _) :: _, (_, _) :: _ =>
      obtain ⟨hpair, hrest⟩ := (Bool.and_eq_true _ _).mp h
      obtain ⟨hkey, hvalue⟩ := (Bool.and_eq_true _ _).mp hpair
      have hwhole := allPairsWhole_of_allPairsRepeat hrest
      exact (Bool.and_eq_true _ _).mpr ⟨(Bool.and_eq_true _ _).mpr
        ⟨isWhole_of_repeats hkey, isWhole_of_repeats hvalue⟩, hwhole⟩

end

theorem of_repeats_scalar {node : Node} {mark : Mark} {anchor : Option Nat} {content : Scalar}
    (h : node.repeats (.scalar mark anchor content) = true) :
    ∃ mark' anchor', node = .scalar mark' anchor' content := by
  cases node with
  | scalar mark' anchor' content' => exact ⟨mark', anchor', by rw [of_decide_eq_true h]⟩
  | _ => cases h

theorem forall₂_of_allPairsRepeat {entries entries' : List (Node × Node)}
    (h : allPairsRepeat entries entries' = true) :
    List.Forall₂ (fun entry entry' => entry.1.repeats entry'.1 = true ∧
      entry.2.repeats entry'.2 = true) entries entries' := by
  induction entries generalizing entries' with
  | nil =>
      cases entries' with
      | nil => exact .nil
      | cons => cases h
  | cons entry entries ih =>
      cases entries' with
      | nil => cases h
      | cons entry' entries' =>
          obtain ⟨hpair, hrest⟩ := (Bool.and_eq_true _ _).mp h
          exact .cons ((Bool.and_eq_true _ _).mp hpair) (ih hrest)

theorem of_repeats_mapping {node : Node} {mark : Mark} {anchor : Option Nat}
    {entries : List (Node × Node)} (h : node.repeats (.mapping mark anchor entries) = true) :
    ∃ mark' anchor' entries', node = .mapping mark' anchor' entries' ∧
      List.Forall₂ (fun entry' entry => entry'.1.repeats entry.1 = true ∧
        entry'.2.repeats entry.2 = true) entries' entries := by
  cases node with
  | mapping mark' anchor' entries' =>
      exact ⟨mark', anchor', entries', rfl, forall₂_of_allPairsRepeat h⟩
  | _ => cases h

end Node

/-- Whether a document is nothing but a tree again. -/
def Document.repeats (d : Document) (node : Node) : Bool :=
  d.error.isNone && !d.followed && d.root.any (·.repeats node)

/-- A node is a scalar with this content, or an alias of one. -/
def Node.IsScalar (d : Document) (node : Node) (content : Scalar) : Prop :=
  ∃ mark anchor, Decode.follow d node = .scalar mark anchor content

/-- A node is a scalar with this name as its text, however it is written. -/
def Node.IsKey (d : Document) (node : Node) (name : String) : Prop :=
  ∃ content, node.IsScalar d content ∧ content.text = name

namespace Decode

variable {node : Node} {d : Document} {p : Place}

theorem string_ofText {text : String} (h : node.IsScalar d (.ofText text)) (expected : String) :
    string expected d p node = .ok text := by
  obtain ⟨mark, anchor, hnode⟩ := h
  unfold string
  rw [hnode]
  rfl

theorem optional_ofText {text : String} (h : node.IsScalar d (.ofText text)) (expected : String) :
    optional (string expected) d p node = .ok (some text) := by
  have hvalue := string_ofText (p := p) h expected
  obtain ⟨mark, anchor, hnode⟩ := h
  unfold optional
  rw [hvalue, hnode]
  by_cases hplain : Printer.styleOf text = .plain
  · exact (if_neg (not_not.mpr hplain)).trans (if_neg (Scalar.not_null_of_plain hplain))
  · exact if_pos hplain

theorem natural64_ofNat {n : UInt64} (h : node.IsScalar d (.ofNat n.toNat)) :
    natural64 d p node = .ok n := by
  obtain ⟨mark, anchor, hnode⟩ := h
  have hread : Scalar.unsigned? (Nat.toDigits 10 n.toNat) = some n.toNat :=
    Scalar.unsigned?_numeral n.toNat
  unfold natural64
  rw [hnode]
  simp [Scalar.ofNat, hread, n.toNat_lt]

end Decode

namespace Field

variable {σ : Type} {fields : List (Field σ)} {d : Document} {state : List String → σ}
  {pairs : List (Node × Node)} {sets : List (Option String)}

theorem keyName_of_isKey {key : Node} {name : String} (h : key.IsKey d name)
    (path : List String) : ∃ step, keyName d path key = .ok (name, step) := by
  obtain ⟨content, ⟨mark, anchor, hfollow⟩, rfl⟩ := h
  unfold keyName
  rw [hfollow]
  cases key <;> exact ⟨_, rfl⟩

theorem readEntries_cons_of_read {key value : Node} {name : String} {field : Field σ}
    {record record' : σ} {seen : List String} (hkey : key.IsKey d name)
    (hfield : fields.find? (·.name = name) = some field) (hseen : name ∉ seen)
    (hread : ∀ p, field.read record d p value = .ok record') (path : List String) (mark : Mark) :
    readEntries fields d path mark seen record ((key, value) :: pairs) =
      readEntries fields d path mark (name :: seen) record' pairs := by
  obtain ⟨step, hname⟩ := keyName_of_isKey hkey path
  rw [readEntries, hname]
  simp only [bind, Except.bind]
  rw [hfield]
  simp [hseen, hread]

theorem readEntries_cons_of_passed {key value : Node} {name : String} {record : σ}
    {seen : List String} (hkey : key.IsKey d name)
    (hfield : fields.find? (·.name = name) = none) (hwhole : value.isWhole = true)
    (path : List String) (mark : Mark) :
    readEntries fields d path mark seen record ((key, value) :: pairs) =
      readEntries fields d path mark seen record pairs := by
  obtain ⟨step, hname⟩ := keyName_of_isKey hkey path
  rw [readEntries, hname]
  simp only [bind, Except.bind]
  rw [hfield]
  exact if_pos hwhole

/-- What an entry is to a record, of which `state` says how it is when some fields have been read:
one of those fields, or of another name and passed over. -/
def Reads (fields : List (Field σ)) (d : Document) (state : List String → σ)
    (pair : Node × Node) : Option String → Prop
  | some name => pair.1.IsKey d name ∧ ∃ field, fields.find? (·.name = name) = some field ∧
      ∀ seen p, field.read (state seen) d p pair.2 = .ok (state (name :: seen))
  | none => ∃ name, pair.1.IsKey d name ∧ fields.find? (·.name = name) = none ∧
      pair.2.isWhole = true

theorem readEntries_of_reads (h : List.Forall₂ (Reads fields d state) pairs sets)
    (path : List String) (mark : Mark) {seen : List String}
    (hnodup : (sets.reduceOption.reverse ++ seen).Nodup) :
    readEntries fields d path mark seen (state seen) pairs =
      .ok (state (sets.reduceOption.reverse ++ seen)) := by
  induction h generalizing seen with
  | nil => rfl
  | @cons pair set pairs sets hpair hpairs ih =>
      cases set with
      | none =>
          obtain ⟨name, hkey, hfield, hwhole⟩ := hpair
          rw [List.reduceOption_cons_of_none] at hnodup ⊢
          rw [readEntries_cons_of_passed hkey hfield hwhole]
          exact ih hnodup
      | some name =>
          obtain ⟨hkey, field, hfield, hread⟩ := hpair
          rw [List.reduceOption_cons_of_some, List.reverse_cons, List.append_assoc] at hnodup ⊢
          have hseen : name ∉ seen :=
            (List.nodup_cons.mp (List.nodup_append.mp hnodup).2.1).1
          rw [readEntries_cons_of_read hkey hfield hseen (hread seen)]
          exact ih hnodup

/-- The entries of a mapping may stand in any order. -/
theorem readRecord_of_reads {node : Node} {mark : Mark} {anchor : Option Nat} {order}
    (hnode : Decode.follow d node = .mapping mark anchor order) (horder : order.Perm pairs)
    (h : List.Forall₂ (Reads fields d state) pairs sets) (hnodup : sets.reduceOption.Nodup)
    (type : String) (p : Place) :
    ∃ read, read.Perm sets.reduceOption ∧
      readRecord type fields (state []) d p node = .ok (state read) := by
  obtain ⟨sets', h', hperm⟩ := List.perm_comp_forall₂ horder h
  have hread : (sets'.reduceOption.reverse).Perm sets.reduceOption :=
    (List.reverse_perm _).trans (hperm.filterMap id)
  refine ⟨sets'.reduceOption.reverse, hread, ?_⟩
  unfold readRecord
  rw [hnode]
  have hdistinct : (sets'.reduceOption.reverse ++ []).Nodup := by
    rw [List.append_nil]
    exact hread.nodup_iff.mpr hnodup
  have hentries := readEntries_of_reads h' p.path mark hdistinct
  rwa [List.append_nil] at hentries

end Field

/-- A mapping that holds entries, in any order and with values that agree with theirs, and besides
them only entries with names that are not known. -/
def Node.Holds (d : Document) (known : List String) (Agrees : String × Node → Node → Prop)
    (entries : List (String × Node)) (node : Node) : Prop :=
  ∃ mark anchor order own others, Decode.follow d node = .mapping mark anchor order ∧
    order.Perm (own ++ others) ∧
    List.Forall₂ (fun entry pair => pair.1.IsKey d entry.1 ∧ Agrees entry pair.2) entries own ∧
    ∀ pair ∈ others, (∃ name, pair.1.IsKey d name ∧ name ∉ known) ∧ pair.2.isWhole = true

theorem Field.readRecord_of_holds {σ : Type} {fields : List (Field σ)} {d : Document}
    {Agrees : String × Node → Node → Prop} {entries : List (String × Node)} {node : Node}
    (state : List String → σ)
    (hholds : node.Holds d (fields.map (·.name)) Agrees entries)
    (hread : ∀ entry ∈ entries, ∀ value, Agrees entry value →
      ∃ field, fields.find? (·.name = entry.1) = some field ∧
        ∀ seen p, field.read (state seen) d p value = .ok (state (entry.1 :: seen)))
    (hnodup : (entries.map (·.1)).Nodup) (type : String) (p : Place) :
    ∃ read, read.Perm (entries.map (·.1)) ∧
      readRecord type fields (state []) d p node = .ok (state read) := by
  obtain ⟨mark, anchor, order, own, others, hnode, horder, hown, hothers⟩ := hholds
  have hset : List.Forall₂ (Reads fields d state) own (entries.map fun entry => some entry.1) := by
    rw [List.forall₂_map_right_iff]
    have hboth := (List.forall₂_and_left _ _).mpr ⟨hread, hown⟩
    exact (hboth.imp fun entry pair h => ⟨h.2.1, h.1 pair.2 h.2.2⟩).flip
  have hpassed : List.Forall₂ (Reads fields d state) others (others.map fun _ => none) := by
    rw [List.forall₂_map_right_iff, List.forall₂_same]
    intro pair hpair
    obtain ⟨⟨name, hkey, hname⟩, hwhole⟩ := hothers pair hpair
    refine ⟨name, hkey, List.find?_eq_none.mpr fun field hfield heq => hname ?_, hwhole⟩
    exact List.mem_map.mpr ⟨field, hfield, of_decide_eq_true heq⟩
  have hsets : ((entries.map fun entry : String × Node => some entry.1) ++
      others.map fun _ => none).reduceOption = entries.map (·.1) := by
    simp [List.reduceOption, List.filterMap_map]
  have hreads := List.rel_append hset hpassed
  have hrecord := readRecord_of_reads hnode horder hreads (by rwa [hsets]) type p
  rwa [hsets] at hrecord

/-- A written scalar is there again. -/
def Node.IsRepeated (d : Document) (written node : Node) : Prop :=
  ∃ mark anchor content, written = .scalar mark anchor content ∧ node.IsScalar d content

end Yaml

/-- A mapping that is written is read as what it holds of some entries, whatever their order and
whatever stands among them. -/
theorem Config.holds_of_repeats {known : List String}
    {Agrees : String × Yaml.Node → Yaml.Node → Prop}
    {entries written others : List (String × Yaml.Node)}
    {write : String × Yaml.Node → String × Yaml.Node} {d : Yaml.Document} {node : Yaml.Node}
    (hname : ∀ entry ∈ entries, (write entry).1 = entry.1)
    (hvalue : ∀ entry ∈ entries, ∀ value, value.repeats (write entry).2 = true →
      Agrees entry value)
    (hothers : ∀ other ∈ others, other.1 ∉ known)
    (hwritten : written.Perm (entries.map write ++ others))
    (h : node.repeats (mappingOf written) = true) : node.Holds d known Agrees entries := by
  obtain ⟨mark, anchor, pairs, rfl, hpairs⟩ := Yaml.Node.of_repeats_mapping h
  rw [List.forall₂_map_right_iff] at hpairs
  obtain ⟨order, horder, hforall⟩ : ∃ order, pairs.Perm order ∧ List.Forall₂ _ order _ := by
    have hcomp : (Relation.Comp (List.Forall₂ _) List.Perm) pairs _ := ⟨written, hpairs, hwritten⟩
    rw [List.forall₂_comp_perm_eq_perm_comp_forall₂] at hcomp
    exact hcomp
  have hkey {key : Yaml.Node} {name : String} (hrepeats : key.repeats (.plain {} name) = true) :
      key.IsKey d name := by
    obtain ⟨mark, anchor, rfl⟩ := Yaml.Node.of_repeats_scalar hrepeats
    exact ⟨_, ⟨mark, anchor, rfl⟩, rfl⟩
  refine ⟨mark, anchor, pairs, order.take (entries.map write).length,
    order.drop (entries.map write).length, rfl, by rwa [List.take_append_drop], ?_, ?_⟩
  · have hown := List.forall₂_take_append _ _ _ hforall
    rw [List.forall₂_map_right_iff] at hown
    have hboth := (List.forall₂_and_left _ _).mpr ⟨fun entry hentry => hentry, hown.flip⟩
    refine hboth.imp fun entry pair ⟨hentry, hname', hvalue'⟩ => ⟨hkey ?_, ?_⟩
    · rwa [← hname entry hentry]
    · exact hvalue entry hentry pair.2 hvalue'
  · have hrest := List.forall₂_drop_append _ _ _ hforall
    have hboth := (List.forall₂_and_left _ _).mpr ⟨hothers, hrest.flip⟩
    have hpassed : List.Forall₂ (fun pair (_ : String × Yaml.Node) =>
        ((∃ name, pair.1.IsKey d name ∧ name ∉ known) ∧ pair.2.isWhole = true) ∧ True)
        (order.drop (entries.map write).length) others :=
      hboth.flip.imp fun pair other ⟨hunknown, hname', hvalue'⟩ =>
        ⟨⟨⟨other.1, hkey hname', hunknown⟩, Yaml.Node.isWhole_of_repeats hvalue'⟩, trivial⟩
    exact ((List.forall₂_and_left _ _).mp hpassed).1

theorem Config.repeats_mappingOf {entries : List (String × Yaml.Node)}
    (h : ∀ entry ∈ entries, entry.2.repeats entry.2 = true) :
    (mappingOf entries).repeats (mappingOf entries) = true := by
  induction entries with
  | nil => rfl
  | cons entry entries ih =>
      have hkey : (Yaml.Node.plain {} entry.1).repeats (.plain {} entry.1) = true :=
        decide_eq_true rfl
      have hrest := ih fun other hother => h other (List.mem_cons_of_mem entry hother)
      exact (Bool.and_eq_true _ _).mpr
        ⟨(Bool.and_eq_true _ _).mpr ⟨hkey, h entry List.mem_cons_self⟩, hrest⟩

namespace ArtifactConfig

def names : List String := fields.map (·.name)

/-- These fields as they are, and the others by default. -/
def on (c : ArtifactConfig) (keys : List String) : ArtifactConfig where
  name := if "name" ∈ keys then c.name else ({} : ArtifactConfig).name
  label := if "label" ∈ keys then c.label else ({} : ArtifactConfig).label
  contentType := if "content_type" ∈ keys then c.contentType else ({} : ArtifactConfig).contentType

/-- A mapping of these fields as they are written, in any order and among unknown ones. -/
def IsExcerpt (c : ArtifactConfig) (keys : List String) (d : Yaml.Document) (node : Yaml.Node) :
    Prop :=
  node.Holds d names (fun entry value => entry.2.IsRepeated d value)
    (c.entries.filter (·.1 ∈ keys))

variable {c : ArtifactConfig} {keys : List String} {d : Yaml.Document} {node : Yaml.Node}

theorem read_entry {entry : String × Yaml.Node} (hentry : entry ∈ c.entries) {value : Yaml.Node}
    (hvalue : entry.2.IsRepeated d value) :
    ∃ field, fields.find? (·.name = entry.1) = some field ∧
      ∀ seen p, field.read (c.on seen) d p value = .ok (c.on (entry.1 :: seen)) := by
  obtain ⟨mark, anchor, content, hwritten, hscalar⟩ := hvalue
  simp only [entries, List.mem_cons, List.not_mem_nil, or_false] at hentry
  rcases hentry with rfl | rfl | rfl
  all_goals
    cases hwritten
    refine ⟨_, rfl, fun seen p => ?_⟩
    simp only [Yaml.Decode.string_ofText hscalar]
    simp [on, bind, Except.bind, pure, Except.pure]

theorem read_of_isExcerpt (h : c.IsExcerpt keys d node) (p : Yaml.Place) :
    Yaml.Field.readRecord "ArtifactConfig" fields {} d p node = .ok (c.on keys) := by
  have hnodup : ((c.entries.filter (·.1 ∈ keys)).map (·.1)).Nodup :=
    List.Nodup.sublist (List.filter_sublist.map _) (by simp [entries])
  obtain ⟨read, hperm, hread⟩ := Yaml.Field.readRecord_of_holds c.on h
    (fun entry hentry value hvalue => read_entry (List.mem_of_mem_filter hentry) hvalue)
    hnodup "ArtifactConfig" p
  have hon : c.on read = c.on keys := by
    simp [on, hperm.mem_iff, entries]
  exact hread.trans (congrArg Except.ok hon)

theorem isExcerpt_of_repeats {written others : List (String × Yaml.Node)}
    (hothers : ∀ other ∈ others, other.1 ∉ names)
    (hwritten : written.Perm (c.entries.filter (·.1 ∈ keys) ++ others))
    (h : node.repeats (Config.mappingOf written) = true) : c.IsExcerpt keys d node := by
  rw [← List.map_id (c.entries.filter _)] at hwritten
  refine Config.holds_of_repeats (fun _ _ => rfl) ?_ hothers hwritten h
  intro entry hentry value hvalue
  have hmem := List.mem_of_mem_filter hentry
  simp only [entries, List.mem_cons, List.not_mem_nil, or_false] at hmem
  rcases hmem with rfl | rfl | rfl
  all_goals
    obtain ⟨mark, anchor, rfl⟩ := Yaml.Node.of_repeats_scalar hvalue
    exact ⟨_, _, _, rfl, _, _, rfl⟩

end ArtifactConfig

namespace Config

def names : List String := fields.map (·.name)

/-- These fields as they are, of the artifact only the inner ones, and the others by default. -/
def on (c : Config) (outer inner : List String) : Config where
  apiUrl := if "api_url" ∈ outer then c.apiUrl else ({} : Config).apiUrl
  uploadUrl := if "upload_url" ∈ outer then c.uploadUrl else ({} : Config).uploadUrl
  owner := if "owner" ∈ outer then c.owner else ({} : Config).owner
  repository := if "repository" ∈ outer then c.repository else ({} : Config).repository
  userAgent := if "user_agent" ∈ outer then c.userAgent else ({} : Config).userAgent
  connectTimeout :=
    if "connect_timeout_ms" ∈ outer then c.connectTimeout else ({} : Config).connectTimeout
  firstByteTimeout :=
    if "first_byte_timeout_ms" ∈ outer then c.firstByteTimeout else ({} : Config).firstByteTimeout
  endToEndTimeout :=
    if "end_to_end_timeout_ms" ∈ outer then c.endToEndTimeout else ({} : Config).endToEndTimeout
  trustAnchors := if "trust_anchors" ∈ outer then c.trustAnchors else ({} : Config).trustAnchors
  artifact := if "artifact" ∈ outer then c.artifact.on inner else ({} : Config).artifact
  token := if "token" ∈ outer then c.token else ({} : Config).token

/-- A value of a field as it is written; the artifact's is one that holds the inner fields. -/
def Agrees (c : Config) (inner : List String) (d : Yaml.Document) (entry : String × Yaml.Node)
    (value : Yaml.Node) : Prop :=
  if entry.1 = "artifact" then c.artifact.IsExcerpt inner d value else entry.2.IsRepeated d value

/-- A document with these fields as they are written, in any order and among unknown ones. -/
def IsExcerpt (c : Config) (outer inner : List String) (d : Yaml.Document) : Prop :=
  d.error = none ∧ d.followed = false ∧ ∃ root, d.root = some root ∧
    root.Holds d names (c.Agrees inner d) (c.entries.filter (·.1 ∈ outer))

variable {c : Config} {outer inner : List String} {d : Yaml.Document}

theorem names_entries (c : Config) : (c.entries.map (·.1)).Sublist names := by
  have hmaybe (name : String) (value : Option String) (write : String → Yaml.Node) :
      ((value.map fun text => (name, write text)).toList.map (·.1)).Sublist [name] := by
    cases value <;> simp
  simp only [entries, List.map_append]
  change List.Sublist _ (["api_url", "upload_url"] ++ ["owner"] ++ ["repository"] ++
    ["user_agent", "connect_timeout_ms", "first_byte_timeout_ms", "end_to_end_timeout_ms"] ++
    ["trust_anchors"] ++ ["artifact"] ++ ["token"])
  exact (((((List.Sublist.refl _).append (hmaybe _ _ _)).append (hmaybe _ _ _)).append
    (List.Sublist.refl _)).append (hmaybe _ _ _)).append (List.Sublist.refl _) |>.append
    (hmaybe _ _ _)

theorem artifact_or_scalar {entry : String × Yaml.Node} (h : entry ∈ c.entries) :
    entry = ("artifact", mappingOf c.artifact.entries) ∨
      entry.1 ≠ "artifact" ∧ ∃ content, entry.2 = .scalar {} none content := by
  simp only [entries, List.mem_append, List.mem_cons, List.not_mem_nil, or_false,
    Option.mem_toList, Option.map_eq_some_iff] at h
  rcases h with ((((((rfl | rfl) | ⟨text, -, rfl⟩) | ⟨text, -, rfl⟩) |
    rfl | rfl | rfl | rfl) | ⟨text, -, rfl⟩) | rfl) | ⟨text, -, rfl⟩
  case inl.inr => exact Or.inl rfl
  all_goals exact Or.inr ⟨by simp, _, rfl⟩

theorem read_entry {entry : String × Yaml.Node} (hentry : entry ∈ c.entries) {value : Yaml.Node}
    (hvalue : c.Agrees inner d entry value) :
    ∃ field, fields.find? (·.name = entry.1) = some field ∧
      ∀ seen p, field.read (c.on seen inner) d p value = .ok (c.on (entry.1 :: seen) inner) := by
  by_cases hartifact : entry.1 = "artifact"
  · have hexcerpt : c.artifact.IsExcerpt inner d value := by
      rwa [Agrees, if_pos hartifact] at hvalue
    rw [hartifact]
    refine ⟨_, rfl, fun seen p => ?_⟩
    simp only [ArtifactConfig.read_of_isExcerpt hexcerpt]
    simp [on, bind, Except.bind, pure, Except.pure]
  · rw [Agrees, if_neg hartifact] at hvalue
    obtain ⟨mark, anchor, content, hwritten, hscalar⟩ := hvalue
    simp only [entries, List.mem_append, List.mem_cons, List.not_mem_nil, or_false,
      Option.mem_toList, Option.map_eq_some_iff] at hentry
    rcases hentry with ((((((rfl | rfl) | ⟨text, hset, rfl⟩) | ⟨text, hset, rfl⟩) |
      rfl | rfl | rfl | rfl) | ⟨text, hset, rfl⟩) | rfl) | ⟨text, hset, rfl⟩ <;>
      cases hwritten <;> refine ⟨_, rfl, fun seen p => ?_⟩
    -- a text, one that may be left out, or a number
    all_goals
      dsimp only
      first
      | rw [Yaml.Decode.string_ofText hscalar]
      | rw [Yaml.Decode.optional_ofText hscalar, ← hset]
      | rw [Yaml.Decode.natural64_ofNat hscalar]
      simp [on, bind, Except.bind, pure, Except.pure]

theorem on_congr {read : List String}
    (h : ∀ name ∈ c.entries.map (·.1), name ∈ read ↔ name ∈ outer) :
    c.on read inner = c.on outer inner := by
  have hwritten {α : Type} (value default : α) {name : String}
      (hname : name ∈ c.entries.map (·.1)) :
      (if name ∈ read then value else default) = if name ∈ outer then value else default := by
    simp only [h name hname]
  have hmaybe (value : Option String) {name : String}
      (hname : ∀ text, value = some text → name ∈ c.entries.map (·.1)) :
      (if name ∈ read then value else none) = if name ∈ outer then value else none := by
    cases value with
    | none => simp
    | some text => exact hwritten _ _ (hname text rfl)
  unfold on
  congr 1
  all_goals first
    | exact hmaybe _ fun text hset => by simp [entries, hset]
    | exact hwritten _ _ (by simp [entries])

theorem ofDocument_of_isExcerpt (h : c.IsExcerpt outer inner d) :
    ofDocument d = .ok (c.on outer inner) := by
  obtain ⟨herror, hfollowed, root, hroot, hholds⟩ := h
  have hnodup : ((c.entries.filter (·.1 ∈ outer)).map (·.1)).Nodup :=
    List.Nodup.sublist ((List.filter_sublist.map _).trans c.names_entries) (by decide)
  obtain ⟨read, hperm, hread⟩ := Yaml.Field.readRecord_of_holds (c.on · inner) hholds
    (fun entry hentry value hvalue => read_entry (List.mem_of_mem_filter hentry) hvalue)
    hnodup "Config" ⟨[], [], {}⟩
  have hon : c.on read inner = c.on outer inner := on_congr fun name hname => by
    obtain ⟨entry, hentry, rfl⟩ := List.mem_map.mp hname
    rw [hperm.mem_iff, List.mem_map]
    constructor
    · rintro ⟨chosen, hchosen, hname⟩
      exact hname ▸ of_decide_eq_true (List.mem_filter.mp hchosen).2
    · intro houter
      exact ⟨entry, List.mem_filter.mpr ⟨hentry, decide_eq_true houter⟩, rfl⟩
  have hempty : c.on [] inner = {} := by simp [on]
  rw [hon, hempty] at hread
  unfold ofDocument Yaml.Document.readRecord
  rw [hroot, herror, hfollowed]
  simp only [hread]
  rfl

/-- A field as it is written, of the artifact only some entries. -/
def write (inside : List (String × Yaml.Node)) (entry : String × Yaml.Node) : String × Yaml.Node :=
  if entry.1 = "artifact" then (entry.1, mappingOf inside) else entry

/-- A mapping of these fields as they are written, in any order and among unknown ones, is an
excerpt once it is read. -/
theorem isExcerpt_of_repeats {inside extra written others : List (String × Yaml.Node)}
    (hextra : ∀ other ∈ extra, other.1 ∉ ArtifactConfig.names)
    (hinside : inside.Perm (c.artifact.entries.filter (·.1 ∈ inner) ++ extra))
    (hothers : ∀ other ∈ others, other.1 ∉ names)
    (hwritten : written.Perm ((c.entries.filter (·.1 ∈ outer)).map (write inside) ++ others))
    (h : d.repeats (mappingOf written) = true) : c.IsExcerpt outer inner d := by
  unfold Yaml.Document.repeats at h
  simp only [Bool.and_eq_true, Option.isNone_iff_eq_none, Bool.not_eq_true', Option.any_eq_true]
    at h
  obtain ⟨⟨herror, hfollowed⟩, root, hroot, hrepeats⟩ := h
  refine ⟨herror, hfollowed, root, hroot, holds_of_repeats ?_ ?_ hothers hwritten hrepeats⟩
  · intro entry _
    unfold write
    split <;> rfl
  · intro entry hentry value hvalue
    rcases artifact_or_scalar (List.mem_of_mem_filter hentry) with rfl | ⟨hname, content, hscalar⟩
    · rw [Agrees, if_pos rfl]
      exact ArtifactConfig.isExcerpt_of_repeats hextra hinside hvalue
    · rw [Agrees, if_neg hname]
      rw [write, if_neg hname, hscalar] at hvalue
      obtain ⟨mark, anchor, rfl⟩ := Yaml.Node.of_repeats_scalar hvalue
      exact ⟨_, _, content, hscalar, mark, anchor, rfl⟩

/-- A document of these fields only, in the order in which they are written. -/
def excerpt (c : Config) (outer inner : List String) : Yaml.Document where
  root := some (mappingOf ((c.entries.filter (·.1 ∈ outer)).map fun entry =>
    if entry.1 = "artifact" then
      (entry.1, mappingOf (c.artifact.entries.filter (·.1 ∈ inner)))
    else entry))
  error := none
  followed := false

theorem isExcerpt_excerpt (c : Config) (outer inner : List String) :
    c.IsExcerpt outer inner (c.excerpt outer inner) := by
  refine isExcerpt_of_repeats (List.forall_mem_nil _) (.of_eq (List.append_nil _).symm)
    (List.forall_mem_nil _) (.of_eq (List.append_nil _).symm) ?_
  refine repeats_mappingOf fun entry hentry => ?_
  obtain ⟨entry, hmem, rfl⟩ := List.mem_map.mp hentry
  rcases artifact_or_scalar (List.mem_of_mem_filter hmem) with rfl | ⟨hname, content, hscalar⟩
  · refine repeats_mappingOf fun entry hentry => ?_
    have hmem := List.mem_of_mem_filter hentry
    simp only [ArtifactConfig.entries, List.mem_cons, List.not_mem_nil, or_false] at hmem
    rcases hmem with rfl | rfl | rfl <;> exact decide_eq_true rfl
  · rw [if_neg hname, hscalar]
    exact decide_eq_true rfl

theorem written_all (c : Config) :
    (c.entries.filter (·.1 ∈ names)).map (write c.artifact.entries) = c.entries := by
  have houter : c.entries.filter (·.1 ∈ names) = c.entries :=
    List.filter_eq_self.mpr fun entry hentry =>
      decide_eq_true (c.names_entries.subset (List.mem_map_of_mem hentry))
  have hwrite : ∀ entry ∈ c.entries, write c.artifact.entries entry = entry := by
    intro entry hentry
    rcases artifact_or_scalar hentry with rfl | ⟨hname, -⟩
    · rfl
    · exact if_neg hname
  rw [houter, List.map_congr_left hwrite, List.map_id']

theorem excerpt_all (c : Config) :
    c.excerpt names ArtifactConfig.names = ⟨some c.toNode, none, false⟩ := by
  have hwritten : mappingOf ((c.entries.filter (·.1 ∈ names)).map (write c.artifact.entries)) =
      c.toNode := congrArg mappingOf c.written_all
  rw [← hwritten]
  rfl

theorem isExcerpt_of_repeats_toNode (h : d.repeats c.toNode = true) :
    c.IsExcerpt names ArtifactConfig.names d := by
  refine isExcerpt_of_repeats (List.forall_mem_nil _) (.of_eq (List.append_nil _).symm)
    (List.forall_mem_nil _) (.of_eq ?_) h
  exact c.written_all.symm.trans (List.append_nil _).symm

theorem on_all (c : Config) : c.on names ArtifactConfig.names = c := by
  simp [on, ArtifactConfig.on, names, ArtifactConfig.names, fields, ArtifactConfig.fields]

/-- Whatever fields of a configuration a document has, in whatever order and whatever else is in it,
they are read as they were, and all others are as they are by default. A configuration that is
written in full is had back. -/
theorem reads_overlay (c : Config) :
    (∀ outer inner d, c.IsExcerpt outer inner d → ofDocument d = .ok (c.on outer inner)) ∧
      (∀ outer inner text, c.IsExcerpt outer inner (.parse text) →
        parse text = .ok (c.on outer inner)) ∧
      (∀ outer inner, c.IsExcerpt outer inner (c.excerpt outer inner)) ∧
      ofNode c.toNode = .ok c ∧
      ((Yaml.Document.parse c.toNode.render).repeats c.toNode = true → parse c.render = .ok c) ∧
      c.on names ArtifactConfig.names = c ∧ ∀ inner, c.on [] inner = {} := by
  have hread (outer inner : List String) (d : Yaml.Document) :
      c.IsExcerpt outer inner d → ofDocument d = .ok (c.on outer inner) :=
    ofDocument_of_isExcerpt
  have hall (d : Yaml.Document) (h : c.IsExcerpt names ArtifactConfig.names d) :
      ofDocument d = .ok c := by
    rw [hread _ _ d h, on_all]
  refine ⟨hread, fun outer inner text => hread outer inner (.parse text), isExcerpt_excerpt c,
    hall _ ?_, fun h => hall _ (isExcerpt_of_repeats_toNode h), on_all c, fun inner => by simp [on]⟩
  rw [← excerpt_all]
  exact isExcerpt_excerpt c names ArtifactConfig.names

/-- A file that holds some fields of a configuration, in another order and among others. -/
def partialFile : String :=
  "proxy: []\nartifact: \x7bcolour: red, label: '~'\x7d\n" ++
    "connect_timeout_ms: 18446744073709551615\nrepository: 'null'\nowner: ''\n"

theorem reads_overlay_partialFile :
    parse partialFile = .ok
      { owner := some "", repository := some "null", connectTimeout := 18446744073709551615,
        artifact := { label := "~" } } := by
  let c : Config :=
    { apiUrl := "http://127.0.0.1:9000", owner := some "", repository := some "null",
      connectTimeout := 18446744073709551615, trustAnchors := some "roots.pem",
      artifact := { name := "a.jar", label := "~" } }
  refine (reads_overlay c).2.1 ["owner", "repository", "connect_timeout_ms", "artifact"] ["label"]
    partialFile ?_
  have hrepeats : (Yaml.Document.parse partialFile).repeats (mappingOf
      [("proxy", .sequence {} none []),
        ("artifact", mappingOf
          [("colour", .plain {} "red"), ("label", .scalar {} none (.ofText "~"))]),
        ("connect_timeout_ms", .scalar {} none (.ofNat 18446744073709551615)),
        ("repository", .scalar {} none (.ofText "null")),
        ("owner", .scalar {} none (.ofText ""))]) = true := by
    decide +kernel
  -- what the file has of the configuration, and of the artifact, stands in it backwards
  exact isExcerpt_of_repeats
    (List.forall_mem_singleton.mpr (show "colour" ∉ ArtifactConfig.names by decide))
    (List.reverse_perm _).symm
    (List.forall_mem_singleton.mpr (show "proxy" ∉ names by decide))
    (List.reverse_perm _).symm hrepeats

end Config

end ReleaseLine
