import ReleaseLine.Json.Value
import ReleaseLine.Listing
import ReleaseLine.Proofs.Bytes

namespace ReleaseLine.Json

/-- A character of ASCII that stands for itself in a string. -/
structure IsBare (c : Char) : Prop where
  visible : 0x20 ≤ c.toNat
  ascii : c.toNat < 0x80
  notQuote : c ≠ '"'
  notSlash : c ≠ '\\'

instance : DecidablePred IsBare := fun c =>
  decidable_of_iff (0x20 ≤ c.toNat ∧ c.toNat < 0x80 ∧ c ≠ '"' ∧ c ≠ '\\')
    ⟨fun ⟨a, b, d, e⟩ => ⟨a, b, d, e⟩, fun ⟨a, b, d, e⟩ => ⟨a, b, d, e⟩⟩

theorem isBare_of_all {text : List Char} (h : text.all (fun c => decide (IsBare c)) = true) :
    ∀ c ∈ text, IsBare c := by
  intro c hc
  exact of_decide_eq_true (List.all_eq_true.mp h c hc)

theorem IsBare.of_isDigit {c : Char} (h : c.isDigit = true) : IsBare c := by
  simp only [Char.isDigit, Bool.and_eq_true, decide_eq_true_eq] at h
  have hge : 48 ≤ c.toNat := h.1
  have hle : c.toNat ≤ 57 := h.2
  refine ⟨by omega, by omega, ?_, ?_⟩
  · rintro rfl
    exact absurd hge (by decide)
  · rintro rfl
    exact absurd hle (by decide)

theorem IsBare.escape_eq {c : Char} (h : IsBare c) : escape c = [c] := by
  have hne {d : Char} (hd : d.toNat < 0x20) : c ≠ d := by
    rintro rfl
    have := h.visible
    omega
  have hvisible := h.visible
  unfold escape
  rw [if_neg h.notQuote, if_neg h.notSlash, if_neg (hne (by decide)), if_neg (hne (by decide)),
    if_neg (hne (by decide)), if_neg (by omega), if_neg (by omega), if_neg (by omega),
    if_neg (by omega)]

theorem isAscii_of_isBare {text : List Char} (h : ∀ c ∈ text, IsBare c) : Text.IsAscii text :=
  fun c hc => (h c hc).ascii

theorem encodeString_of_isBare {text : List Char} (h : ∀ c ∈ text, IsBare c) :
    encodeString text = '"' :: (text ++ ['"']) := by
  have hescape : text.flatMap escape = text := by
    induction text with
    | nil => rfl
    | cons c text ih =>
        rw [List.flatMap_cons, (h c List.mem_cons_self).escape_eq,
          ih fun d hd => h d (List.mem_cons_of_mem c hd)]
        rfl
  unfold encodeString
  rw [hescape]
  rfl

namespace Reader

variable {α β σ : Type} {bound : Nat} {s t u : List UInt8}

/-- From some bytes a reader gives a value, and leaves the bytes after it. -/
def Reads (reader : Reader α) (bound : Nat) (s : List UInt8) (a : α) (u : List UInt8) :
    Prop :=
  reader bound s = .ok a u

theorem reads_pure {a : α} : Reads (pure a) bound s a s := rfl

theorem reads_bind {reader : Reader α} {next : α → Reader β} {a : α} {b : β}
    (hreader : Reads reader bound s a t) (hnext : Reads (next a) bound t b u) :
    Reads (reader >>= next) bound s b u := by
  change EStateM.bind (reader bound) (fun a => next a bound) s = .ok b u
  unfold EStateM.bind
  rw [hreader]
  exact hnext

theorem reads_placed {reader : Reader α} {a : α} (h : Reads reader bound s a u) :
    Reads (placed reader) bound s a u := by
  unfold Reads placed
  rw [h]

theorem reads_closedBy {body : Reader α} {closing : Reader Unit} {a : α}
    (hbody : Reads body bound s a t) (hclosing : Reads closing bound t () u) :
    Reads (closedBy body closing) bound s a u := by
  have hclosed : closing bound t = .ok () u := hclosing
  unfold Reads closedBy
  rw [hbody]
  dsimp only
  rw [hclosed]

theorem reads_skip {b : UInt8} : Reads skip bound (b :: u) () u := rfl

theorem reads_peek : Reads peek bound s s.head? s := rfl

theorem reads_peekToken {b : UInt8} (h : isSpace b = false) :
    Reads peekToken bound (b :: u) (some b) (b :: u) := by
  have hdrop : (b :: u).dropWhile isSpace = b :: u :=
    List.dropWhile_cons_of_neg (by simp [h])
  refine reads_bind (a := ()) (t := b :: u) ?_ reads_peek
  change EStateM.Result.ok () ((b :: u).dropWhile isSpace) = _
  rw [hdrop]

theorem reads_peekValue {b : UInt8} (h : isSpace b = false) :
    Reads peekValue bound (b :: u) b (b :: u) :=
  reads_bind (reads_peekToken h) reads_pure

theorem reads_iterate_inl {step : σ → Reader (σ ⊕ α)} {n : Nat} {state : σ} (later : σ) {a : α}
    (hstep : Reads (step state) bound s (.inl later) t)
    (h : Reads (iterate step n later) bound t a u) :
    Reads (iterate step (n + 1) state) bound s a u :=
  reads_bind hstep h

theorem reads_iterate_inr {step : σ → Reader (σ ⊕ α)} {n : Nat} {state : σ} {a : α}
    (hstep : Reads (step state) bound s (.inr a) u) :
    Reads (iterate step (n + 1) state) bound s a u :=
  reads_bind hstep reads_pure

theorem reads_loop {step : σ → Reader (σ ⊕ α)} (advance : σ → UInt8 → σ) {start : σ} {a : α}
    (hbound : s.length ≤ bound)
    (hstep : ∀ before b later, s = before ++ b :: later →
      Reads (step (before.foldl advance start)) bound (b :: (later ++ t))
        (.inl (advance (before.foldl advance start) b)) (later ++ t))
    (hlast : Reads (step (s.foldl advance start)) bound t (.inr a) u) :
    Reads (loop step start) bound (s ++ t) a u := by
  -- What is left to read after `before`, with steps to spare.
  have hiterate (later before : List UInt8) (n : Nat) (hcontent : s = before ++ later)
      (hn : later.length ≤ n) :
      Reads (iterate step (n + 1) (before.foldl advance start)) bound (later ++ t) a u := by
    induction later generalizing before n with
    | nil =>
        rw [List.append_nil] at hcontent
        rw [hcontent] at hlast
        exact reads_iterate_inr hlast
    | cons b later ih =>
        obtain ⟨n, rfl⟩ := Nat.exists_eq_add_of_le' (Nat.le_trans (Nat.succ_pos _) hn)
        refine reads_iterate_inl _ (hstep before b later hcontent) ?_
        have hnext : s = (before ++ [b]) ++ later := by
          rw [hcontent, List.append_assoc, List.singleton_append]
        have hfold := ih (before ++ [b]) n hnext (Nat.le_of_succ_le_succ hn)
        rw [List.foldl_append] at hfold
        exact hfold
  exact reads_bind (a := bound) rfl (hiterate s [] bound rfl hbound)

theorem reads_string {text : List Char} (hbare : ∀ c ∈ text, IsBare c)
    (hbound : text.length ≤ bound) :
    Reads string bound (Text.ascii text ++ 0x22 :: u) (String.ofList text) u := by
  refine reads_bind (a := Text.ascii text) (t := u) ?_ ?_
  · refine reads_loop (fun written b => b :: written) ?_ ?_ ?_
    · rw [Text.ascii, List.length_map]
      exact hbound
    · intro before b later hcontent
      have hmem : b ∈ Text.ascii text := by simp [hcontent]
      obtain ⟨c, hc, rfl⟩ := List.mem_map.mp hmem
      have hbare := hbare c hc
      have hquote : UInt8.ofNat c.toNat ≠ 0x22 :=
        Text.ofNat_ne hbare.ascii (by decide : '"'.toNat < 0x80) hbare.notQuote
      have hslash : UInt8.ofNat c.toNat ≠ 0x5c :=
        Text.ofNat_ne hbare.ascii (by decide : '\\'.toNat < 0x80) hbare.notSlash
      have hvisible : ¬ UInt8.ofNat c.toNat < 0x20 := by
        rw [UInt8.lt_iff_toNat_lt, Text.toNat_ofNat_of_lt hbare.ascii]
        exact Nat.not_lt.mpr hbare.visible
      refine reads_bind reads_peek (reads_bind reads_skip ?_)
      rw [if_neg hquote, if_neg hslash, if_neg hvisible]
      exact reads_pure
    · refine reads_bind reads_peek (reads_bind reads_skip ?_)
      rw [if_pos rfl, List.foldl_flip_cons_eq_append', List.append_nil, List.reverse_reverse]
      exact reads_pure
  · rw [Text.decode_ascii (isAscii_of_isBare hbare)]
    exact reads_pure

/-- A number with one more digit. -/
def appendDigit (n : Nat) (b : UInt8) : Nat := n * 10 + digitValue b

theorem digitValue_ofNat {c : Char} (h : c.isDigit = true) :
    digitValue (UInt8.ofNat c.toNat) = c.toNat - 48 := by
  have hc : c.toNat < 0x80 := (IsBare.of_isDigit h).ascii
  unfold digitValue
  rw [Text.toNat_ofNat_of_lt hc]

theorem isDigit_ofNat {c : Char} (h : c.isDigit = true) : isDigit (UInt8.ofNat c.toNat) = true := by
  have hc : c.toNat < 0x80 := (IsBare.of_isDigit h).ascii
  have hbyte : (UInt8.ofNat c.toNat).toNat = c.toNat := Text.toNat_ofNat_of_lt hc
  simp only [Char.isDigit, Bool.and_eq_true, decide_eq_true_eq] at h
  unfold isDigit
  simp only [Bool.and_eq_true, decide_eq_true_eq, UInt8.le_iff_toNat_le, hbyte]
  exact h

theorem isDigit_of_mem_ascii {digits : List Char} (h : ∀ c ∈ digits, c.isDigit = true) {b : UInt8}
    (hb : b ∈ Text.ascii digits) : isDigit b = true := by
  obtain ⟨c, hc, rfl⟩ := List.mem_map.mp hb
  exact isDigit_ofNat (h c hc)

theorem foldl_appendDigit {digits : List Char} (h : ∀ c ∈ digits, c.isDigit = true) (n : Nat) :
    (Text.ascii digits).foldl appendDigit n = Nat.ofDigitChars 10 digits n := by
  induction digits generalizing n with
  | nil => rfl
  | cons c digits ih =>
      have hc : appendDigit n (UInt8.ofNat c.toNat) = 10 * n + (c.toNat - 48) := by
        unfold appendDigit
        rw [digitValue_ofNat (h c List.mem_cons_self), Nat.mul_comm]
      change (Text.ascii digits).foldl appendDigit (appendDigit n (UInt8.ofNat c.toNat)) = _
      rw [ih (fun d hd => h d (List.mem_cons_of_mem c hd)), hc]
      rfl

theorem le_foldl_appendDigit (digits : List UInt8) (n : Nat) :
    n ≤ digits.foldl appendDigit n := by
  induction digits generalizing n with
  | nil => exact Nat.le_refl n
  | cons b digits ih =>
      have hle : n ≤ appendDigit n b := by
        unfold appendDigit
        omega
      exact Nat.le_trans hle (ih _)

theorem not_lt_of_foldl_appendDigit {before later : List UInt8} {d : UInt8} {start n : Nat}
    (hvalue : (before ++ d :: later).foldl appendDigit start = n) (hn : n < UInt64.size) :
    ¬ maxUInt64 < before.foldl appendDigit start * 10 + digitValue d := by
  rw [List.foldl_append, List.foldl_cons] at hvalue
  have hsofar := le_foldl_appendDigit later (appendDigit (before.foldl appendDigit start) d)
  rw [hvalue] at hsofar
  have hmax : n ≤ maxUInt64 := Nat.le_sub_one_of_lt hn
  exact Nat.not_lt.mpr (Nat.le_trans hsofar hmax)

/-- What ends a number: no digit, no point and no mark of an exponent. -/
def EndsNumber (b : UInt8) : Prop :=
  isDigit b = false ∧ b ≠ 0x2e ∧ isExponentMark (some b) = false

theorem reads_afterWhole {b : UInt8} (h : EndsNumber b) (n : Nat) :
    Reads (afterWhole true n) bound (b :: u) (.natural n) (b :: u) := by
  obtain ⟨-, hpoint, hmark⟩ := h
  refine reads_bind reads_peek ?_
  dsimp only [List.head?_cons]
  split
  · rename_i heq
    exact absurd (Option.some.inj heq) hpoint
  · rw [hmark]
    exact reads_pure

theorem reads_number {b : UInt8} (h : EndsNumber b) {n : Nat} (hn : n < UInt64.size)
    (hbound : (Decimal.numeral n).length ≤ bound) :
    Reads (number true) bound (Text.ascii (Decimal.numeral n) ++ b :: u) (.natural n)
      (b :: u) := by
  rcases Decimal.numeral_cases n with rfl | ⟨c, digits, hnumeral, hc⟩
  · refine reads_bind (a := some 0x30) rfl (reads_bind reads_peek ?_)
    change Reads (if isDigit b = true then failNext .invalidNumber else afterWhole true 0) bound
      (b :: u) _ _
    rw [h.1]
    exact reads_afterWhole h 0
  · have hdigit : ∀ d ∈ Decimal.numeral n, d.isDigit = true :=
      fun d => Decimal.isDigit_of_mem_numeral
    have hvalue : (Text.ascii (Decimal.numeral n)).foldl appendDigit 0 = n := by
      rw [foldl_appendDigit hdigit]
      exact Decimal.value_numeral n
    rw [hnumeral] at hdigit hbound hvalue ⊢
    have hfirst : appendDigit 0 (UInt8.ofNat c.toNat) = digitValue (UInt8.ofNat c.toNat) :=
      Nat.zero_add _
    replace hvalue :
        (Text.ascii digits).foldl appendDigit (digitValue (UInt8.ofNat c.toNat)) = n := by
      rw [← hfirst]
      exact hvalue
    have hzero : UInt8.ofNat c.toNat ≠ 0x30 :=
      Text.ofNat_ne (Text.IsAscii.of_isDigit hdigit c List.mem_cons_self)
        (by decide : '0'.toNat < 0x80) hc
    refine reads_bind (a := some (UInt8.ofNat c.toNat)) rfl ?_
    dsimp only
    rw [if_neg hzero, if_pos (isDigit_ofNat (hdigit c List.mem_cons_self))]
    refine reads_bind (t := b :: u) (a := (n, false)) ?_ (reads_afterWhole h n)
    refine reads_loop appendDigit (s := Text.ascii digits) ?_ ?_ ?_
    · rw [Text.ascii, List.length_map]
      exact Nat.le_of_succ_le hbound
    · intro before d later hcontent
      have hd : isDigit d = true := by
        refine isDigit_of_mem_ascii (fun e he => hdigit e (List.mem_cons_of_mem c he)) ?_
        rw [hcontent]
        exact List.mem_append_cons_self
      rw [hcontent] at hvalue
      have hle := not_lt_of_foldl_appendDigit hvalue hn
      refine reads_bind reads_peek ?_
      dsimp only [List.head?_cons]
      rw [hd, if_pos rfl, if_neg hle]
      exact reads_bind reads_skip reads_pure
    · refine reads_bind reads_peek ?_
      dsimp only [List.head?_cons]
      rw [h.1, hvalue]
      exact reads_pure

theorem isSpace_of_isDigit {b : UInt8} (h : isDigit b = true) : isSpace b = false := by
  unfold isDigit at h
  unfold isSpace
  grind

theorem ne_minus_of_isDigit {b : UInt8} (h : isDigit b = true) : b ≠ 0x2d := by
  rintro rfl
  cases h
theorem reads_identifierReader {b : UInt8} (h : EndsNumber b) {n : Nat} (hn : n < UInt64.size)
    (hbound : (Decimal.numeral n).length ≤ bound) :
    Reads identifierReader bound (Text.ascii (Decimal.numeral n) ++ b :: u) n (b :: u) := by
  have hnumber := reads_number (u := u) h hn hbound
  obtain ⟨c, digits, hnumeral⟩ : ∃ c digits, Decimal.numeral n = c :: digits :=
    List.exists_cons_of_ne_nil Nat.toDigits_ne_nil
  have hc : isDigit (UInt8.ofNat c.toNat) = true :=
    isDigit_ofNat (Decimal.isDigit_of_mem_numeral (n := n)
      (by rw [hnumeral]; exact List.mem_cons_self))
  rw [hnumeral] at hnumber ⊢
  have hsigned : Reads signedNumber bound (Text.ascii (c :: digits) ++ b :: u) (.natural n)
      (b :: u) := by
    refine reads_bind reads_peek ?_
    have hminus : (Text.ascii (c :: digits) ++ b :: u).head? ≠ some 0x2d := fun heq =>
      ne_minus_of_isDigit hc (Option.some.inj heq)
    rw [if_neg hminus]
    exact hnumber
  refine reads_placed (reads_bind (reads_peekValue (isSpace_of_isDigit hc)) ?_)
  rw [if_pos (.inr hc)]
  exact reads_bind hsigned reads_pure

theorem reads_hasMember : Reads (hasMember true) bound (0x22 :: u) true (0x22 :: u) :=
  reads_bind (reads_peekToken rfl) reads_pure

theorem reads_noMember {first : Bool} :
    Reads (hasMember first) bound (0x7d :: u) false (0x7d :: u) :=
  reads_bind (reads_peekToken rfl) reads_pure

theorem reads_colon : Reads colon bound (0x3a :: u) () u :=
  reads_bind (reads_peekToken rfl) reads_skip

theorem reads_objectEnd : Reads objectEnd bound (0x7d :: u) () u :=
  reads_bind (reads_peekToken rfl) reads_skip

theorem reads_recordReader {type : String} (name : List Char) {value : Reader α} {a : α}
    {content : List UInt8} (hname : ∀ c ∈ name, IsBare c) (hbound : name.length < bound)
    (hvalue : Reads value bound content a [0x7d]) :
    Reads (recordReader type (String.ofList name) value) bound
      (0x7b :: 0x22 :: (Text.ascii name ++ 0x22 :: 0x3a :: content)) a [] := by
  obtain ⟨n, rfl⟩ := Nat.exists_eq_add_of_lt hbound
  refine reads_placed (reads_bind (reads_peekValue rfl) ?_)
  refine reads_closedBy (t := [0x7d]) (reads_bind reads_skip ?_) reads_objectEnd
  refine reads_bind (a := _) rfl ?_
  refine reads_iterate_inl (t := [0x7d]) (false, some a) ?_ ?_
  · refine reads_bind reads_hasMember ?_
    rw [if_pos rfl]
    refine reads_bind reads_skip (reads_bind (reads_string hname (Nat.le_of_lt hbound)) ?_)
    rw [if_pos rfl]
    exact reads_bind reads_colon (reads_bind hvalue reads_pure)
  · exact reads_iterate_inr (reads_bind reads_noMember reads_pure)

theorem reads_stringValue {depth : Nat} {text : List Char} (hbare : ∀ c ∈ text, IsBare c)
    (hbound : text.length ≤ bound) :
    Reads (Value.reader (depth + 1)) bound (0x22 :: (Text.ascii text ++ 0x22 :: u))
      (.string (String.ofList text)) u :=
  reads_placed (reads_bind (reads_peekValue rfl)
    (reads_bind reads_skip (reads_bind (reads_string hbare hbound) reads_pure)))

theorem reads_object (depth : Nat) {name : List Char} {v : Value} {content : List UInt8}
    (hname : ∀ c ∈ name, IsBare c) (hbound : name.length < bound)
    (hvalue : Reads (Value.reader (depth + 1)) bound content v [0x7d]) :
    Reads (Value.reader (depth + 2)) bound
      (0x7b :: 0x22 :: (Text.ascii name ++ 0x22 :: 0x3a :: content))
      (.object [(String.ofList name, v)]) [] := by
  obtain ⟨n, rfl⟩ := Nat.exists_eq_add_of_lt hbound
  refine reads_placed (reads_bind (reads_peekValue rfl) ?_)
  refine reads_closedBy (t := [0x7d]) (reads_bind reads_skip ?_) reads_objectEnd
  refine reads_bind (a := _) rfl ?_
  refine reads_iterate_inl (t := [0x7d]) (false, [(String.ofList name, v)]) ?_ ?_
  · refine reads_bind reads_hasMember ?_
    rw [if_pos rfl]
    refine reads_bind reads_skip (reads_bind (reads_string hname (Nat.le_of_lt hbound)) ?_)
    exact reads_bind reads_colon (reads_bind hvalue reads_pure)
  · exact reads_iterate_inr (reads_bind reads_noMember reads_pure)

theorem reads_whole {reader : Reader α} {a : α} (h : Reads reader bound s a []) :
    Reads (whole reader) bound s a [] :=
  reads_bind h (reads_bind (a := none) (t := []) rfl reads_pure)

theorem run_eq_ok {reader : Reader α} {a : α} (h : Reads reader s.length s a []) :
    run reader s = .ok a := by
  have hwhole : whole reader s.length s = .ok a [] := reads_whole h
  unfold run
  rw [hwhole]

end Reader

open Reader

theorem Value.parse_encodeMember {name value : String} (hname : ∀ c ∈ name.toList, IsBare c)
    (hvalue : ∀ c ∈ value.toList, IsBare c) :
    Value.parse (encodeMember name value) = .ok (.object [(name, .string value)]) := by
  have hcontent : (encodeMember name value).toUTF8.toList =
      0x7b :: 0x22 :: (Text.ascii name.toList ++ 0x22 :: 0x3a :: 0x22 ::
        (Text.ascii value.toList ++ [0x22, 0x7d])) := by
    unfold encodeMember
    rw [encodeString_of_isBare hname, encodeString_of_isBare hvalue, Text.toList_toUTF8_of_ascii]
    · simp [Text.ascii]
    · intro c hc
      have hpart : c ∈ name.toList ∨ c ∈ value.toList ∨ c = '{' ∨ c = '"' ∨ c = ':' ∨ c = '}' := by
        simp at hc
        grind
      rcases hpart with hc | hc | rfl | rfl | rfl | rfl
      · exact (hname c hc).ascii
      · exact (hvalue c hc).ascii
      · decide
      · decide
      · decide
      · decide
  have hlength : (encodeMember name value).toUTF8.toList.length =
      name.toList.length + value.toList.length + 7 := by
    rw [hcontent]
    simp [Text.ascii]
    omega
  have hname' : name.toList.length < (encodeMember name value).toUTF8.toList.length := by omega
  have hvalue' : value.toList.length ≤ (encodeMember name value).toUTF8.toList.length := by omega
  have hread := reads_object 126 hname hname' (reads_stringValue (u := [0x7d]) hvalue hvalue')
  rw [String.ofList_toList, String.ofList_toList, ← hcontent] at hread
  exact run_eq_ok hread

end ReleaseLine.Json

namespace ReleaseLine.Listing

open Json Json.Reader

theorem createdId_numeral {n : Nat} (h : n < UInt64.size) :
    createdId ("\x7b\"id\":" ++ toString n ++ "\x7d") = .ok n := by
  have hascii : Text.IsAscii (Decimal.numeral n) :=
    Text.IsAscii.of_isDigit fun c => Decimal.isDigit_of_mem_numeral
  have htext : "\x7b\"id\":" ++ toString n ++ "\x7d" =
      String.ofList (['{', '"', 'i', 'd', '"', ':'] ++ Decimal.numeral n ++ ['}']) := by
    rw [Nat.toString_eq_ofList_toDigits, String.ofList_append, String.ofList_append]
    rfl
  have hcontent : ("\x7b\"id\":" ++ toString n ++ "\x7d").toUTF8.toList =
      0x7b :: 0x22 :: (Text.ascii ['i', 'd'] ++ 0x22 :: 0x3a ::
        (Text.ascii (Decimal.numeral n) ++ [0x7d])) := by
    rw [htext, Text.toList_toUTF8_of_ascii]
    · simp [Text.ascii]
    · exact .append (.append (by decide) hascii) (by decide)
  unfold createdId
  refine run_eq_ok ?_
  rw [hcontent]
  refine reads_recordReader ['i', 'd'] ?_ ?_ (reads_identifierReader ?_ h ?_)
  · exact isBare_of_all (by decide)
  · simp only [List.length_cons, List.length_append]
    omega
  · exact ⟨rfl, by decide, rfl⟩
  · simp only [Text.ascii, List.length_cons, List.length_append, List.length_map]
    omega

end ReleaseLine.Listing
