import Mathlib.Data.List.Forall2
import Mathlib.Data.List.TakeWhile
import ReleaseLine.Proofs.Exchange

namespace ReleaseLine.Http

/-- Bytes that are a line and its end. -/
def IsLine (line bytes : List UInt8) : Prop :=
  (0x0a ∉ line) ∧
    (bytes = line ++ [0x0d, 0x0a] ∨ bytes = line ++ [0x0a] ∧ line.getLast? ≠ some 0x0d)

/-- Bytes that are lines one after the other, and then an empty one. -/
inductive HasLines : List (List UInt8) → List UInt8 → Prop
  | last {bytes} : IsLine [] bytes → HasLines [] bytes
  | cons {line lines bytes later} : line ≠ [] → IsLine line bytes → HasLines lines later →
      HasLines (line :: lines) (bytes ++ later)

theorem isLine_finishLine {line : List UInt8} (h : 0x0a ∉ line) :
    IsLine (finishLine line) (line.reverse ++ [0x0a]) := by
  unfold finishLine
  split
  · rename_i line
    refine ⟨fun hmem => h (List.mem_cons_of_mem _ (List.mem_reverse.mp hmem)), .inl ?_⟩
    simp
  · rename_i hreturn
    refine ⟨fun hmem => h (List.mem_reverse.mp hmem), .inr ⟨rfl, ?_⟩⟩
    rw [List.getLast?_reverse]
    intro hhead
    cases line with
    | nil => cases hhead
    | cons b line =>
        cases hhead
        exact hreturn line rfl

theorem of_linesFrom {line : List UInt8} {lines : List (List UInt8)} {bytes rest : List UInt8}
    {all : List (List UInt8)} (h : linesFrom line lines bytes = some (all, rest))
    (hline : 0x0a ∉ line) :
    ∃ (empty : List (List UInt8)) (more : List (List UInt8)) (text : List UInt8),
      (∀ bytes ∈ empty, IsLine [] bytes) ∧ (lines ≠ [] → empty = []) ∧ HasLines more text ∧
        line.reverse ++ bytes = empty.flatten ++ text ++ rest ∧ all = lines.reverse ++ more := by
  fun_induction linesFrom line lines bytes with
  | case1 => cases h
  | case2 line rest' hempty ih =>
      obtain ⟨empty, more, text, hlines, -, htext, hbytes, hall⟩ := ih h List.not_mem_nil
      have hfirst := isLine_finishLine hline
      rw [hempty] at hfirst
      refine ⟨(line.reverse ++ [0x0a]) :: empty, more, text, ?_, by simp, htext, ?_, hall⟩
      · simpa [hfirst] using hlines
      · simpa using hbytes
  | case3 line lines rest' hempty hlines =>
      cases h
      have hlast := isLine_finishLine hline
      rw [hempty] at hlast
      exact ⟨[], [], _, by simp, fun _ => rfl, .last hlast, by simp, by simp⟩
  | case4 line lines rest' hfull _ ih =>
      obtain ⟨empty, more, text, -, hempty, htext, hbytes, hall⟩ := ih h List.not_mem_nil
      obtain rfl := hempty (by simp)
      refine ⟨[], finishLine line :: more, _, by simp, fun _ => rfl,
        .cons hfull (isLine_finishLine hline) htext, ?_, ?_⟩
      · simpa using hbytes
      · simpa using hall
  | case5 line lines b rest' hb ih =>
      obtain ⟨empty, more, text, hlines, hempty, htext, hbytes, hall⟩ :=
        ih h (by simpa [eq_comm, hb] using hline)
      exact ⟨empty, more, text, hlines, hempty, htext, by simpa using hbytes, hall⟩

/-- A header line as it is kept: the name in lower case, the value without blanks around it. -/
def Field.IsSent (field : Field) (line : List UInt8) : Prop :=
  ∃ name before after, line = name ++ 0x3a :: (before ++ field.value ++ after) ∧ name ≠ [] ∧
    (∀ b ∈ name, isNameByte b = true) ∧ field.name = String.ofList (name.map lower) ∧
    (∀ b ∈ before ++ after, isBlank b = true) ∧
    ∀ b, b ∈ field.value.head? ∨ b ∈ field.value.getLast? → isBlank b = false

theorem not_isBlank_of_head?_dropWhile {bytes : List UInt8} {b : UInt8}
    (h : (bytes.dropWhile isBlank).head? = some b) : isBlank b = false := by
  have hhead := List.head?_dropWhile_not isBlank bytes
  rwa [h] at hhead

theorem exists_trim (bytes : List UInt8) :
    ∃ before after, bytes = before ++ trim bytes ++ after ∧
      (∀ b ∈ before ++ after, isBlank b = true) ∧
      ∀ b, b ∈ (trim bytes).head? ∨ b ∈ (trim bytes).getLast? → isBlank b = false := by
  have hrest : bytes.dropWhile isBlank =
      trim bytes ++ ((bytes.dropWhile isBlank).reverse.takeWhile isBlank).reverse := by
    rw [trim, ← List.reverse_append, List.takeWhile_append_dropWhile, List.reverse_reverse]
  refine ⟨bytes.takeWhile isBlank, ((bytes.dropWhile isBlank).reverse.takeWhile isBlank).reverse,
    ?_, ?_, ?_⟩
  · rw [List.append_assoc, ← hrest, List.takeWhile_append_dropWhile]
  · intro b hb
    rcases List.mem_append.mp hb with hb | hb
    · exact List.mem_takeWhile_imp hb
    · exact List.mem_takeWhile_imp (List.mem_reverse.mp hb)
  · rintro b (hb | hb)
    · have hhead : (bytes.dropWhile isBlank).head? = some b := by
        rw [hrest, List.head?_append, Option.mem_def.mp hb]
        rfl
      exact not_isBlank_of_head?_dropWhile hhead
    · rw [trim, List.getLast?_reverse] at hb
      exact not_isBlank_of_head?_dropWhile hb

theorem isSent_of_field? {line : List UInt8} {field : Field} (h : field? line = some field) :
    field.IsSent line := by
  unfold field? at h
  dsimp only at h
  split at h
  · rename_i value hdrop
    split at h
    · cases h
    · rename_i hname
      cases h
      obtain ⟨before, after, hvalue, hblank, hends⟩ := exists_trim value
      have hline : line = line.takeWhile isNameByte ++ 0x3a :: value := by
        rw [← hdrop]
        exact (List.prefix_iff_eq_append.mp (List.takeWhile_prefix isNameByte)).symm
      refine ⟨line.takeWhile isNameByte, before, after, ?_, ?_, ?_, rfl, hblank, hends⟩
      · rwa [← hvalue]
      · rintro hempty
        simp [hempty] at hname
      · intro b hb
        exact List.mem_takeWhile_imp hb
  · cases h

/-- Bytes that are a status line and header lines, with what ends them. -/
def Head.IsSent (head : Head) (bytes : List UInt8) : Prop :=
  ∃ (empty lines : List (List UInt8)) (first text : List UInt8),
    bytes = empty.flatten ++ text ∧ (∀ bytes ∈ empty, IsLine [] bytes) ∧
    HasLines (first :: lines) text ∧ statusLine? first = some (head.old, head.status) ∧
    List.Forall₂ Field.IsSent head.fields lines

theorem forall₂_of_mapM {lines : List (List UInt8)} {fields : List Field}
    (h : lines.mapM field? = some fields) : List.Forall₂ Field.IsSent fields lines := by
  induction lines generalizing fields with
  | nil =>
      cases h
      exact .nil
  | cons line lines ih =>
      rw [List.mapM_cons] at h
      obtain ⟨field, hfield, h⟩ := Option.bind_eq_some_iff.mp h
      obtain ⟨others, hothers, h⟩ := Option.bind_eq_some_iff.mp h
      cases h
      exact .cons (isSent_of_field? hfield) (ih hothers)

theorem isSent_of_head? {empty lines : List (List UInt8)} {text : List UInt8} {head : Head}
    (hempty : ∀ bytes ∈ empty, IsLine [] bytes) (htext : HasLines lines text)
    (h : head? lines = some head) : head.IsSent (empty.flatten ++ text) := by
  cases lines with
  | nil => cases h
  | cons first lines =>
      unfold head? at h
      obtain ⟨⟨old, status⟩, hstatus, h⟩ := Option.bind_eq_some_iff.mp h
      obtain ⟨fields, hfields, h⟩ := Option.bind_eq_some_iff.mp h
      split at h
      · cases h
      · cases h
        exact ⟨empty, lines, first, text, rfl, hempty, htext, hstatus, forall₂_of_mapM hfields⟩

/-- Bytes that end with the head of a final response; those of others may come before it. -/
inductive Head.EndsIn (head : Head) : List UInt8 → Prop
  | final {bytes} : head.IsSent bytes → head.isInterim = false → EndsIn head bytes
  | interim {other : Head} {bytes later} : other.IsSent bytes → other.isInterim = true →
      EndsIn head later → EndsIn head (bytes ++ later)

theorem endsIn_of_readHeads {fuel : Nat} {bytes rest : List UInt8} {head : Head}
    (h : readHeads fuel bytes = .done head rest) :
    ∃ text, bytes = text ++ rest ∧ head.EndsIn text := by
  induction fuel generalizing bytes with
  | zero => cases h
  | succ fuel ih =>
      unfold readHeads at h
      split at h
      · split at h <;> cases h
      · rename_i lines later hlines
        obtain ⟨empty, more, text, hempty, -, htext, hbytes, hall⟩ :=
          of_linesFrom hlines List.not_mem_nil
        rw [List.reverse_nil, List.nil_append] at hbytes hall
        subst hall
        split at h
        · cases h
        · rename_i read hread
          have hsent := isSent_of_head? hempty htext hread
          split at h
          · cases h
          · split at h
            · rename_i hinterim
              obtain ⟨last, rfl, hends⟩ := ih h
              refine ⟨_, ?_, .interim hsent hinterim hends⟩
              rw [hbytes, List.append_assoc (empty.flatten ++ text)]
            · rename_i hfinal
              cases h
              exact ⟨_, hbytes, .final hsent (by simpa using hfinal)⟩

end ReleaseLine.Http

namespace ReleaseLine

theorem Stream.exists_of_readFrom {α : Type} {read : List UInt8 → Bool → Http.Reading α}
    {closes : Bool} {start moment : Nat} {bytes : List UInt8} {pieces : List (Nat × List UInt8)}
    {a : α} {rest : Stream}
    (h : readFrom read closes start bytes pieces = .arrives moment (.ok (a, rest))) :
    ∃ taken closed, pieces = taken ++ rest.later ∧ rest.closes = closes ∧
      read (bytes ++ taken.flatMap (·.2)) closed = .done a rest.bytes ∧
      (closed = true → closes = true ∧ rest.later = []) := by
  induction pieces generalizing start bytes with
  | nil =>
      unfold readFrom at h
      split at h
      · rename_i value later hread
        cases h
        exact ⟨[], closes, rfl, rfl, by simpa using hread, fun hclosed => ⟨hclosed, rfl⟩⟩
      · cases h
      · split at h <;> cases h
  | cons piece pieces ih =>
      unfold readFrom at h
      split at h
      · rename_i value later hread
        cases h
        exact ⟨[], false, rfl, rfl, by simpa using hread, by simp⟩
      · cases h
      · obtain ⟨taken, closed, hpieces, hcloses, hread, hclosed⟩ := ih h
        refine ⟨piece :: taken, closed, by rw [hpieces]; rfl, hcloses, ?_, hclosed⟩
        rwa [List.flatMap_cons, ← List.append_assoc]

/-- What a server sends is a response, and maybe more: the head, then a body of the framing that the
head announces, which only the end of everything can end if there is no other sign. -/
def Reply.Sends (reply : Reply) (received : Http.Head × List UInt8) : Prop :=
  ∃ taken later text after framing closed left,
    reply.pieces = taken ++ later ∧ taken.flatMap (·.2) = text ++ after ∧
      received.1.EndsIn text ∧ received.1.framing? = some framing ∧
      framing.read after closed = .done received.2 left ∧
      (closed = true → reply.closes = true ∧ later = [])

theorem Reply.sends_of_read {reply : Reply} {start moment later : Nat} {head : Http.Head}
    {framing : Http.Framing} {body : List UInt8} {rest last : Stream}
    (hhead : (⟨start, [], reply.pieces, reply.closes⟩ : Stream).read Network.readHead =
      .arrives moment (.ok ((head, framing), rest)))
    (hbody : rest.read framing.read = .arrives later (.ok (body, last))) :
    reply.Sends (head, body) := by
  obtain ⟨taken, closed, hpieces, hcloses, hread, -⟩ := Stream.exists_of_readFrom hhead
  obtain ⟨taken', closed', hpieces', -, hread', hclosed'⟩ := Stream.exists_of_readFrom hbody
  unfold Network.readHead at hread
  split at hread
  · cases hread
  · cases hread
  · rename_i head' rest' hhead'
    split at hread
    · cases hread
    · rename_i framing' hframing
      cases hread
      obtain ⟨text, htext, hends⟩ := Http.endsIn_of_readHeads hhead'
      rw [List.nil_append] at htext
      refine ⟨taken ++ taken', last.later, text, rest.bytes ++ taken'.flatMap (·.2), framing,
        closed', last.bytes, ?_, ?_, hends, hframing, hread', ?_⟩
      · rw [List.append_assoc, ← hpieces']
        exact hpieces
      · rw [List.flatMap_append, htext, List.append_assoc]
      · intro hlast
        obtain ⟨hrest, hlater⟩ := hclosed' hlast
        exact ⟨hcloses.symm.trans hrest, hlater⟩

namespace Course

theorem exists_of_settle {c : Course} {handedOver : Pending Unit} {headLimit endToEnd : Duration}
    {received : Http.Head × List UInt8}
    (h : (c.settle handedOver headLimit endToEnd).2 = .ok received) :
    ∃ moment later, c.head = .arrives moment (.ok received.1) ∧
      c.body = .arrives later (.ok received.2) := by
  have hmap {moment : Nat} {head : Http.Head} (hm : c.head.map (·.mapError Interruption.fault) =
      .arrives moment (.ok head)) : c.head = .arrives moment (.ok head) := by
    obtain ⟨given, hgiven, hvalue⟩ := Pending.map_eq_arrives_iff.mp hm
    cases given with
    | error cause => cases hvalue
    | ok head =>
        cases hvalue
        exact hgiven
  obtain ⟨m, result, hguarded, hnext⟩ :=
    Pending.andThen_eq_arrives_iff.mp (Pending.arrives_of_limit h (by simp))
  cases result with
  | error interruption => cases (Pending.arrives.inj hnext).2
  | ok head =>
      obtain ⟨body, hbody, hvalue⟩ := Pending.map_eq_arrives_iff.mp hnext
      cases body with
      | error cause => cases hvalue
      | ok body =>
          cases hvalue
          obtain ⟨m', first, hrace, hfirst⟩ := Pending.andThen_eq_arrives_iff.mp hguarded
          cases first with
          | inl result =>
              obtain ⟨-, rfl⟩ := Pending.arrives.inj hfirst
              exact ⟨_, _, hmap (Pending.of_race_inl hrace), hbody⟩
          | inr _ =>
              have hlimit := (Pending.arrives.inj hfirst).2
              exact ⟨_, _, hmap (Pending.arrives_of_limit hlimit (by simp)), hbody⟩

end Course

theorem Network.exists_sends {trusted : List Anchor} {limit : Duration} {left : Nat} {n : Network}
    {start moment later : Nat} {r : Http.Request} {head : Http.Head} {body : List UInt8}
    (hhead : (course trusted limit left n start r).head = .arrives moment (.ok head))
    (hbody : (course trusted limit left n start r).body = .arrives later (.ok body)) :
    ∃ hops ≤ left, (Session.advance n hops).reply.Sends (head, body) := by
  fun_induction course trusted limit left n start r with
  | case1 left n start r moment fault hreach => cases hhead
  | case2 left n start r connected hreach => cases hhead
  | case3 left n start r connected hreach reply arrival receipt stream ends fails moment fault
      hread => cases hhead
  | case4 left n start r connected hreach reply arrival receipt stream ends moment head framing
      rest hread hnext =>
      cases hhead
      obtain ⟨given, hgiven, hvalue⟩ := Pending.map_eq_arrives_iff.mp hbody
      cases given with
      | error fault => cases hvalue
      | ok given =>
          obtain ⟨body, last⟩ := given
          cases hvalue
          exact ⟨0, Nat.zero_le _, Reply.sends_of_read hread hgiven⟩
  | case5 n start r connected hreach reply arrival receipt stream ends fails moment head framing
      rest hread again hnext => cases hhead
  | case6 n start r connected hreach reply arrival receipt stream moment head framing rest hread
      again left hnext later ih =>
      obtain ⟨hops, hle, hsends⟩ := ih hhead hbody
      exact ⟨hops + 1, Nat.succ_le_succ hle, hsends⟩

/-- What an exchange receives was sent, after no more redirects than are followed. -/
theorem Client.exists_sends {α : Type} {c : Client} {op : Operation α} {s : Session}
    {received : Http.Head × List UInt8} (h : (c.settled op s).2 = .ok received) :
    ∃ hops ≤ Network.maxRedirects, (Session.advance s.network hops).reply.Sends received := by
  obtain ⟨moment, later, hhead, hbody⟩ := Course.exists_of_settle h
  rcases c.course_cases op s with
    ⟨start, cause, hcourse⟩ | ⟨start, body, request, -, -, hcourse⟩
  · rw [hcourse] at hhead
    cases hhead
  · rw [hcourse] at hhead hbody
    exact Network.exists_sends hhead hbody

end ReleaseLine
