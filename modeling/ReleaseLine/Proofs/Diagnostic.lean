import Mathlib.Data.List.DropRight
import ReleaseLine.Failure

namespace ReleaseLine

namespace Text

/-- A text without the white space at the end of another, of which nothing else is missing. -/
structure IsTrimmed (text trimmed : String) : Prop where
  rest : ∃ blanks, text = trimmed ++ blanks ∧ ∀ c ∈ blanks.toList, isBlank c = true
  last : ∀ c ∈ trimmed.toList.getLast?, isBlank c = false

theorem isTrimmed_trimEnd (text : String) :
    IsTrimmed text (String.ofList (trimEnd text.toList)) := by
  constructor
  · refine ⟨String.ofList (text.toList.rtakeWhile isBlank), ?_, ?_⟩
    · have hsplit : trimEnd text.toList ++ text.toList.rtakeWhile isBlank = text.toList :=
        List.rdropWhile_append_rtakeWhile
      rw [← String.ofList_append, hsplit, String.ofList_toList]
    · intro c hc
      rw [String.toList_ofList] at hc
      exact List.mem_rtakeWhile_imp hc
  · intro c hc
    rw [String.toList_ofList] at hc
    obtain ⟨hne, rfl⟩ := List.mem_getLast?_eq_getLast hc
    exact Bool.eq_false_iff.mpr (List.rdropWhile_last_not isBlank text.toList hne)

theorem trimEnd_append (front back : List Char) :
    trimEnd (front ++ back) =
      if trimEnd back = [] then trimEnd front else front ++ trimEnd back := by
  unfold trimEnd
  rw [List.reverse_append, List.dropWhile_append]
  by_cases h : back.reverse.dropWhile isBlank = []
  · simp [h]
  · simp [h]

theorem trimEnd_line (line : List Char) :
    trimEnd ('\n' :: (line ++ ['\n'])) =
      if trimEnd line = [] then [] else '\n' :: trimEnd line := by
  have hbreak : trimEnd ['\n'] = [] := by decide
  have hline : trimEnd (line ++ ['\n']) = trimEnd line := by
    rw [trimEnd_append, if_pos hbreak]
  have hsplit := trimEnd_append ['\n'] (line ++ ['\n'])
  rw [hline, hbreak] at hsplit
  exact hsplit

end Text

namespace Source

/-- Texts tell an error and everything behind it in turn, or nothing where there is no error. -/
inductive Leads : Option Source → List String → Prop
  | ends : Leads none []
  | behind (source : Source) {texts : List String} (h : Leads source.next? texts) :
      Leads (some source) (source.message :: texts)

theorem Leads.unique {source : Option Source} {texts texts' : List String}
    (h : Leads source texts) (h' : Leads source texts') : texts = texts' := by
  induction h generalizing texts' with
  | ends =>
      cases h'
      rfl
  | behind source _ ih =>
      cases h' with
      | behind _ h' => rw [ih h']

theorem leads_ofTexts? (texts : List String) : Leads (ofTexts? texts) texts := by
  induction texts with
  | nil => exact .ends
  | cons text behind ih => exact .behind (.foreign text behind) ih

theorem leads_next?_cause (cause : Cause) : Leads (Source.cause cause).next? cause.sources := by
  cases cause with
  | transport fault => exact leads_ofTexts? fault.sources
  | deadline => exact .ends
  | json error => exact .ends
  | artifact path fault => exact .behind (.file fault) (leads_ofTexts? fault.sources)
  | tag error => exact .behind (.version error) .ends
  | noReleases => exact .ends

end Source

namespace Failure

open Source

/-- The texts tell everything behind a failure, from its cause on. -/
theorem leads_source?_iff {failure : Failure} {cause : Cause} (h : failure.cause? = some cause)
    {texts : List String} :
    Leads failure.source? texts ↔ texts = cause.message :: cause.sources := by
  have hleads : Leads failure.source? (cause.message :: cause.sources) := by
    unfold source?
    rw [h]
    exact .behind (.cause cause) (leads_next?_cause cause)
  constructor
  · exact fun htexts => htexts.unique hleads
  · rintro rfl
    exact hleads

theorem leads_chain (failure : Failure) : Leads failure.source? failure.chain := by
  cases hcause : failure.cause? with
  | none =>
      unfold source? chain
      rw [hcause]
      exact .ends
  | some cause =>
      rw [leads_source?_iff hcause]
      unfold chain
      rw [hcause]
      rfl

def causeLines (causes : List String) : String :=
  String.join (causes.map fun text => "caused by: " ++ text ++ "\n")

def headerLines (headers : Headers) : String :=
  String.join (headers.map fun header => "\t" ++ header.1 ++ ": " ++ header.2 ++ "\n")

/-- A body as it ends a diagnostic, on lines of its own. A blank one has no line. -/
def bodyLines (body : String) : String :=
  if Text.trimEnd body.toList = [] then ""
  else "\n" ++ String.ofList (Text.trimEnd body.toList)

/-- A response as it ends a diagnostic. -/
def responseLines (response : Response) : String :=
  "response headers:\n" ++ headerLines response.headers ++ "response body:" ++
    bodyLines response.body

theorem format_of_response {failure : Failure} {response : Response}
    (h : failure.response? = some response) :
    failure.format =
      failure.summary ++ "\n" ++ causeLines failure.furtherCauses ++ responseLines response := by
  obtain ⟨front, hfront⟩ : ∃ front,
      failure.summary ++ "\n" ++ causeLines failure.furtherCauses ++ "response headers:\n" ++
        headerLines response.headers = front := ⟨_, rfl⟩
  have huntrimmed : failure.untrimmed.toList =
      (front.toList ++ "response body".toList ++ [':']) ++
        '\n' :: (response.body.toList ++ ['\n']) := by
    have hheaders : String.join (response.headers.map headerLine) = headerLines response.headers :=
      rfl
    unfold untrimmed responseSection
    rw [h, ← hfront, ← hheaders]
    simp [causeLines]
  have hmark : Text.trimEnd (front.toList ++ "response body".toList ++ [':']) =
      front.toList ++ "response body".toList ++ [':'] :=
    List.rdropWhile_concat_neg Text.isBlank _ ':' (by decide)
  apply String.toList_injective
  unfold format
  rw [huntrimmed, Text.trimEnd_append, Text.trimEnd_line, hmark, String.toList_ofList]
  unfold responseLines bodyLines
  by_cases hbody : Text.trimEnd response.body.toList = []
  · simp [hbody, ← hfront]
  · simp [hbody, ← hfront]

/-- A diagnostic lacks nothing but white space at its end: it tells the response in full, the body
without the white space at its end, and as causes all that lies behind the failure. -/
theorem format_lacks_blanks_only :
    (∀ failure : Failure, Text.IsTrimmed failure.untrimmed failure.format) ∧
    (∀ url expected response,
      (unexpectedStatus url expected response).format =
        "Expected request to " ++ url.render ++ " to respond with status code " ++
          toString expected ++ " but got " ++ toString response.status ++ "\n" ++
          responseLines response) ∧
    (∀ url response cause, ∃ causes,
      (∀ texts, Leads (unusableBody url response cause).source? texts ↔
        texts = cause.message :: causes) ∧
      (unusableBody url response cause).format =
        "Request to " ++ url.render ++ " responded with status code " ++
          toString response.status ++ " which could not be handled: " ++ cause.message ++ "\n" ++
          causeLines causes ++ responseLines response) ∧
    ∀ url cause, ∃ causes,
      (∀ texts, Leads (notSubmitted url cause).source? texts ↔
        texts = cause.message :: causes) ∧
      (notSubmitted url cause).untrimmed =
        "Failed submitting request to " ++ url.render ++ ": " ++ cause.message ++ "\n" ++
          causeLines causes := by
  refine ⟨?_, ?_, ?_, ?_⟩
  · exact fun failure => Text.isTrimmed_trimEnd failure.untrimmed
  · intro url expected response
    have hnone : causeLines (unexpectedStatus url expected response).furtherCauses = "" := rfl
    rw [format_of_response rfl, hnone, String.append_empty]
    rfl
  · intro url response cause
    refine ⟨cause.sources, fun texts => leads_source?_iff rfl, ?_⟩
    rw [format_of_response rfl]
    rfl
  · intro url cause
    refine ⟨cause.sources, fun texts => leads_source?_iff rfl, ?_⟩
    exact String.append_empty

end Failure

end ReleaseLine
