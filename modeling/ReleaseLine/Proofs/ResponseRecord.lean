import ReleaseLine.Proofs.Credentials
import ReleaseLine.Proofs.Reception
import ReleaseLine.Proofs.Replacement

namespace ReleaseLine

section Gathering

variable {α β : Type} {name : α → String} {lines gathered : List α}

/-- Lines are rearranged: those of one name stand together, in their order, and names come in the
order in which the first line of each came. -/
structure Gathers (name : α → String) (lines gathered : List α) : Prop where
  perm : gathered.Perm lines
  order : ∀ n, gathered.filter (name · = n) = lines.filter (name · = n)
  together : ∀ front line rest, lines = front ++ line :: rest → name line ∉ front.map name →
    ∃ before after, gathered = before ++ lines.filter (name · = name line) ++ after ∧
      (∀ n, n ∈ before.map name ↔ n ∈ front.map name) ∧ name line ∉ after.map name

theorem Gathers.map {name' : β → String} {f : α → β} (hf : ∀ a, name' (f a) = name a)
    (h : Gathers name lines gathered) : Gathers name' (lines.map f) (gathered.map f) := by
  have hname : name' ∘ f = name := funext hf
  have hfilter (list : List α) (n : String) :
      (list.map f).filter (name' · = n) = (list.filter (name · = n)).map f := by
    rw [List.filter_map]
    simp only [Function.comp_def, hf]
  refine ⟨h.perm.map f, fun n => ?_, ?_⟩
  · rw [hfilter, hfilter, h.order]
  · intro front' line' rest' hlines hfirst
    obtain ⟨front, behind, rfl, rfl, hbehind⟩ := List.map_eq_append_iff.mp hlines
    obtain ⟨line, rest, rfl, rfl, rfl⟩ := List.map_eq_cons_iff.mp hbehind
    rw [List.map_map, hname, hf] at hfirst
    obtain ⟨before, after, hgathered, hbefore, hafter⟩ := h.together front line rest rfl hfirst
    refine ⟨before.map f, after.map f, ?_, fun n => ?_, ?_⟩
    · rw [hfilter, hf, hgathered, List.map_append, List.map_append]
    · rw [List.map_map, List.map_map, hname]
      exact hbefore n
    · rwa [List.map_map, hname, hf]

end Gathering

theorem nodup_eraseDups (names : List String) : names.eraseDups.Nodup := by
  induction h : names.length using Nat.strong_induction_on generalizing names with
  | _ length ih =>
      cases names with
      | nil => simp
      | cons n names =>
          rw [List.eraseDups_cons, List.nodup_cons]
          refine ⟨by simp, ih _ ?_ _ rfl⟩
          rw [← h]
          exact Nat.lt_succ_of_le (List.length_filter_le ..)

theorem exists_eraseDups {front : List String} {n : String} (hn : n ∉ front)
    (rest : List String) :
    ∃ others, (front ++ n :: rest).eraseDups = front.eraseDups ++ n :: others := by
  have hremove : (n :: rest).removeAll front = n :: rest.removeAll front := by
    simp [List.removeAll, hn]
  rw [List.eraseDups_append, hremove, List.eraseDups_cons]
  exact ⟨_, rfl⟩

namespace Http.Field

variable (fields : List Field)

theorem mem_names_flatMap {names : List String} {n : String}
    (hnames : names ⊆ fields.map (·.name)) :
    n ∈ (names.flatMap fun m => fields.filter (·.name = m)).map (·.name) ↔ n ∈ names := by
  simp only [List.mem_map, List.mem_flatMap, List.mem_filter, decide_eq_true_eq]
  constructor
  · rintro ⟨field, ⟨m, hm, -, rfl⟩, rfl⟩
    exact hm
  · intro hn
    obtain ⟨field, hfield, rfl⟩ := List.mem_map.mp (hnames hn)
    exact ⟨field, ⟨_, hn, hfield, rfl⟩, rfl⟩

theorem filter_flatMap {names : List String} (hnodup : names.Nodup) (n : String) :
    (names.flatMap fun m => fields.filter (·.name = m)).filter (·.name = n) =
      if n ∈ names then fields.filter (·.name = n) else [] := by
  induction names with
  | nil => rfl
  | cons m names ih =>
      obtain ⟨hm, hnodup⟩ := List.nodup_cons.mp hnodup
      rw [List.flatMap_cons, List.filter_append, ih hnodup]
      by_cases hmn : m = n
      · subst hmn
        simp [hm, List.filter_filter]
      · have hnone : (fields.filter (·.name = m)).filter (·.name = n) = [] := by
          refine List.filter_eq_nil_iff.mpr fun field hfield heq => hmn ?_
          exact (of_decide_eq_true (List.mem_filter.mp hfield).2).symm.trans (of_decide_eq_true heq)
        simp [hnone, Ne.symm hmn]

theorem gathers_group : Gathers name fields (group fields) := by
  have horder (n : String) :
      (group fields).filter (·.name = n) = fields.filter (·.name = n) := by
    unfold group
    rw [filter_flatMap fields (nodup_eraseDups _)]
    split
    · rfl
    · rename_i hn
      rw [List.mem_eraseDups] at hn
      exact (List.filter_eq_nil_iff.mpr fun field hfield heq =>
        hn (List.mem_map.mpr ⟨field, hfield, of_decide_eq_true heq⟩)).symm
  refine ⟨List.perm_iff_count.mpr fun field => ?_, horder, ?_⟩
  · have hcount := congrArg (List.count field) (horder field.name)
    rwa [List.count_filter (by simp), List.count_filter (by simp)] at hcount
  · intro front line rest hfields hfirst
    obtain ⟨others, hothers⟩ := exists_eraseDups hfirst (rest.map (·.name))
    have hnames : (fields.map (·.name)).eraseDups =
        (front.map (·.name)).eraseDups ++ line.name :: others := by
      rw [hfields, List.map_append, List.map_cons, hothers]
    have hnodup := nodup_eraseDups (fields.map (·.name))
    rw [hnames] at hnodup
    have hline : line.name ∉ others := (List.nodup_cons.mp (List.nodup_append.mp hnodup).2.1).1
    have hsub : ∀ n ∈ (front.map (·.name)).eraseDups ++ line.name :: others,
        n ∈ fields.map (·.name) := by
      intro n hn
      rwa [← hnames, List.mem_eraseDups] at hn
    refine ⟨(front.map (·.name)).eraseDups.flatMap fun m => fields.filter (·.name = m),
      others.flatMap fun m => fields.filter (·.name = m), ?_, fun n => ?_, fun hmem => hline ?_⟩
    · unfold group
      rw [hnames, List.flatMap_append, List.flatMap_cons, List.append_assoc]
    · rw [mem_names_flatMap fields fun m hm => hsub m (List.mem_append_left _ hm)]
      exact List.mem_eraseDups
    · rwa [mem_names_flatMap fields fun m hm =>
        hsub m (List.mem_append_right _ (List.mem_cons_of_mem _ hm))] at hmem

end Http.Field

/-- A text stands for bytes: they are read as it, and it is the same text if they are one. -/
structure Text.StandsFor (text : String) (bytes : List UInt8) : Prop where
  decodes : Utf8.Decodes bytes text.toList
  unchanged : ∀ original : String, bytes = original.toUTF8.toList → text = original

theorem Text.standsFor_decode (bytes : List UInt8) :
    StandsFor (String.ofList (Utf8.decode bytes)) bytes := by
  refine ⟨?_, ?_⟩
  · rw [String.toList_ofList]
    exact Utf8.decodes_iff.mpr rfl
  · rintro original rfl
    rw [← encode_toList, Utf8.decode_encode, String.ofList_toList]

/-- A response tells what was received. -/
structure Response.Tells (response : Response) (received : Http.Head × List UInt8) : Prop where
  status : response.status = received.1.status
  headers : ∃ lines : Headers,
    List.Forall₂ (fun field line => line.1 = field.name ∧ Text.StandsFor line.2 field.value)
      received.1.fields lines ∧
    Gathers Prod.fst lines response.headers
  body : Text.StandsFor response.body received.2

theorem Operation.tells_responseOf (received : Http.Head × List UInt8) :
    (responseOf received).Tells received := by
  refine ⟨rfl, ⟨received.1.fields.map Http.Field.decoded, ?_, ?_⟩, Text.standsFor_decode _⟩
  · rw [List.forall₂_map_right_iff, List.forall₂_same]
    exact fun field _ => ⟨rfl, Text.standsFor_decode field.value⟩
  · exact (Http.Field.gathers_group received.1.fields).map fun _ => rfl

theorem Operation.response?_of_judge {α : Type} {op : Operation α} {response : Response}
    {failure : Failure} (h : op.judge response = .error failure) :
    failure.response? = some response := by
  unfold judge at h
  split at h
  · cases h
    rfl
  · cases hbody : op.interpret response.body with
    | ok a =>
        rw [hbody] at h
        cases h
    | error cause =>
        rw [hbody] at h
        cases h
        rfl

namespace Call

/-- A call receives a full response in a session. -/
def Receives (c : PublishingClient) (call : Call) (s : Session)
    (received : Http.Head × List UInt8) : Prop :=
  (c.toClient.settled (call.operation c) s).2 = .ok received

theorem run_of_receives {c : PublishingClient} {call : Call} {s : Session}
    {received : Http.Head × List UInt8} (h : call.Receives c s received) (route : Route) :
    ((call.run c route).run s).1 =
        (call.operation c).judge (Operation.responseOf received) ∧
      ((call.run c route).run s).2.trail =
        s.trail ++ [.completed (call.operation c).url (Operation.responseOf received)] := by
  have hending : c.toClient.ending (call.operation c) s =
      .ok (Operation.responseOf received) := by
    unfold Client.ending
    rw [show (c.toClient.settled (call.operation c) s).2 = .ok received from h]
    rfl
  rw [run_eq_perform, Client.run_perform, hending, Client.run_conclude_ok]
  exact ⟨rfl, rfl⟩

/-- Whatever full response a call receives, the event and the failure, if there is one, tell what
was received, and that is what a server sent. Calls that receive different texts leave different
events. -/
theorem run_tells :
    (∀ (c : PublishingClient) (route : Route) (call : Call) (s : Session)
        (received : Http.Head × List UInt8), call.Receives c s received →
      ∃ response : Response, response.Tells received ∧
        ((call.run c route).run s).2.trail =
          s.trail ++ [.completed (call.operation c).url response] ∧
        (∀ failure, ((call.run c route).run s).1 = .error failure →
          failure.response? = some response) ∧
        ∃ hops ≤ Network.maxRedirects,
          (Session.advance s.network hops).reply.Sends received) ∧
    ∀ (c c' : PublishingClient) (route route' : Route) (call call' : Call) (s s' : Session)
        (received received' : Http.Head × List UInt8) (text text' : String),
      call.Receives c s received → call'.Receives c' s' received' →
      received.2 = text.toUTF8.toList → received'.2 = text'.toUTF8.toList → text ≠ text' →
      ((call.run c route).run s).2.trail.getLast? ≠
        ((call'.run c' route').run s').2.trail.getLast? := by
  constructor
  · intro c route call s received h
    obtain ⟨hresult, htrail⟩ := run_of_receives h route
    refine ⟨_, Operation.tells_responseOf received, htrail, fun failure hfailure => ?_,
      Client.exists_sends h⟩
    rw [hresult] at hfailure
    exact Operation.response?_of_judge hfailure
  · intro c c' route route' call call' s s' received received' text text' h h' htext htext' hne heq
    rw [(run_of_receives h route).2, (run_of_receives h' route').2, List.getLast?_concat,
      List.getLast?_concat] at heq
    obtain ⟨-, hresponse⟩ := AuditEvent.completed.inj (Option.some.inj heq)
    have hbody := congrArg Response.body hresponse
    rw [(Operation.tells_responseOf received).body.unchanged text htext,
      (Operation.tells_responseOf received').body.unchanged text' htext'] at hbody
    exact hne hbody

/-- A lookup is redirected once and then refused. Lines of one name stand apart, not all of it is
UTF-8, the text starts with a byte order mark, and another charset is declared. -/
theorem run_tells_after_redirect :
    let refusal : List UInt8 :=
      ("HTTP/1.1 500 No\r\nX-A: 1\r\n" ++
        "Content-Type: text/plain; charset=latin1\r\nx-a:\t2").toUTF8.toList
    let s (text : String) : Session :=
      { environment := { bindings := [], files := ⟨[], []⟩ }
        network := { replies :=
          [{ pieces := [(0, "HTTP/1.1 302 Found\r\nLocation: /b\r\n\r\n".toUTF8.toList)] },
            { pieces := [(0, refusal), (0, 0xff :: "\r\n\r\n".toUTF8.toList),
              (0, text.toUTF8.toList)] }] } }
    let received (text : String) : Http.Head × List UInt8 :=
      (⟨false, 500, [⟨"x-a", "1".toUTF8.toList⟩,
        ⟨"content-type", "text/plain; charset=latin1".toUTF8.toList⟩, ⟨"x-a", [0x32, 0xff]⟩]⟩,
        text.toUTF8.toList)
    Receives Happening.oneHost .latest (s "\ufeffé") (received "\ufeffé") ∧
      Receives Happening.oneHost .latest (s "é") (received "é") ∧
      (∃ response : Response, response.Tells (received "\ufeffé") ∧
        ((run Happening.oneHost .seam .latest).run (s "\ufeffé")).2.trail =
          [.completed (operation Happening.oneHost .latest).url response]) ∧
      ((run Happening.oneHost .seam .latest).run (s "\ufeffé")).2.trail.getLast? ≠
        ((run Happening.oneHost .direct .latest).run (s "é")).2.trail.getLast? := by
  intro refusal s received
  have hreceives (text : String)
      (h : (Happening.oneHost.toClient.settled (operation Happening.oneHost .latest)
        (s text)).2.toOption = some (received text)) :
      Receives Happening.oneHost .latest (s text) (received text) := by
    unfold Receives
    cases hsettled : (Happening.oneHost.toClient.settled (operation Happening.oneHost .latest)
        (s text)).2 with
    | error interruption =>
        rw [hsettled] at h
        cases h
    | ok given =>
        rw [hsettled] at h
        exact congrArg Except.ok (Option.some.inj h)
  have hmarked := hreceives "\ufeffé" (by decide +kernel)
  have hplain := hreceives "é" (by decide +kernel)
  obtain ⟨response, htells, htrail, -⟩ := run_tells.1 _ .seam .latest _ _ hmarked
  exact ⟨hmarked, hplain, ⟨response, htells, htrail⟩,
    run_tells.2 _ _ .seam .direct .latest .latest _ _ _ _ _ _ hmarked hplain rfl rfl
      (by decide)⟩

end Call

end ReleaseLine
