import OData.Proofs.Client.Outcome
import OData.Proofs.Json.Nesting

/-!
# What a reported error says

A request that is authorized meets a response with the status of an error. What the response says
about the error is `Response.Explained`, and when it says anything is `Response.Explicable`.

* **When there is a report** (`get_reports_iff`): exactly if the response says something, however
  its body is read. Otherwise the cause that kept it from being read comes back, and that is no
  failure of the protocol.
* **What a report holds** (`Response.Report`, also in `get_reports_iff`): the status, the address
  and the headers, in full the one thing that the response says, which the layout of the error does
  not change, and in its wording the first 1200 characters of that.
* **A body that is not reported** (`get_gives_up_on_brackets`): one that opens too many brackets,
  although its text could be quoted.
-/

namespace OData

/-- A response whose document is seen to be an object with these members has that object. -/
theorem Response.document_of_sameMembers {r : Response} {members : Members}
    (h : (match r.document with
      | .ok (.object found) => Value.sameMembers found members
      | _ => false) = true) : r.document = .ok (.object members) := by
  split at h
  · rename_i found hfound
    rw [hfound, Value.eq_of_sameMembers h]
  · cases h

/-- Whether an error is the report of a response that says this, to a request for this address. -/
structure Response.Report (r : Response) (address said : String) (e : ErrorAnswer) : Prop where
  /-- The status of the response. -/
  status : e.status = .int r.status
  /-- The address that was asked. -/
  url : e.url = .text address
  /-- The headers of the response. -/
  headers : e.headers = .object (r.headers.distinct.map fun h => (h.1, .text h.2))
  /-- What the response says, in full. -/
  body : e.body = .text said
  /-- It says nothing else. -/
  explained : ∀ s, r.Explained s ↔ s = said
  /-- A response with the same error in the other layout says the same. -/
  layout : ∀ other, r.SameError other → ∀ s, other.Explained s ↔ s = said
  /-- The wording quotes the first characters of it. -/
  message : e.message =
    "OData upstream error " ++ toString r.status ++ " for " ++ address ++ ": " ++
      Text.take 1200 said

/-- What a response says makes up its report. -/
theorem Response.report_errorAnswer {r : Response} {s : String} (h : r.explanation = .ok s)
    (url : String) : r.Report url s (r.errorAnswer url s) := by
  have hexplained (t : String) : r.Explained t ↔ t = s := by
    rw [explained_iff, h, Except.ok.injEq, eq_comm]
  constructor
  case status => rfl
  case url => rfl
  case headers => rfl
  case body => rfl
  case explained => exact hexplained
  case layout =>
    intro other hsame t
    rw [explained_iff, hsame.explanation_eq, ← explained_iff, hexplained]
  case message => rfl

namespace Client

/-- A request that is authorized ends as the answer for data says. -/
theorem get_of_authorized (c : Client) (endpoint : String) (params : Value)
    (additions : Option Members) {net : Network} {authorization : String} {a : Answer}
    (hauthorized : (c.authenticator.authorize net).1 = .ok authorization)
    (hanswer : net.dataAnswers.head? = some a) :
    (c.get (.text endpoint) params (additions.elim .null .object) net).1 =
      a.outcome (c.resolve endpoint) := by
  obtain ⟨headers, hheaders⟩ := c.exists_headers additions
  rw [get, hheaders, address]
  dsimp only
  rw [exchange_of_authorized hauthorized, List.headD_eq_head?_getD, hanswer, Option.getD_some]

/-- **A response with the status of an error is reported exactly if it says something.** A client
requests an endpoint, with whatever parameters and additional headers. If the request is authorized
and the response has the status of an error, then either the response says something about the
error, and what comes back is its report, or its body could not be read, and what kept it from
being read comes back. -/
theorem get_reports_iff (c : Client) (endpoint : String) (params : Value)
    (additions : Option Members) {net : Network} {authorization : String} {r : Response}
    (hauthorized : (c.authenticator.authorize net).1 = .ok authorization)
    (hanswer : net.dataAnswers.head? = some (.response r)) (hstatus : 400 ≤ r.status) :
    let url := c.resolve endpoint
    let result := (c.get (.text endpoint) params (additions.elim .null .object) net).1
    ((∃ e, result = .error (.reported e)) ↔ r.Explicable) ∧
      (∀ e, result = .error (.reported e) → ∃ said, r.Report url said e) ∧
      (¬ r.Explicable → ∃ cause, result = .error (.argument cause)) := by
  intro url result
  have hresult : result = r.outcome url :=
    get_of_authorized c endpoint params additions hauthorized hanswer
  rw [hresult, Response.outcome, if_pos hstatus, ← Response.exists_explained_iff]
  simp only [Response.explained_iff]
  cases hbody : r.explanation with
  | ok s =>
    refine ⟨iff_of_true ⟨_, rfl⟩ ⟨s, rfl⟩, ?_, fun h => absurd ⟨s, rfl⟩ h⟩
    rintro _ ⟨⟩
    exact ⟨s, Response.report_errorAnswer hbody url⟩
  | error cause =>
    refine ⟨?_, ?_, fun _ => ⟨cause, rfl⟩⟩
    · simp
    · intro e h
      cases h

/-- Two services answer in their layouts that something is gone, and the report of the newer one has
the two parts that both describe. -/
theorem get_reports_gone :
    let cfg : Config := {
      baseUrl := .text "https://api.example.com/odata"
      apiKey := .text "key-123"
      kind := .text "bearer"
      credential := .text "t1" }
    let newer := Response.utf8 410 (Encoding.Utf8.encode
      "\x7b\x22error\x22: \x7b\x22message\x22: \x22gone\x22, \x22target\x22: 7\x7d\x7d") []
    let older := Response.utf8 410 (Encoding.Utf8.encode
      ("\x7b\x22error\x22: \x7b\x22message\x22: \x7b\x22value\x22: \x22gone\x22\x7d, " ++
        "\x22target\x22: 7\x7d\x7d")) []
    let start := Network.ofAnswers [.response newer] []
    let opened : Network := { start with opened := 1 }
    newer.SameError older ∧ ∃ c e, cfg.client start = .ok (c, opened) ∧
      (c.get (.text "Property") .null .null opened).1 = .error (.reported e) ∧
      e.body = .text "message=gone | target=7" := by
  intro cfg newer older start opened
  have hnewer : newer.document = .ok (.object [("error",
      .object [("message", .text "gone"), ("target", .int 7)])]) :=
    Response.document_of_sameMembers (by decide +kernel)
  have holder : older.document = .ok (.object [("error",
      .object [("message", .object [("value", .text "gone")]), ("target", .int 7)])]) :=
    Response.document_of_sameMembers (by decide +kernel)
  refine ⟨⟨_, _, _, "gone", ⟨_, hnewer, rfl⟩, ⟨_, holder, rfl⟩, by decide, rfl, rfl, rfl, rfl, rfl⟩,
    ?_⟩
  obtain ⟨c, hclient, hauthorized⟩ : ∃ c, cfg.client start = .ok (c, opened) ∧
      (c.authenticator.authorize opened).1 = .ok "Bearer t1" := ⟨_, rfl, rfl⟩
  obtain ⟨hreported, hreport, -⟩ :=
    get_reports_iff c "Property" .null none hauthorized rfl (by decide : 400 ≤ newer.status)
  have hread : newer.Legible := by
    refine Response.legible_utf8_iff.2 ?_
    show newer.document ≠ _
    rw [hnewer]
    exact fun h => nomatch h
  obtain ⟨e, he⟩ := hreported.2 hread.explicable
  obtain ⟨said, hsaid⟩ := hreport e he
  refine ⟨c, e, hclient, he, hsaid.body.trans (congrArg Value.text ?_)⟩
  have hdescribes : Members.Describes [("message", .text "gone"), ("target", .int 7)]
      none (some "gone") (some "7") := {
    code := .absent fun _ hcode => nomatch hcode
    message := .text rfl (by decide)
    target := .present rfl rfl rfl }
  exact ((hsaid.explained _).1 (.described ⟨_, hnewer, rfl⟩ hdescribes (by decide))).symm

/-- **A body of too many brackets is not reported.** The service answers 500 with fifty thousand
brackets that open and as many that close. Its text could be quoted, but the request fails as if an
argument had been refused. -/
theorem get_gives_up_on_brackets :
    let cfg : Config := {
      baseUrl := .text "https://api.example.com/odata"
      apiKey := .text "key-123"
      kind := .text "bearer"
      credential := .text "tok" }
    let nested := Response.utf8 500 (List.replicate 50000 0x5B ++ List.replicate 50000 0x5D) []
    let start := Network.ofAnswers [.response nested] []
    let opened : Network := { start with opened := 1 }
    (∃ s, nested.text = .ok s) ∧ ∃ c, cfg.client start = .ok (c, opened) ∧
      (c.get (.text "Property") .null .null opened).1 = .error (.argument .tooDeep) := by
  intro cfg nested start opened
  refine ⟨⟨_, rfl⟩, ?_⟩
  obtain ⟨c, hclient, hauthorized⟩ : ∃ c, cfg.client start = .ok (c, opened) ∧
      (c.authenticator.authorize opened).1 = .ok "Bearer tok" := ⟨_, rfl, rfl⟩
  refine ⟨c, hclient, ?_⟩
  have hdocument : nested.document = .error .tooDeep :=
    Response.document_utf8_of_brackets (by decide) 500 _ _
  have hexplanation : nested.explanation = .error .tooDeep := by
    rw [Response.explanation, hdocument]
  have hget := get_of_authorized c "Property" .null none hauthorized (a := .response nested) rfl
  rw [Answer.outcome, Response.outcome, if_pos (by decide), hexplanation] at hget
  exact hget

end Client

end OData
