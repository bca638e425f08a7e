import OData.Proofs.Gateway.FirstRequest
import OData.Proofs.Gateway.FormQuery

/-!
# Where a form's first request goes

The resource of a form is meant to lie below the service's address, but a resource that is an
address of its own is requested as it is, with the key and the authorization of the service.

* **Below the service's address** (`firstRequest?_below_iff`): the first request of a form goes
  there unless the resource is absolute and leads elsewhere.
* **Elsewhere** (`firstRequest?_redirected`).
-/

namespace OData

/-- An address is absolute exactly if the resource without the slashes at its end is. -/
theorem Query.isAbsolute_of_address {q : Query} {base url : String} (hbase : q.base = .text base)
    (hurl : q.address = .ok url) :
    Client.isAbsolute url = Client.isAbsolute (Text.trimEndSlashes base) := by
  obtain ⟨ps, -, rfl⟩ := (address_eq_ok_iff hbase).1 hurl
  have hshape := toList_assemble (Text.trimEndSlashes base) ps q.filter.expression
  by_cases hpieces : pieces ps q.filter.expression = []
  · rw [if_pos hpieces, List.append_nil, String.toList_inj] at hshape
    rw [hshape]
  · rw [if_neg hpieces] at hshape
    exact Client.isAbsolute_append_question hshape

namespace Gateway

variable {g : Gateway} {env : Environment} {r : Request} {form : Form} {conn : Connection}
  {net : Network} {request : DataRequest}

/-- **Where the first request goes.** The first request of a form carries the key of the service and
its authorization. It goes below the service's address if the form's resource, without the slashes
at its end, is not an address of its own. Otherwise the address of the form's query is requested as
it is, wherever it leads. -/
theorem firstRequest?_below_iff (h : Admitted g r form) (hconn : g.connect env = .ok conn)
    (hfirst : firstRequest? g env r net = some request) :
    Config.baseOf (env.resolve g.baseUrl "ODATA_BASE_URL" "") = .ok conn.settings.baseUrl ∧
      request.headers = [("x-api-key", conn.settings.apiKey)] ∧
      conn.settings.authorization net.tokenAnswers = .ok request.authorization ∧
      ∃ q endpoint, form.query g.maxTop = .ok q ∧ q.address = .ok endpoint ∧
        request.url =
          (if Client.isAbsolute (Text.trimEndSlashes form.resource) then endpoint
          else conn.settings.baseUrl ++ Text.trimStartSlashes endpoint) ∧
        (Text.beginsWith conn.settings.baseUrl request.url = true ↔
          (Client.isAbsolute (Text.trimEndSlashes form.resource) = true →
            Text.beginsWith conn.settings.baseUrl endpoint = true)) := by
  obtain ⟨-, q, endpoint, authorization, hq, hendpoint, hauthorization, rfl⟩ :=
    (firstRequest?_eq_some_iff h hconn).1 hfirst
  obtain ⟨-, -, hbase⟩ := settings_of_connect hconn
  have habsolute : Client.isAbsolute endpoint =
      Client.isAbsolute (Text.trimEndSlashes form.resource) :=
    Query.isAbsolute_of_address (Form.base_of_query hq) hendpoint
  have hurl : (conn.settings.pageRequest endpoint authorization).url =
      (if Client.isAbsolute (Text.trimEndSlashes form.resource) then endpoint
      else conn.settings.baseUrl ++ Text.trimStartSlashes endpoint) := by
    rw [← habsolute]
    rfl
  refine ⟨hbase, rfl, hauthorization, q, endpoint, hq, hendpoint, hurl, ?_⟩
  rw [hurl]
  by_cases hresource : Client.isAbsolute (Text.trimEndSlashes form.resource) = true
  · simp [hresource]
  · have hbelow : Text.beginsWith conn.settings.baseUrl
        (conn.settings.baseUrl ++ Text.trimStartSlashes endpoint) = true := by
      rw [Text.beginsWith_iff, String.toList_append]
      exact List.prefix_append _ _
    simp [hresource, hbelow]

/-- A resource with slashes in front, which is below the service's address all the same. -/
theorem firstRequest?_below_of_slashes :
    let g := GatewayOverrides.resolve {
      baseUrl := .text "https://up/odata//"
      apiKey := .text "upk"
      bearerToken := .text "tok"
      gatewayKey := .text "gw"
      maxTop := .int 100 } []
    let r := Request.submitting "gw" "\x7b\x22resource\x22: \x22//evil.example.com/x\x22\x7d"
    let net := Network.ofAnswers [] []
    ∃ form conn request, Admitted g r form ∧ g.connect [] = .ok conn ∧
      firstRequest? g [] r net = some request ∧
      conn.settings.baseUrl = "https://up/odata/" ∧
      request.url = "https://up/odata/evil.example.com/x?$top=100" ∧
      Text.beginsWith conn.settings.baseUrl request.url = true := by
  intro g r net
  have htext : Payload.spells "\x7b\x22resource\x22: \x22//evil.example.com/x\x22\x7d"
      [("resource", .text "//evil.example.com/x")] = true := by decide +kernel
  have hadmitted : Admitted g r
      ⟨"//evil.example.com/x", none, none, none, none, none, [], none, 1⟩ :=
    admitted_submitting rfl htext rfl
  have hconn : g.connect [] = .ok _ := rfl
  have hfirst : firstRequest? g [] r net = some _ :=
    (firstRequest?_eq_some_iff hadmitted hconn).2
      ⟨⟨_, rfl⟩, _, "//evil.example.com/x?$top=100", "Bearer tok", rfl, rfl, rfl, rfl⟩
  obtain ⟨-, -, -, q, endpoint, hq, hendpoint, -, hbelow⟩ :=
    firstRequest?_below_iff hadmitted hconn hfirst
  have hrelative : Client.isAbsolute (Text.trimEndSlashes "//evil.example.com/x") = false := rfl
  refine ⟨_, _, _, hadmitted, hconn, hfirst, rfl, rfl, hbelow.2 fun habsolute => ?_⟩
  exact absurd (hrelative.symm.trans habsolute) (by decide)

/-- A resource that is the address of another service, which is sent the key and the
authorization. -/
theorem firstRequest?_redirected :
    let g := GatewayOverrides.resolve {
      baseUrl := .text "https://up/odata"
      apiKey := .text "upk"
      bearerToken := .text "tok"
      gatewayKey := .text "gw"
      maxTop := .int 100 } []
    let r := Request.submitting "gw"
      "\x7b\x22resource\x22: \x22https://evil.example.com/x\x22\x7d"
    let net := Network.ofAnswers [] []
    ∃ form conn request, Admitted g r form ∧ g.connect [] = .ok conn ∧
      firstRequest? g [] r net = some request ∧
      conn.settings.baseUrl = "https://up/odata/" ∧
      request.url = "https://evil.example.com/x?$top=100" ∧
      request.headers = [("x-api-key", .text "upk")] ∧ request.authorization = "Bearer tok" ∧
      Text.beginsWith conn.settings.baseUrl request.url = false := by
  intro g r net
  have htext : Payload.spells "\x7b\x22resource\x22: \x22https://evil.example.com/x\x22\x7d"
      [("resource", .text "https://evil.example.com/x")] = true := by decide +kernel
  have hadmitted : Admitted g r
      ⟨"https://evil.example.com/x", none, none, none, none, none, [], none, 1⟩ :=
    admitted_submitting rfl htext rfl
  have hconn : g.connect [] = .ok _ := rfl
  have hfirst : firstRequest? g [] r net = some _ :=
    (firstRequest?_eq_some_iff hadmitted hconn).2
      ⟨⟨_, rfl⟩, _, "https://evil.example.com/x?$top=100", "Bearer tok", rfl, rfl, rfl, rfl⟩
  have helsewhere : Text.beginsWith "https://up/odata/" "https://evil.example.com/x?$top=100" =
      false := by decide
  exact ⟨_, _, _, hadmitted, hconn, hfirst, rfl, rfl, rfl, rfl, helsewhere⟩

end Gateway

end OData
