import OData.Gateway.Host
import OData.Proofs.Gateway.FirstRequest

/-!
# Applications of a host

* **Whatever happens at a host** (`serve_after`): each of its applications answers with the gateway
  that was given last.
* **Its own gateway** (`serves_own_gateway`): an application answers with its own gateway as long as
  none is made with another one after it.
* **Another gateway** (`serves_other_gateway`): otherwise it may refuse the key that it was made
  with and let another pass.
-/

namespace OData.Gateway

/-! ## Keys -/

/-- Whether a request carries a key and a readable document to an endpoint that takes forms. -/
structure Submission (r : Request) (key : String) : Prop where
  /-- It goes to such an endpoint. -/
  target : Endpoint.ofTarget? r.target = some .compile ∨ Endpoint.ofTarget? r.target = some .run
  /-- It has the method of the endpoint. -/
  method : r.method = .post
  /-- It carries the key. -/
  key : r.key? = some key
  /-- Its document can be read. -/
  document : ∃ document, r.document = .ok document

variable {g : Gateway} {env : Environment} {r : Request} {key : String} {net : Network}

/-- A gateway refuses a key exactly if it has one itself, and it is another. -/
theorem admits_eq_false_iff :
    g.admits key = false ↔ g.gatewayKey.truthy = true ∧ g.gatewayKey ≠ .text key := by
  have htext : g.gatewayKey.text? = some key ↔ g.gatewayKey = .text key := by
    cases g.gatewayKey <;> simp [Value.text?]
  simp [admits, htext]

/-- A submission has no form for its key exactly if the gateway does not admit the key. -/
theorem Submission.form_eq_wrongKey_iff (h : Submission r key) :
    r.form g = .error .wrongKey ↔ g.admits key = false := by
  obtain ⟨document, hdocument⟩ := h.document
  have hkey : r.checkKey = .ok key := by
    rw [Request.checkKey, h.key]
  unfold Request.form
  simp only [hdocument, hkey, bind, Except.bind]
  cases hadmits : g.admits key with
  | false => simp
  | true =>
    cases Request.checkForm document with
    | ok form => simp
    | flawed issues =>
      have hissues : Reply.ofIssues issues ≠ .wrongKey := by
        unfold Reply.ofIssues
        split <;> exact Reply.noConfusion
      simpa using hissues

/-- What a form compiles to refuses no key. -/
theorem compile_ne_wrongKey (form : Form) : compile form ≠ .wrongKey := by
  unfold compile
  split
  · split <;> exact Reply.noConfusion
  · exact Reply.noConfusion

/-- Running a form refuses no key. -/
theorem run_ne_wrongKey (g : Gateway) (env : Environment) (form : Form) (net : Network) :
    (run g env form net).1 ≠ .wrongKey := by
  have hfailure (failure : Failure) : Reply.ofFailure failure ≠ .wrongKey := by
    cases failure <;> exact Reply.noConfusion
  have hreply (q : Query) (result : Except Failure (List Value)) :
      replyTo q result ≠ .wrongKey := by
    cases result with
    | error failure => exact hfailure failure
    | ok items =>
      rw [replyTo]
      split <;> exact Reply.noConfusion
  have hthrough (conn : Connection) (q : Query) (limit : Value) :
      (runThrough conn form q limit net).1 ≠ .wrongKey := by
    unfold runThrough
    dsimp only
    split
    · exact hreply q _
    · exact hfailure _
  unfold run
  split
  · split
    · exact hthrough _ _ _
    · exact Reply.noConfusion
  · exact Reply.noConfusion

/-- A submission is refused for its key exactly if the gateway has another. Nothing is sent then. -/
theorem Submission.answer_eq_wrongKey_iff (h : Submission r key) :
    ((answer g env r net).1 = .wrongKey ↔
        g.gatewayKey.truthy = true ∧ g.gatewayKey ≠ .text key) ∧
      ((answer g env r net).1 = .wrongKey → (answer g env r net).2 = net) := by
  rw [← admits_eq_false_iff, ← h.form_eq_wrongKey_iff]
  unfold answer
  rcases h.target with htarget | htarget
  · cases hform : r.form g with
    | ok form => simp [htarget, h.method, Endpoint.method, compile_ne_wrongKey]
    | error reply => simp [htarget, h.method, Endpoint.method]
  · cases hform : r.form g with
    | ok form => simp [htarget, h.method, Endpoint.method, run_ne_wrongKey]
    | error reply => simp [htarget, h.method, Endpoint.method]

/-- A text that spells an object makes a submission, whatever key goes with it. -/
theorem submission_submitting {text : String} {members : Members} (key : String)
    (htext : Payload.spells text members = true) :
    Submission (Request.submitting key text) key :=
  ⟨Or.inr (ofTarget?_submitting key text), rfl, key?_submitting key text,
    _, document_submitting key htext⟩

/-! ## Events -/

/-- What happens at a host. -/
inductive Event where
  /-- An application with a gateway is made. -/
  | create (g : Gateway)
  /-- A request is sent to an application. -/
  | request (app : App) (r : Request)

/-- A host and the network it is on. -/
structure Site where
  /-- The host. -/
  host : Host
  /-- The network. -/
  network : Network

/-- The gateway given last, if one was given before an event. -/
def Event.given (g : Gateway) : Event → Gateway
  | .create other => other
  | .request _ _ => g

/-- The gateway given last, if one was given before several events. -/
def latest (g : Gateway) (events : List Event) : Gateway :=
  events.foldl Event.given g

/-- If no other gateway is given, the first is also the last. -/
theorem latest_eq {events : List Event} (h : ∀ other, .create other ∈ events → other = g) :
    latest g events = g := by
  induction events with
  | nil => rfl
  | cons event events ih =>
    have hgiven : Event.given g event = g := by
      cases event with
      | create other => exact h other List.mem_cons_self
      | request app r => rfl
    have hlater : latest g events = g := by
      apply ih
      intro other hother
      exact h other (List.mem_cons_of_mem event hother)
    rw [latest, List.foldl_cons, hgiven]
    exact hlater

/-- A host with a gateway answers with it, whichever application is asked. -/
theorem Host.serve_of_current {h : Host} (hcurrent : h.current = some g) (app : App) (r : Request)
    (net : Network) :
    h.serve app r net =
      ((answer g h.environment r net).1, h, (answer g h.environment r net).2) := by
  have hgateway : h.gateway = (g, h) := by
    rw [Host.gateway, hcurrent]
  unfold Host.serve
  simp only [hgateway]

namespace Site

/-- A site after an event. -/
def step (s : Site) : Event → Site
  | .create g => ⟨(s.host.createApp (some g)).2, s.network⟩
  | .request app r => ⟨(s.host.serve app r s.network).2.1, (s.host.serve app r s.network).2.2⟩

/-- A site after several events. -/
def after (s : Site) (events : List Event) : Site :=
  events.foldl step s

variable {s : Site}

/-- An event leaves the environment as it is. -/
theorem environment_step (s : Site) (event : Event) :
    (s.step event).host.environment = s.host.environment := by
  cases event with
  | create g => rfl
  | request app r =>
    change s.host.gateway.2.environment = s.host.environment
    unfold Host.gateway
    split <;> rfl

theorem environment_after (s : Site) (events : List Event) :
    (s.after events).host.environment = s.host.environment := by
  induction events generalizing s with
  | nil => rfl
  | cons event events ih => exact (ih (s.step event)).trans (s.environment_step event)

/-- After an event the gateway of a host is the one given last. -/
theorem current_step (h : s.host.current = some g) (event : Event) :
    (s.step event).host.current = some (Event.given g event) := by
  cases event with
  | create other => rfl
  | request app r =>
    rw [step, Host.serve_of_current h]
    exact h

theorem current_after (h : s.host.current = some g) (events : List Event) :
    (s.after events).host.current = some (latest g events) := by
  induction events generalizing s g with
  | nil => exact h
  | cons event events ih => exact ih (current_step h event)

/-- **The gateway given last.** Once a gateway was given, every request is answered with the one
given last before it, whichever application it is sent to. -/
theorem serve_after (s : Site) (before : List Event) (g : Gateway) (later : List Event) (app : App)
    (r : Request) :
    let site := s.after (before ++ .create g :: later)
    site.host.serve app r site.network =
      ((answer (latest g later) s.host.environment r site.network).1, site.host,
        (answer (latest g later) s.host.environment r site.network).2) := by
  intro site
  have hcurrent : site.host.current = some (latest g later) := by
    have hsite : site = ((s.after before).step (.create g)).after later :=
      List.foldl_append
    rw [hsite]
    exact current_after rfl later
  rw [Host.serve_of_current hcurrent, environment_after]

end Site

/-- **An application and its gateway.** As long as no application is made with another gateway after
it, an application answers with its own: if the gateway has a key, then exactly the other keys are
refused, and a form that passes is run with the gateway. -/
theorem serves_own_gateway (s : Site) (before : List Event) {later : List Event}
    (hlater : ∀ other, .create other ∈ later → other = g) (r : Request) :
    let app := ((s.after before).host.createApp (some g)).1
    let site := s.after (before ++ .create g :: later)
    let served := site.host.serve app r site.network
    (served.1, served.2.2) = answer g s.host.environment r site.network ∧
      (∀ key, Submission r key →
        (served.1 = .wrongKey ↔ g.gatewayKey.truthy = true ∧ g.gatewayKey ≠ .text key) ∧
          (served.1 = .wrongKey → served.2.2 = site.network)) ∧
      ∀ form, Admitted g r form →
        (served.1, served.2.2) = run g s.host.environment form site.network := by
  intro app site served
  have hserved : (served.1, served.2.2) = answer g s.host.environment r site.network := by
    have hlatest := s.serve_after before g later app r
    rw [latest_eq hlater] at hlatest
    exact congrArg (fun served : Reply × Host × Network => (served.1, served.2.2)) hlatest
  have hreply : served.1 = (answer g s.host.environment r site.network).1 :=
    congrArg Prod.fst hserved
  have hnetwork : served.2.2 = (answer g s.host.environment r site.network).2 :=
    congrArg Prod.snd hserved
  refine ⟨hserved, ?_, ?_⟩
  · intro key hsubmission
    rw [hreply, hnetwork]
    exact hsubmission.answer_eq_wrongKey_iff
  · intro form hadmitted
    rw [hserved]
    exact answer_of_admitted hadmitted _ _

/-- The application with the other gateway is made before, and a request to it is in between. -/
theorem serves_own_gateway_after_another :
    let g := GatewayOverrides.resolve { gatewayKey := .text "one" } []
    let other := GatewayOverrides.resolve { gatewayKey := .text "two" } []
    let s : Site := ⟨.ofEnvironment [], .ofAnswers [] []⟩
    let app := ((s.after [.create other]).host.createApp (some g)).1
    let site := s.after [.create other, .create g,
      .request ⟨0⟩ (Request.submitting "two" "\x7b\x7d"), .create g]
    let reply (key : String) :=
      (site.host.serve app (Request.submitting key "\x7b\x7d") site.network).1
    app = ⟨1⟩ ∧ reply "one" ≠ .wrongKey ∧ reply "two" = .wrongKey := by
  intro g other s app site reply
  have hempty : Payload.spells "\x7b\x7d" [] = true := by decide +kernel
  have hlater : ∀ given, Event.create given ∈
      [Event.request ⟨0⟩ (Request.submitting "two" "\x7b\x7d"), .create g] → given = g := by
    simp
  have hrefused (key : String) :
      reply key = .wrongKey ↔ g.gatewayKey.truthy = true ∧ g.gatewayKey ≠ .text key :=
    ((serves_own_gateway s [.create other] hlater (Request.submitting key "\x7b\x7d")).2.1 key
      (submission_submitting key hempty)).1
  have htext : g.gatewayKey = .text "one" := rfl
  refine ⟨rfl, ?_, ?_⟩
  · simp [hrefused, htext]
  · rw [hrefused, htext]
    exact ⟨by decide, by simp⟩

/-- An application refuses its own key and lets that of an application made after it pass. One whose
gateway has the empty key lets any key pass. -/
theorem serves_other_gateway :
    let g := GatewayOverrides.resolve { gatewayKey := .text "one" } []
    let other := GatewayOverrides.resolve { gatewayKey := .text "two" } []
    let keyless := GatewayOverrides.resolve { gatewayKey := .text "" } []
    let s : Site := ⟨.ofEnvironment [], .ofAnswers [] []⟩
    let reply (events : List Event) (app : App) (key : String) :=
      ((s.after events).host.serve app (Request.submitting key "\x7b\x7d")
        (s.after events).network).1
    reply [.create g, .create other] (s.host.createApp (some g)).1 "one" = .wrongKey ∧
      reply [.create g, .create other] (s.host.createApp (some g)).1 "two" ≠ .wrongKey ∧
      reply [.create keyless] (s.host.createApp (some keyless)).1 "bad" ≠ .wrongKey := by
  intro g other keyless s reply
  have hempty : Payload.spells "\x7b\x7d" [] = true := by decide +kernel
  have hreply (first : Gateway) (later : List Event) (app : App) (key : String) :
      reply (.create first :: later) app key = .wrongKey ↔
        (latest first later).gatewayKey.truthy = true ∧
          (latest first later).gatewayKey ≠ .text key := by
    have hserve := s.serve_after [] first later app (Request.submitting key "\x7b\x7d")
    have hfirst : reply (.create first :: later) app key = _ := congrArg Prod.fst hserve
    rw [hfirst]
    exact (submission_submitting key hempty).answer_eq_wrongKey_iff.1
  have hlatest : latest g [.create other] = other := rfl
  have htext : other.gatewayKey = .text "two" := rfl
  have hblank : keyless.gatewayKey.truthy = false := rfl
  refine ⟨?_, ?_, ?_⟩
  · rw [hreply, hlatest, htext]
    exact ⟨by decide, by simp⟩
  · simp [hreply, hlatest, htext]
  · simp [hreply, latest, hblank]

end OData.Gateway
