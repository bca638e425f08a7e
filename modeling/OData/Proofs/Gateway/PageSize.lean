import OData.Proofs.Gateway.FirstRequest
import OData.Proofs.Gateway.FormQuery
import OData.Proofs.Query.PageSize

/-!
# The cap on page sizes

A gateway holds the page size of a form's options below its cap, but it escapes nothing, so other
texts of the form can bring page sizes of their own or make its own one disappear into another
piece.

* **When the cap holds** (`pageSizes_firstRequest?_iff`): the capped page size is the only one in
  the first address that is asked for exactly if no other follows a question mark in front of the
  options and neither a list of the form nor its filter holds `&$top=`. Where there is such a
  question mark, the form is one that sets a list.
* **Texts that bring one** (`pageSizes_firstRequest?_unescaped`): forms and a gateway for which the
  cap does not hold.
-/

namespace OData.Gateway

open Query (pageSizes sizePieces BringsSize bringsSize_iff)

/-- An order term brings a page size exactly if its field does. -/
theorem OrderTerm.bringsSize_text_iff (t : OrderTerm) :
    BringsSize t.text.toList ↔ BringsSize t.field.toList := by
  have hspace : ' ' ∉ '&' :: Query.sizeMark := by decide
  have hword (d : Direction) : ¬ BringsSize d.word.toList := by
    rw [bringsSize_iff]
    cases d <;> decide
  obtain ⟨field, direction⟩ := t
  cases direction with
  | none => rfl
  | some d =>
    have htext : (OrderTerm.text ⟨field, some d⟩).toList =
        field.toList ++ ' ' :: d.word.toList := by
      simp [text]
    rw [htext]
    exact (Text.infix_append_cons_iff hspace).trans (or_iff_left (hword d))

/-- The lists of options that a form sets. -/
def Form.lists (f : Form) : List (String × String) :=
  Options.lists f.selected f.expanded (f.terms.map OrderTerm.text)

/-- The texts of a form that are written into its lists: the fields, the properties and the fields
of the order terms. -/
def Form.listTexts (f : Form) : List String :=
  f.selected ++ f.expanded ++ f.terms.map OrderTerm.field

/-- The lists of a form bring a page size exactly if one of its texts does. -/
theorem Form.bringsSize_lists_iff (f : Form) :
    (∀ p ∈ f.lists, ¬ BringsSize p.2.toList) ↔
      ∀ s ∈ f.listTexts, Text.occursIn "&$top=" s = false := by
  have hterms : (∀ s ∈ f.terms.map OrderTerm.text, ¬ BringsSize s.toList) ↔
      ∀ s ∈ f.terms.map OrderTerm.field, ¬ BringsSize s.toList := by
    rw [List.forall_mem_map, List.forall_mem_map]
    exact forall₂_congr fun t _ => not_congr t.bringsSize_text_iff
  unfold lists listTexts
  simp only [Query.bringsSize_lists_iff, List.forall_mem_append, hterms]
  simp only [bringsSize_iff, Bool.not_eq_true]

variable {g : Gateway} {env : Environment} {r : Request} {form : Form} {conn : Connection}
  {net : Network} {request : DataRequest} {cap : Int}

/-- **When the cap holds.** Let a gateway have a cap on the page size, and let the front of the
address that a form leads to hold no question mark, or the form set a list. The capped page size is
the only one in the first address that is asked for exactly if no other follows a question mark of
the front, and no text of the lists and not the filter holds `&$top=`. -/
theorem pageSizes_firstRequest?_iff (h : Admitted g r form) (hconn : g.connect env = .ok conn)
    (hcap : g.maxTop = .int cap) (hfirst : firstRequest? g env r net = some request) :
    ∃ q, form.query (.int cap) = .ok q ∧
      let front := (conn.settings.resolve (Text.trimEndSlashes form.resource)).toList
      ('?' ∉ front ∨ form.lists ≠ [] →
        (pageSizes request.url = ["$top=" ++ toString (form.pageSize cap)] ↔
          (∀ rest ∈ Text.after? '?' front, sizePieces rest = []) ∧
            (∀ s ∈ form.listTexts, Text.occursIn "&$top=" s = false) ∧
            Text.occursIn "&$top=" q.filter.expression = false)) := by
  obtain ⟨-, q, endpoint, authorization, hq, hendpoint, -, rfl⟩ :=
    (firstRequest?_eq_some_iff h hconn).1 hfirst
  rw [hcap] at hq
  refine ⟨q, hq, fun hfront => ?_⟩
  obtain ⟨ps, hps, rfl⟩ := (Query.address_eq_ok_iff (Form.base_of_query hq)).1 hendpoint
  rw [Form.options_of_query hq] at hps
  obtain ⟨-, rfl⟩ := (form.holds_options cap).pairs_eq_ok_iff.1 hps
  have hshape := Query.toList_assemble (Text.trimEndSlashes form.resource)
    (form.lists ++ Options.shown "$top" (some (form.pageSize cap)) ++
      Options.shown "$skip" (form.skip.map fun n => (n : Int))) q.filter.expression
  rw [if_neg (by simp [Query.pieces_eq_nil_iff, Options.shown])] at hshape
  have hurl := conn.settings.toList_resolve_append_question hshape
  rw [← form.bringsSize_lists_iff, ← Bool.not_eq_true, ← bringsSize_iff]
  exact Query.pageSizes_of_pieces hurl hfront

/-- A form that wants more than the cap, with an ampersand and a page size in its filter that does
not follow it. -/
theorem pageSizes_firstRequest?_of_capped_form :
    let g := GatewayOverrides.resolve {
      baseUrl := .text "https://up/odata"
      apiKey := .text "upk"
      bearerToken := .text "tok"
      gatewayKey := .text "gw"
      maxTop := .int 100 } []
    let text := "\x7b\x22select\x22: [\x22City\x22], \x22top\x22: 1000, \x22filters\x22: " ++
      "[\x7b\x22op\x22: \x22where\x22, \x22field\x22: \x22City\x22, \x22operator\x22: " ++
      "\x22eq\x22, \x22value\x22: \x22A&B?$top=7\x22\x7d]\x7d"
    let net := Network.ofAnswers [] []
    ∃ form conn request, Admitted g (Request.submitting "gw" text) form ∧
      g.connect [] = .ok conn ∧ g.maxTop = .int 100 ∧
      firstRequest? g [] (Request.submitting "gw" text) net = some request ∧
      request.url =
        "https://up/odata/Property?$select=City&$top=100&$filter=City eq 'A&B?$top=7'" ∧
      pageSizes request.url = ["$top=100"] := by
  intro g text net
  have htext : Payload.spells text [("select", .list [.text "City"]), ("top", .int 1000),
      ("filters", .list [.object [("op", .text "where"), ("field", .text "City"),
        ("operator", .text "eq"), ("value", .text "A&B?$top=7")]])] = true := by decide +kernel
  have hadmitted : Admitted g (Request.submitting "gw" text)
      ⟨"Property", some ["City"], none, none, some 1000, none,
        [⟨.compare, some "City", some "eq", .text "A&B?$top=7", none, none, "and", "AND", "eq",
          none, none⟩], none, 1⟩ :=
    admitted_submitting rfl htext rfl
  have hconn : g.connect [] = .ok _ := rfl
  have hfirst : firstRequest? g [] (Request.submitting "gw" text) net = some _ :=
    (firstRequest?_eq_some_iff hadmitted hconn).2
      ⟨⟨_, rfl⟩, _, "Property?$select=City&$top=100&$filter=City eq 'A&B?$top=7'", "Bearer tok",
        rfl, rfl, rfl, rfl⟩
  obtain ⟨q, hq, hsizes⟩ := pageSizes_firstRequest?_iff hadmitted hconn rfl hfirst
  obtain rfl := Except.ok.inj (hq.symm.trans rfl)
  have hfront : Text.after? '?' "https://up/odata/Property".toList = none := by decide
  have hmark : '?' ∉ "https://up/odata/Property".toList := by decide
  have hlists : ∀ s ∈ ["City"], Text.occursIn "&$top=" s = false := by decide
  have hfilter : Text.occursIn "&$top=" "City eq 'A&B?$top=7'" = false := by decide
  refine ⟨_, _, _, hadmitted, hconn, rfl, hfirst, rfl, ?_⟩
  refine (hsizes (Or.inl hmark)).2 ⟨fun rest hrest => ?_, hlists, hfilter⟩
  exact absurd (hfront.symm.trans hrest) (by simp)

/-- A selected field that brings a page size, a resource with a question mark and a service's
address with one: in the first address two pieces are page sizes, and in the others none is. -/
theorem pageSizes_firstRequest?_unescaped :
    let g (base : String) := GatewayOverrides.resolve {
      baseUrl := .text base
      apiKey := .text "upk"
      bearerToken := .text "tok"
      gatewayKey := .text "gw"
      maxTop := .int 100 } []
    let selecting := "https://up/odata/Property?$select=a&$top=9999&$top=100"
    let marked := "https://up/odata/Property?x?$top=100"
    let markedBase := "https://up/odata?a=1/Property?$top=100"
    ((g "https://up/odata").AsksFirst "\x7b\x22select\x22: [\x22a&$top=9999\x22]\x7d" selecting ∧
        pageSizes selecting = ["$top=9999", "$top=100"]) ∧
      ((g "https://up/odata").AsksFirst "\x7b\x22resource\x22: \x22Property?x\x22\x7d" marked ∧
        pageSizes marked = []) ∧
      (g "https://up/odata?a=1").AsksFirst "\x7b\x7d" markedBase ∧ pageSizes markedBase = [] := by
  intro g selecting marked markedBase
  refine ⟨⟨?_, by decide⟩, ⟨?_, by decide⟩, ?_, by decide⟩
  · have htext : Payload.spells "\x7b\x22select\x22: [\x22a&$top=9999\x22]\x7d"
        [("select", .list [.text "a&$top=9999"])] = true := by decide +kernel
    have hform : Form.ofDocument (.object [("select", .list [.text "a&$top=9999"])]) =
        .ok ⟨"Property", some ["a&$top=9999"], none, none, none, none, [], none, 1⟩ := rfl
    exact asksFirst_of_form "gw" "Property?$select=a&$top=9999&$top=100" rfl htext hform rfl
      ⟨_, rfl⟩ rfl rfl rfl rfl
  · have htext : Payload.spells "\x7b\x22resource\x22: \x22Property?x\x22\x7d"
        [("resource", .text "Property?x")] = true := by decide +kernel
    have hform : Form.ofDocument (.object [("resource", .text "Property?x")]) =
        .ok ⟨"Property?x", none, none, none, none, none, [], none, 1⟩ := rfl
    exact asksFirst_of_form "gw" "Property?x?$top=100" rfl htext hform rfl ⟨_, rfl⟩ rfl rfl rfl rfl
  · have htext : Payload.spells "\x7b\x7d" [] = true := by decide +kernel
    have hform : Form.ofDocument (.object []) =
        .ok ⟨"Property", none, none, none, none, none, [], none, 1⟩ := rfl
    exact asksFirst_of_form "gw" "Property?$top=100" rfl htext hform rfl ⟨_, rfl⟩ rfl rfl rfl rfl

end OData.Gateway
