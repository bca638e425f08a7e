import OData.Proofs.Gateway.FirstRequest

/-!
# Validating and connecting

A gateway is validated when it is started and connects when a form is run; both times its settings
have to be complete.

* **Both agree** (`validate_iff_connect_iff`): apart from the gateway's own key, unless the address
  is made of slashes. To connect it is trimmed first and then counts as missing, and to be validated
  it is not. A gateway that connects sets up a client.
* **An address of slashes** (`not_validate_iff_connect_of_slash`).
-/

namespace OData

/-- What was looked up once is not looked up again. -/
theorem Environment.resolve_resolve (env : Environment) (argument : Value)
    (name fallback : String) :
    env.resolve (env.resolve argument name fallback) name fallback =
      env.resolve argument name fallback := by
  unfold resolve Value.orElse
  split <;> simp_all

/-- An argument that is a text or absent is looked up as a text. -/
theorem Environment.exists_text_of_resolve (env : Environment) {argument : Value}
    (h : argument = .null ∨ ∃ s, argument = .text s) (name fallback : String) :
    ∃ s, env.resolve argument name fallback = .text s := by
  unfold resolve Value.orElse
  split
  · rename_i htruthy
    rcases h with rfl | ⟨s, rfl⟩
    · cases htruthy
    · exact ⟨s, rfl⟩
  · exact ⟨_, rfl⟩

/-- Settings can be made exactly if the address is more than slashes and there are credentials. -/
theorem Overrides.exists_resolve_iff {args : Overrides} {env : Environment} {base : String}
    (hbase : env.resolve args.baseUrl "ODATA_BASE_URL" "" = .text base) :
    (∃ s, args.resolve env = .ok s) ↔
      ¬ Text.OnlySlashes base ∧ (args.credentials env).isSome = true := by
  have hslash : Text.trimEndSlashes base ++ "/" = "/" ↔ Text.OnlySlashes base := by
    rw [← Text.trimEndSlashes_eq_empty_iff, ← String.toList_inj, ← String.toList_inj,
      String.toList_append]
    simp
  simp only [resolve_eq_ok_iff, hbase, Config.baseOf, Except.ok.injEq, Option.isSome_iff_exists]
  constructor
  · rintro ⟨_, _, credentials, rfl, hmore, hcredentials, -⟩
    exact ⟨mt hslash.2 hmore, credentials, hcredentials⟩
  · rintro ⟨hmore, credentials, hcredentials⟩
    exact ⟨_, _, credentials, rfl, mt hslash.1 hmore, hcredentials, rfl⟩

namespace Gateway

variable {g : Gateway} {env : Environment}

/-- A gateway is valid exactly if it has an address, credentials and a key. -/
theorem validate_eq_ok_iff : g.validate = .ok () ↔ g.baseUrl.truthy = true ∧
    (Credentials.choose g.bearerToken g.clientId g.clientSecret).isSome = true ∧
      g.gatewayKey.truthy = true := by
  unfold validate
  cases g.baseUrl.truthy <;> cases g.gatewayKey.truthy <;>
    cases Credentials.choose g.bearerToken g.clientId g.clientSecret <;> simp

/-- A gateway connects exactly if its address is more than slashes and it has credentials. What it
lacks was looked up before, so that it is not found in the environment either. -/
theorem exists_connect_iff (args : GatewayOverrides) {base : String}
    (hbase : (args.resolve env).baseUrl = .text base) :
    (∃ conn, (args.resolve env).connect env = .ok conn) ↔
      ¬ Text.OnlySlashes base ∧
        (Credentials.choose (args.resolve env).bearerToken (args.resolve env).clientId
          (args.resolve env).clientSecret).isSome = true := by
  have haddress : env.resolve (args.resolve env).overrides.baseUrl "ODATA_BASE_URL" "" =
      .text base :=
    (env.resolve_resolve _ _ _).trans hbase
  have hcredentials : (args.resolve env).overrides.credentials env =
      Credentials.choose (args.resolve env).bearerToken (args.resolve env).clientId
        (args.resolve env).clientSecret := by
    simp only [Overrides.credentials, overrides, GatewayOverrides.resolve,
      Environment.resolve_resolve]
  rw [← hcredentials, ← Overrides.exists_resolve_iff haddress]
  simp only [connect, Connection.establish, map_eq_ok_iff]
  constructor
  · rintro ⟨_, settings, hsettings, -⟩
    exact ⟨settings, hsettings⟩
  · rintro ⟨settings, hsettings⟩
    exact ⟨_, settings, hsettings, rfl⟩

/-- **Validation predicts connecting unless the address is made of slashes.** The address given to a
gateway is a text or absent. The gateway is valid exactly if it has a key and connects, with one
exception: it has a key and credentials, and its address holds slashes and nothing else. A gateway
that connects always sets up a client, so a form is not run in vain for want of a setting. -/
theorem validate_iff_connect_iff {args : GatewayOverrides}
    (hbase : args.baseUrl = .null ∨ ∃ s, args.baseUrl = .text s) (env : Environment) :
    let g := args.resolve env
    ((g.validate = .ok () ↔ g.gatewayKey.truthy = true ∧ ∃ conn, g.connect env = .ok conn) ↔
        ¬ (g.gatewayKey.truthy = true ∧
          (Credentials.choose g.bearerToken g.clientId g.clientSecret).isSome = true ∧
          ∃ base, g.baseUrl = .text base ∧ base ≠ "" ∧ Text.OnlySlashes base)) ∧
      ∀ conn, g.connect env = .ok conn → ∀ net, ∃ c, (conn.client net).client = .ok c := by
  intro g
  obtain ⟨base, hg⟩ := env.exists_text_of_resolve hbase "ODATA_BASE_URL" ""
  have hbaseUrl : g.baseUrl = .text base := hg
  have htruthy : (Value.text base).truthy = true ↔ base ≠ "" := bne_iff_ne
  have hempty : base = "" → Text.OnlySlashes base := by
    rintro rfl
    exact fun c hc => absurd hc (by simp)
  constructor
  · rw [validate_eq_ok_iff, exists_connect_iff args hbaseUrl, hbaseUrl, htruthy]
    simp only [Value.text.injEq, exists_eq_left']
    have hmore : ¬ Text.OnlySlashes base → base ≠ "" := mt hempty
    tauto
  · intro conn hconn net
    obtain ⟨c, opened, hclient, -⟩ := exists_reached hconn net
    exact ⟨c, by rw [hclient]⟩

/-- Name and secret come from the environment, and the token of the gateway is empty. -/
theorem validate_iff_connect_of_environment :
    let env : Environment := [("ODATA_BASE_URL", "https://up/odata"), ("ODATA_CLIENT_ID", "id"),
      ("ODATA_CLIENT_SECRET", "secret"), ("ODATA_GATEWAY_KEY", "gw")]
    let args : GatewayOverrides := { baseUrl := .text "", bearerToken := .text "" }
    let g := args.resolve env
    (∃ s, args.baseUrl = .text s) ∧
      (g.validate = .ok () ↔ g.gatewayKey.truthy = true ∧ ∃ conn, g.connect env = .ok conn) ∧
      ∃ conn, g.connect env = .ok conn ∧ ∀ net, ∃ c, (conn.client net).client = .ok c := by
  intro env args g
  have hbase : ∃ s, args.baseUrl = .text s := ⟨"", rfl⟩
  have hmore : ¬ Text.OnlySlashes "https://up/odata" :=
    fun honly => absurd (honly 'h' (by decide)) (by decide)
  obtain ⟨hiff, hclient⟩ := validate_iff_connect_iff (Or.inr hbase) env
  have hagree : g.validate = .ok () ↔
      g.gatewayKey.truthy = true ∧ ∃ conn, g.connect env = .ok conn := by
    refine hiff.2 ?_
    rintro ⟨-, -, base, hbaseUrl, -, honly⟩
    cases hbaseUrl
    exact hmore honly
  obtain ⟨-, conn, hconn⟩ := hagree.1 rfl
  exact ⟨hbase, hagree, conn, hconn, hclient conn hconn⟩

/-- A gateway whose address is a slash is valid and does not connect, so that it cannot handle a
form. -/
theorem not_validate_iff_connect_of_slash :
    let args : GatewayOverrides :=
      { baseUrl := .text "/", bearerToken := .text "tok", gatewayKey := .text "gw" }
    let g := args.resolve []
    g.validate = .ok () ∧ g.connect [] = .error (.setting .address) ∧
      ¬ (g.validate = .ok () ↔ g.gatewayKey.truthy = true ∧ ∃ conn, g.connect [] = .ok conn) ∧
      (answer g [] (Request.submitting "gw" "\x7b\x7d") (Network.ofAnswers [] [])).1.status =
        500 := by
  intro args g
  have hvalid : g.validate = .ok () := rfl
  have hfails : g.connect [] = .error (.setting .address) := rfl
  refine ⟨hvalid, hfails, fun h => ?_, by decide +kernel⟩
  obtain ⟨-, conn, hconn⟩ := h.1 hvalid
  cases hfails.symm.trans hconn

end Gateway

end OData
