import OData.Settings

/-!
# Empty variables

A variable that is set to the empty text is nearly as good as none: an argument that is absent is
looked up, and what is looked up and empty counts as missing.

* **Removing empty variables** (`config_without_iff`): the same setting is missing or the same
  configuration is made, but for the address of the token endpoint and the scope. Those two have a
  default that stands in for a variable that is not set, and not for one that is empty.
* **Settings with a default** (`resolve_without_eq_iff`): such a setting stays as it was exactly if
  an argument is given or its variable is not one of those that are removed.
* **A scope that changes** (`config_without_ne_of_empty_scope`).
-/

namespace OData

namespace Environment

/-- An environment without the variables of the given names. -/
def without (env : Environment) (names : List String) : Environment :=
  env.filter fun v => v.1 ∉ names

theorem lookup_without (env : Environment) (names : List String) (name : String) :
    (env.without names).lookup name = if name ∈ names then none else env.lookup name := by
  induction env with
  | nil => simp [without]
  | cons v rest ih =>
    unfold without at ih ⊢
    by_cases hv : v.1 ∈ names
    · rw [List.filter_cons_of_neg (by simpa using hv), ih, List.lookup_cons]
      by_cases hname : name = v.1
      · rw [if_pos (hname ▸ hv), if_pos (hname ▸ hv)]
      · rw [beq_false_of_ne hname]
    · rw [List.filter_cons_of_pos (by simpa using hv), List.lookup_cons, List.lookup_cons, ih]
      by_cases hname : name = v.1
      · subst hname
        simp only [beq_self_eq_true, if_neg hv]
      · rw [beq_false_of_ne hname]

theorem get_without (env : Environment) (names : List String) (name fallback : String) :
    (env.without names).get name fallback =
      if name ∈ names then fallback else env.get name fallback := by
  unfold get
  rw [lookup_without]
  split <;> rfl

variable {env : Environment} {names : List String}

theorem get_of_empty (hempty : ∀ name ∈ names, env.lookup name = some "") {name : String}
    (hname : name ∈ names) (fallback : String) : env.get name fallback = "" := by
  rw [get, hempty name hname]
  rfl

/-- A setting that is not given is the empty text if its variable is, whatever it falls back on. -/
theorem resolve_of_empty (hempty : ∀ name ∈ names, env.lookup name = some "") {argument : Value}
    (hfalsy : argument.truthy = false) {name : String} (hname : name ∈ names) (fallback : String) :
    env.resolve argument name fallback = .text "" := by
  rw [resolve, Value.orElse, hfalsy, get_of_empty hempty hname]
  rfl

/-- A setting is looked up alike without empty variables, unless its variable is one of them: then
what it falls back on takes its place. -/
theorem resolve_without (argument : Value) (name fallback : String) :
    (env.without names).resolve argument name fallback =
      if argument.truthy = false ∧ name ∈ names then .text fallback
      else env.resolve argument name fallback := by
  unfold resolve Value.orElse
  rw [get_without]
  cases argument.truthy with
  | true => simp
  | false => by_cases hname : name ∈ names <;> simp [hname]

/-- Where a setting falls back on the empty text, an empty variable is as good as none. -/
theorem resolve_without_empty (hempty : ∀ name ∈ names, env.lookup name = some "")
    (argument : Value) (name : String) :
    (env.without names).resolve argument name "" = env.resolve argument name "" := by
  rw [resolve_without]
  split
  · rename_i h
    rw [resolve_of_empty hempty h.1 h.2]
  · rfl

/-- Where it falls back on another text, an empty variable is as good as none only if the argument
is given. -/
theorem resolve_without_eq_iff (hempty : ∀ name ∈ names, env.lookup name = some "")
    (argument : Value) (name : String) {fallback : String} (hfallback : fallback ≠ "") :
    (env.without names).resolve argument name fallback = env.resolve argument name fallback ↔
      argument.truthy = true ∨ name ∉ names := by
  rw [resolve_without]
  split
  · rename_i h
    rw [resolve_of_empty hempty h.1 h.2]
    simp [h, hfallback]
  · rename_i h
    refine iff_of_true rfl ?_
    cases htruthy : argument.truthy with
    | true => exact Or.inl rfl
    | false => exact Or.inr fun hname => h ⟨htruthy, hname⟩

end Environment

namespace Overrides

variable {env : Environment} {names : List String}

/-- How certificates are verified does not depend on an empty variable: only one word says no. -/
theorem verification_without (hempty : ∀ name ∈ names, env.lookup name = some "")
    (args : Overrides) : args.verification (env.without names) = args.verification env := by
  unfold verification
  rw [Environment.get_without]
  split
  · split
    · rename_i hname
      rw [Environment.get_of_empty hempty hname]
      rfl
    · rfl
  · rfl

theorem credentials_without (hempty : ∀ name ∈ names, env.lookup name = some "")
    (args : Overrides) : args.credentials (env.without names) = args.credentials env := by
  simp only [credentials, Environment.resolve_without_empty hempty]

/-- Without empty variables the same is missing, or the settings are the same but for the two that
have a default. -/
theorem resolve_without (hempty : ∀ name ∈ names, env.lookup name = some "") (args : Overrides) :
    args.resolve (env.without names) = (args.resolve env).map fun s => { s with
      tokenUrl := (env.without names).resolve args.tokenUrl "ODATA_TOKEN_URL" defaultTokenUrl
      scope := (env.without names).resolve args.scope "ODATA_SCOPE" defaultScope } := by
  unfold resolve
  rw [credentials_without hempty, verification_without hempty]
  simp only [Environment.resolve_without_empty hempty]
  cases refusing (Config.baseOf (env.resolve args.baseUrl "ODATA_BASE_URL" "")) with
  | error failure => rfl
  | ok base =>
    simp only [bind, Except.bind]
    split
    · rfl
    · cases args.credentials env <;> rfl

/-- **Empty variables and variables that are not set.** Variables whose text is empty are removed
from the environment. The configuration that is made, or what it fails for, is the same exactly if
it fails or, for the address of the token endpoint and the scope, an argument is given or no
variable is removed. In any case only these two can change, to their defaults. -/
theorem config_without_iff (args : Overrides)
    (hempty : ∀ name ∈ names, env.lookup name = some "") :
    let before := (args.resolve env).map Settings.config
    let after := (args.resolve (env.without names)).map Settings.config
    (after = before ↔ (∃ failure, before = .error failure) ∨
      (args.tokenUrl.truthy = true ∨ "ODATA_TOKEN_URL" ∉ names) ∧
        (args.scope.truthy = true ∨ "ODATA_SCOPE" ∉ names)) ∧
      after = before.map fun cfg => { cfg with
        tokenUrl := if args.tokenUrl.truthy = false ∧ "ODATA_TOKEN_URL" ∈ names then
          .text defaultTokenUrl else cfg.tokenUrl
        scope := if args.scope.truthy = false ∧ "ODATA_SCOPE" ∈ names then
          .text defaultScope else cfg.scope } := by
  intro before after
  have htoken := Environment.resolve_without_eq_iff hempty args.tokenUrl "ODATA_TOKEN_URL"
    (by decide : defaultTokenUrl ≠ "")
  have hscope := Environment.resolve_without_eq_iff hempty args.scope "ODATA_SCOPE"
    (by decide : defaultScope ≠ "")
  have hafter : after = (args.resolve env).map fun s => Settings.config { s with
      tokenUrl := (env.without names).resolve args.tokenUrl "ODATA_TOKEN_URL" defaultTokenUrl
      scope := (env.without names).resolve args.scope "ODATA_SCOPE" defaultScope } := by
    show (args.resolve (env.without names)).map Settings.config = _
    rw [resolve_without hempty]
    cases args.resolve env <;> rfl
  rw [← htoken, ← hscope, hafter]
  cases hresolve : args.resolve env with
  | error failure =>
    have hbefore : before = .error failure := congrArg (·.map Settings.config) hresolve
    rw [hbefore]
    exact ⟨iff_of_true rfl (Or.inl ⟨failure, rfl⟩), rfl⟩
  | ok s =>
    have hbefore : before = .ok s.config := congrArg (·.map Settings.config) hresolve
    obtain ⟨base, credentials, -, -, -, rfl⟩ := resolve_eq_ok_iff.1 hresolve
    rw [hbefore]
    constructor
    · simp [Except.map, Settings.config]
    · simp only [Except.map, Settings.config, Environment.resolve_without]

/-- Three empty variables are removed: the client's name is then missing as before, certificates are
verified as before, and the scope is that of the argument. -/
theorem config_without_of_given_scope :
    let env : Environment := [("ODATA_CLIENT_ID", ""), ("ODATA_VERIFY_TLS", ""),
      ("ODATA_BEARER_TOKEN", "tok"), ("ODATA_SCOPE", ""), ("ODATA_BASE_URL", "https://x/odata/")]
    let args : Overrides := { scope := .text "api/write" }
    let names := ["ODATA_CLIENT_ID", "ODATA_VERIFY_TLS", "ODATA_SCOPE"]
    (∀ name ∈ names, env.lookup name = some "") ∧
      (args.resolve (env.without names)).map Settings.config =
        (args.resolve env).map Settings.config := by
  intro env args names
  have hempty : ∀ name ∈ names, env.lookup name = some "" := by decide
  refine ⟨hempty, (config_without_iff args hempty).1.2 (Or.inr ⟨Or.inr ?_, Or.inl rfl⟩)⟩
  decide

/-- An empty scope is asked for with an empty scope; without the variable the default is asked
for. -/
theorem config_without_ne_of_empty_scope :
    let env : Environment := [("ODATA_SCOPE", "")]
    let args : Overrides := { baseUrl := .text "https://x/odata", bearerToken := .text "tok" }
    (∀ name ∈ ["ODATA_SCOPE"], env.lookup name = some "") ∧
      ((args.resolve env).map fun s => s.config.scope) = .ok (.text "") ∧
      ((args.resolve (env.without ["ODATA_SCOPE"])).map fun s => s.config.scope) =
        .ok (.text "api/read") ∧
      (args.resolve (env.without ["ODATA_SCOPE"])).map Settings.config ≠
        (args.resolve env).map Settings.config := by
  intro env args
  have hscope : ((args.resolve env).map fun s => s.config.scope) = .ok (.text "") := rfl
  have hdefault : ((args.resolve (env.without ["ODATA_SCOPE"])).map fun s => s.config.scope) =
      .ok (.text "api/read") := rfl
  refine ⟨by decide, hscope, hdefault, fun hsame => ?_⟩
  have hscopes : (.ok (.text "api/read") : Except Failure Value) = .ok (.text "") :=
    congrArg (·.map Config.scope) hsame
  simp at hscopes

end Overrides

end OData
