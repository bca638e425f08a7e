import OData.Proofs.Paging.Request

/-!
# One step of a walk

After a page, a walk ends, is led to the next page, or fails.

* **Handing over** (`hand_eq_next_iff`): when a page is handed on.
* **Leading on** (`onward_eq_follow_iff`): which links lead on.
* **The loop** (`follow_of_done`, `follow_of_stop`, `follow_of_refuse`, `follow_of_page`,
  `follow_of_failure`): what `follow` does in each case, so that later proofs need not open it.
-/

namespace OData

variable {σ : Type}

/-! ## Handing over and leading on -/

/-- The limit that a number of pages sets, or no limit. -/
def limitOf (pages : Option Int) : Value :=
  pages.elim .null .int

/-- A limit is reached once as many pages were handed out. -/
theorem limitReached_limitOf (pages : Option Int) (count : Nat) :
    limitReached (limitOf pages) count = .ok (pages.any fun n : Int => n ≤ count) := by
  cases pages <;> rfl

/-- A page without records is passed over. -/
theorem hand_of_not_truthy {page : Members} (h : (Payload.results (.object page)).truthy = false)
    (reader : σ → Value → Verdict σ) (limit : Value) (state : σ) (count : Nat) :
    hand reader limit state count page = .next state count := by
  unfold hand
  simp [h]

/-- A page with records goes to the reader, and the limit is looked at after it. -/
theorem hand_of_truthy {page : Members} (h : (Payload.results (.object page)).truthy = true)
    (reader : σ → Value → Verdict σ) (limit : Value) (state : σ) (count : Nat) :
    hand reader limit state count page =
      match reader state (Payload.results (.object page)) with
      | .more state =>
        match limitReached limit (count + 1) with
        | .ok true => .done ⟨state, .exhausted⟩
        | .ok false => .next state (count + 1)
        | .error cause => .done ⟨state, .failed (.argument cause)⟩
      | .enough state => .done ⟨state, .satisfied⟩
      | .refuse cause => .done ⟨state, .failed (.argument cause)⟩ := by
  unfold hand
  exact if_pos h

/-- A page is handed on if it holds no records, or if the reader takes them and the limit is not
reached. -/
theorem hand_eq_next_iff {reader : σ → Value → Verdict σ} {pages : Option Int} {state next : σ}
    {count handed : Nat} {page : Members} :
    hand reader (limitOf pages) state count page = .next next handed ↔
      ((Payload.results (.object page)).truthy = false ∧ next = state ∧ handed = count) ∨
      ((Payload.results (.object page)).truthy = true ∧
        reader state (Payload.results (.object page)) = .more next ∧
        (∀ n ∈ pages, ((count + 1 : Nat) : Int) < n) ∧ handed = count + 1) := by
  cases h : (Payload.results (.object page)).truthy with
  | false =>
    rw [hand_of_not_truthy h]
    simp [eq_comm]
  | true =>
    rw [hand_of_truthy h, limitReached_limitOf]
    cases reader state (Payload.results (.object page)) with
    | more taken =>
      by_cases hlimit : ∀ n ∈ pages, ((count + 1 : Nat) : Int) < n
      · have hany : (pages.any fun n : Int => n ≤ ((count + 1 : Nat) : Int)) = false := by
          cases pages <;> simp_all
        rw [hany, eq_true hlimit]
        simp [eq_comm]
      · have hany : (pages.any fun n : Int => n ≤ ((count + 1 : Nat) : Int)) = true := by
          cases pages <;> simp_all
        rw [hany, eq_false hlimit]
        simp
    | enough taken => simp
    | refuse cause => simp

/-- A link leads on if it is a text that is not empty and was not followed before. -/
theorem onward_eq_follow_iff {seen : List String} {v : Value} {link : String} :
    onward seen v = .follow link ↔ v = .text link ∧ link ≠ "" ∧ link ∉ seen := by
  unfold onward
  constructor
  · intro h
    split at h
    · rename_i htruthy
      split at h
      · split at h
        · cases h
        · rename_i hseen
          cases h
          exact ⟨rfl, by simpa [Value.truthy] using htruthy, by simpa using hseen⟩
      · cases h
      · cases h
      · cases h
    · cases h
  · rintro ⟨rfl, hempty, hseen⟩
    simp [Value.truthy, hempty, hseen]

/-- A walk ends at a page without a link, and at one whose link was followed before. -/
theorem onward_eq_stop {seen : List String} {link : Option String}
    (h : ∀ s, link = some s → s = "" ∨ s ∈ seen) : onward seen (link.elim .null .text) = .stop := by
  cases link with
  | none => rfl
  | some s =>
    rcases h s rfl with rfl | hseen
    · rfl
    · unfold onward
      split
      · simp [hseen]
      · rfl

namespace Client

variable {c : Client} {reader : σ → Value → Verdict σ} {limit : Value} {state next : σ}
  {count handed : Nat} {seen : List String} {members : Members} {net : Network}

/-! ## Following -/

/-- A walk that ends at a page asks for no other. -/
theorem follow_of_done {walk : Walk σ} (h : hand reader limit state count members = .done walk) :
    c.follow reader limit state count seen members net = (walk, net) := by
  rw [follow, h]

/-- A walk that nothing leads on is exhausted. -/
theorem follow_of_stop (h : hand reader limit state count members = .next next handed)
    (honward : onward seen (Payload.nextLink (.object members)) = .stop) :
    c.follow reader limit state count seen members net = (⟨next, .exhausted⟩, net) := by
  rw [follow, h]
  simp only [honward]

/-- A walk that is led to no link fails without asking. -/
theorem follow_of_refuse {cause : Fault}
    (h : hand reader limit state count members = .next next handed)
    (honward : onward seen (Payload.nextLink (.object members)) = .refuse cause) :
    c.follow reader limit state count seen members net =
      (⟨next, .failed (.argument cause)⟩, net) := by
  rw [follow, h]
  simp only [honward]

/-- A walk that is led on goes on from the page that arrives. -/
theorem follow_of_page {link : String} {arrived : Members}
    (h : hand reader limit state count members = .next next handed)
    (honward : onward seen (Payload.nextLink (.object members)) = .follow link)
    (hpage : (c.page link net).1 = .ok arrived) :
    c.follow reader limit state count seen members net =
      c.follow reader limit next handed (link :: seen) arrived (c.page link net).2 := by
  rw [follow, h]
  simp only [honward]
  split
  · rename_i heq
    rw [heq] at hpage
    cases hpage
  · rename_i heq
    rw [heq] at hpage ⊢
    cases hpage
    rfl

/-- A walk that is led on fails if no page arrives. -/
theorem follow_of_failure {link : String} {failure : Failure}
    (h : hand reader limit state count members = .next next handed)
    (honward : onward seen (Payload.nextLink (.object members)) = .follow link)
    (hpage : (c.page link net).1 = .error failure) :
    c.follow reader limit state count seen members net =
      (⟨next, .failed failure⟩, (c.page link net).2) := by
  rw [follow, h]
  simp only [honward]
  split
  · rename_i heq
    rw [heq] at hpage ⊢
    cases hpage
    rfl
  · rename_i heq
    rw [heq] at hpage
    cases hpage

/-! ## Starting -/

variable {q : Query} {endpoint : String}

/-- A walk starts from the page of the query. -/
theorem walk_of_page (haddress : q.address = .ok endpoint)
    (hpage : (c.page endpoint net).1 = .ok members) :
    c.walk q reader limit state net =
      c.follow reader limit state 0 [] members (c.page endpoint net).2 := by
  unfold walk execute
  rcases hn : c.page endpoint net with ⟨result, after⟩
  rw [hn] at hpage
  cases hpage
  simp only [haddress, hn]

/-- A walk fails if the page of the query does not arrive. -/
theorem walk_of_failure {failure : Failure} (haddress : q.address = .ok endpoint)
    (hpage : (c.page endpoint net).1 = .error failure) :
    c.walk q reader limit state net = (⟨state, .failed failure⟩, (c.page endpoint net).2) := by
  unfold walk execute
  rcases hn : c.page endpoint net with ⟨result, after⟩
  rw [hn] at hpage
  cases hpage
  simp only [haddress, hn]

/-- A walk for a query without an address fails without asking. -/
theorem walk_of_no_address {cause : Fault} (haddress : q.address = .error cause) :
    c.walk q reader limit state net = (⟨state, .failed (.argument cause)⟩, net) := by
  unfold walk execute
  simp only [haddress]

/-- Reading all records leaves the network as the walk leaves it. -/
theorem readAll_snd (c : Client) (q : Query) (limit : Value) (net : Network) :
    (c.readAll q limit net).2 = (c.walk q keepRecords limit [] net).2 := by
  unfold readAll
  rcases c.walk q keepRecords limit [] net with ⟨⟨records, ending⟩, after⟩
  cases ending <;> rfl

end Client

end OData
