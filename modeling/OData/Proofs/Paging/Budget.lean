import OData.Proofs.Paging.Step

/-!
# A limit on pages as a limit on requests

A limit on the pages handed out does not limit the pages asked for, since a page without records is
asked for and not handed out.

* **When it is one** (`asked_le_iff`): a walk with a limit of `n` asks for at most `n` pages unless
  `n` pages arrive of which each leads on and some holds no records.
* **From a page on** (`asked_add_lt_follow_iff`): how many more pages are asked for, by the pages
  that lead on (`Overrun`).
* **A page without records** (`asked_of_empty_page`): one page more is asked for than the limit
  says.
-/

namespace OData

variable {σ : Type}

/-! ## Pages that lead on -/

/-- Whether each of the pages links on: to a text that is not empty and that was not followed
before. -/
def LeadOn : List String → List Members → Prop
  | _, [] => True
  | seen, page :: rest => ∃ link, Payload.nextLink (.object page) = .text link ∧ link ≠ "" ∧
      link ∉ seen ∧ LeadOn (link :: seen) rest

/-- Whether a page holds records. -/
def holdsRecords (page : Members) : Bool :=
  (Payload.results (.object page)).truthy

/-- Whether a reader takes records exactly if they are acceptable, in whatever state it is, and
never has enough. -/
def Takes (reader : σ → Value → Verdict σ) (accepts : Value → Prop) : Prop :=
  ∀ state v, (∃ next, reader state v = .more next) ↔ accepts v

/-- The reader of pages takes everything. -/
theorem takes_keepPages : Takes (Client.keepPages none) fun _ => True := by
  intro pages page
  exact ⟨fun _ => trivial, fun _ => ⟨pages ++ [page], rfl⟩⟩

/-- The reader of records takes what can be walked through. -/
theorem takes_keepRecords :
    Takes Client.keepRecords fun v => ∃ items, v.elements = .ok items := by
  intro records page
  unfold Client.keepRecords
  cases h : page.elements with
  | error cause => simp [h]
  | ok items => simp [h]

/-- Whether the reader takes the records of a page, if it holds any. -/
def Accepted (accepts : Value → Prop) (page : Members) : Prop :=
  holdsRecords page = true → accepts (Payload.results (.object page))

variable {reader : σ → Value → Verdict σ} {accepts : Value → Prop} {n count : Nat} {state : σ}
  {seen : List String} {page : Members}

/-- A page is handed on with its records counted if the reader accepts it and the limit is not
reached, and otherwise the walk ends there. -/
theorem exists_hand_eq_next_iff (htakes : Takes reader accepts) (hcount : count < n)
    {handed : Nat} :
    (∃ next, hand reader (.int n) state count page = .next next handed) ↔
      handed = count + [page].countP holdsRecords ∧ handed < n ∧ Accepted accepts page := by
  have hnext (next : σ) : hand reader (.int n) state count page = .next next handed ↔ _ :=
    @hand_eq_next_iff _ _ (some (n : Int)) _ _ _ _ _
  simp only [hnext]
  unfold Accepted
  cases hholds : holdsRecords page with
  | false =>
    have hzero : [page].countP holdsRecords = 0 := by simp [hholds]
    rw [hzero]
    constructor
    · rintro ⟨next, ⟨-, -, rfl⟩ | ⟨htrue, -⟩⟩
      · exact ⟨rfl, hcount, fun h => nomatch h⟩
      · exact absurd (hholds.symm.trans htrue) (by decide)
    · rintro ⟨heq, -, -⟩
      exact ⟨state, Or.inl ⟨hholds, rfl, heq⟩⟩
  | true =>
    have hone : [page].countP holdsRecords = 1 := by simp [hholds]
    rw [hone]
    constructor
    · rintro ⟨next, ⟨hfalse, -⟩ | ⟨-, hmore, hlimit, rfl⟩⟩
      · exact absurd (hholds.symm.trans hfalse) (by decide)
      · have hbelow := hlimit n rfl
        exact ⟨rfl, by omega, fun _ => (htakes state _).1 ⟨next, hmore⟩⟩
    · rintro ⟨rfl, hbelow, haccepted⟩
      obtain ⟨next, hmore⟩ := (htakes state _).2 (haccepted rfl)
      refine ⟨next, Or.inr ⟨hholds, hmore, ?_, rfl⟩⟩
      intro m hm
      obtain rfl : (n : Int) = m := Option.some.inj hm
      omega

/-- Whether a page that is met after `count` pages with records leads on to `link`: the link is
fresh, the records are accepted and the limit is not reached. -/
structure Passes (accepts : Value → Prop) (n count : Nat) (seen : List String) (page : Members)
    (link : String) : Prop where
  /-- The link is that of the page. -/
  link_eq : Payload.nextLink (.object page) = .text link
  /-- It is not empty. -/
  ne_empty : link ≠ ""
  /-- It was not followed before. -/
  fresh : link ∉ seen
  /-- The records are accepted. -/
  accepted : Accepted accepts page
  /-- The limit is not reached. -/
  within : count + [page].countP holdsRecords < n

/-- A walk follows a link exactly if the page passes. -/
theorem passes_iff (htakes : Takes reader accepts) (hcount : count < n) (state : σ)
    {link : String} :
    Passes accepts n count seen page link ↔
      (∃ next, hand reader (.int n) state count page =
        .next next (count + [page].countP holdsRecords)) ∧
      onward seen (Payload.nextLink (.object page)) = .follow link := by
  rw [exists_hand_eq_next_iff htakes hcount, onward_eq_follow_iff]
  constructor
  · intro h
    exact ⟨⟨rfl, h.within, h.accepted⟩, h.link_eq, h.ne_empty, h.fresh⟩
  · rintro ⟨⟨-, hwithin, haccepted⟩, hlink, hempty, hfresh⟩
    exact ⟨hlink, hempty, hfresh, haccepted, hwithin⟩

/-! ## What a walk asks for -/

namespace Client

/-- Pages after `page` that are served, each led to by the one before it, and of which the last
leads on to one more request. -/
structure Overrun (c : Client) (accepts : Value → Prop) (n count : Nat) (seen : List String)
    (page : Members) (net : Network) (rest : List Members) : Prop where
  /-- The next answers hold the pages. -/
  served : c.Served net rest
  /-- Every page leads on. -/
  lead : LeadOn seen (page :: rest)
  /-- The records of every page are accepted. -/
  accepted : ∀ p ∈ page :: rest, Accepted accepts p
  /-- The limit is not reached. -/
  within : count + (page :: rest).countP holdsRecords < n

variable {c : Client} {net : Network}

/-- One page overruns if it leads on to a request that is authorized. -/
theorem overrun_nil_iff : c.Overrun accepts n count seen page net [] ↔
    (∃ link, Passes accepts n count seen page link) ∧
      ∃ header, (c.authenticator.authorize net).1 = .ok header := by
  constructor
  · intro h
    obtain ⟨link, hlink, hempty, hfresh, -⟩ := h.lead
    have haccepted := h.accepted page List.mem_cons_self
    exact ⟨⟨link, hlink, hempty, hfresh, haccepted, h.within⟩, served_nil_iff.1 h.served⟩
  · rintro ⟨⟨link, hpasses⟩, hauthorized⟩
    refine ⟨served_nil_iff.2 hauthorized, ?_, ?_, hpasses.within⟩
    · exact ⟨link, hpasses.link_eq, hpasses.ne_empty, hpasses.fresh, trivial⟩
    · intro p hp
      obtain rfl := List.mem_singleton.1 hp
      exact hpasses.accepted

/-- More pages overrun if the first leads on to the next, which arrives, and that one and the others
overrun. -/
theorem overrun_cons_iff {next : Members} {rest : List Members} :
    c.Overrun accepts n count seen page net (next :: rest) ↔
      ∃ link, Passes accepts n count seen page link ∧ (c.page link net).1 = .ok next ∧
        c.Overrun accepts n (count + [page].countP holdsRecords) (link :: seen) next
          (c.page link net).2 rest := by
  have hsum : count + (page :: next :: rest).countP holdsRecords =
      count + [page].countP holdsRecords + (next :: rest).countP holdsRecords := by
    rw [List.countP_cons, List.countP_cons (l := []), List.countP_nil]
    omega
  constructor
  · intro h
    obtain ⟨link, hlink, hempty, hfresh, hlead⟩ := h.lead
    obtain ⟨hpage, hserved⟩ := (served_cons_iff link).1 h.served
    have hwithin := h.within
    rw [hsum] at hwithin
    have haccepted := h.accepted page List.mem_cons_self
    have hbelow : count + [page].countP holdsRecords < n :=
      Nat.lt_of_le_of_lt (Nat.le_add_right _ _) hwithin
    exact ⟨link, ⟨hlink, hempty, hfresh, haccepted, hbelow⟩, hpage, hserved, hlead,
      fun p hp => h.accepted p (List.mem_cons_of_mem page hp), hwithin⟩
  · rintro ⟨link, hpasses, hpage, h⟩
    refine ⟨(served_cons_iff link).2 ⟨hpage, h.served⟩, ?_, ?_, ?_⟩
    · exact ⟨link, hpasses.link_eq, hpasses.ne_empty, hpasses.fresh, h.lead⟩
    · intro p hp
      rcases List.mem_cons.1 hp with rfl | hp
      · exact hpasses.accepted
      · exact h.accepted p hp
    · rw [hsum]
      exact h.within

/-- A walk asks for no fewer pages than it has asked for. -/
theorem length_asked_le_follow (c : Client) (reader : σ → Value → Verdict σ) (limit : Value)
    (state : σ) (count : Nat) (seen : List String) (page : Members) (net : Network) :
    net.asked.length ≤ (c.follow reader limit state count seen page net).2.asked.length := by
  have hpage {link : String} {net after : Network} {result : Except Failure Members}
      (h : c.page link net = (result, after)) : net.asked.length ≤ after.asked.length := by
    have hasked := c.asked_page link net
    rw [h] at hasked
    rcases hasked with hasked | hasked <;> simp [hasked]
  fun_induction c.follow reader limit state count seen page net with
  | case1 => exact Nat.le_refl _
  | case2 => exact Nat.le_refl _
  | case3 => exact Nat.le_refl _
  | case4 =>
    rename_i harrived
    exact hpage harrived
  | case5 =>
    rename_i harrived ih
    exact Nat.le_trans (hpage harrived) ih

/-- A walk asks for no page after one that does not pass. -/
theorem follow_of_not_passes (htakes : Takes reader accepts) (hcount : count < n)
    (h : ∀ link, ¬ Passes accepts n count seen page link) :
    (c.follow reader (.int n) state count seen page net).2 = net := by
  cases hhand : hand reader (.int n) state count page with
  | done walk => rw [follow_of_done hhand]
  | next next handed =>
    cases honward : onward seen (Payload.nextLink (.object page)) with
    | stop => rw [follow_of_stop hhand honward]
    | refuse cause => rw [follow_of_refuse hhand honward]
    | follow link =>
      obtain ⟨rfl, -⟩ := (exists_hand_eq_next_iff htakes hcount).1 ⟨next, hhand⟩
      exact absurd ((passes_iff htakes hcount state).2 ⟨⟨next, hhand⟩, honward⟩) (h link)

/-- After a page that passes, a walk goes on from the page that arrives. -/
theorem follow_of_passes (htakes : Takes reader accepts) (hcount : count < n) {link : String}
    (h : Passes accepts n count seen page link) (state : σ) (net : Network) :
    ∃ next, ∀ arrived, (c.page link net).1 = .ok arrived →
      c.follow reader (.int n) state count seen page net =
        c.follow reader (.int n) next (count + [page].countP holdsRecords) (link :: seen) arrived
          (c.page link net).2 := by
  obtain ⟨⟨next, hhand⟩, honward⟩ := (passes_iff htakes hcount state).1 h
  exact ⟨next, fun arrived harrived => follow_of_page hhand honward harrived⟩

/-- After a page that passes, a walk ends if no page arrives. -/
theorem follow_of_passes_of_failure (htakes : Takes reader accepts) (hcount : count < n)
    {link : String} (h : Passes accepts n count seen page link) {failure : Failure}
    (hpage : (c.page link net).1 = .error failure) :
    (c.follow reader (.int n) state count seen page net).2 = (c.page link net).2 := by
  obtain ⟨⟨next, hhand⟩, honward⟩ := (passes_iff htakes hcount state).1 h
  rw [follow_of_failure hhand honward hpage]

/-- A walk that no page carries on asks for one page at most. -/
theorem length_asked_follow_le (htakes : Takes reader accepts) (hcount : count < n) (state : σ)
    (h : ∀ link next, Passes accepts n count seen page link → (c.page link net).1 ≠ .ok next) :
    (c.follow reader (.int n) state count seen page net).2.asked.length ≤ net.asked.length + 1 := by
  by_cases hpass : ∃ link, Passes accepts n count seen page link
  · obtain ⟨link, hpasses⟩ := hpass
    cases harrived : (c.page link net).1 with
    | error failure =>
      rw [follow_of_passes_of_failure htakes hcount hpasses harrived]
      rcases c.asked_page link net with hasked | hasked <;> simp [hasked]
    | ok next => exact absurd harrived (h link next hpasses)
  · rw [follow_of_not_passes htakes hcount fun link hpasses => hpass ⟨link, hpasses⟩]
    exact Nat.le_succ _

/-- A walk asks for a page after the one that it has exactly if that one overruns. -/
theorem asked_lt_follow_iff (htakes : Takes reader accepts) (hcount : count < n) :
    net.asked.length < (c.follow reader (.int n) state count seen page net).2.asked.length ↔
      c.Overrun accepts n count seen page net [] := by
  rw [overrun_nil_iff]
  by_cases hpass : ∃ link, Passes accepts n count seen page link
  · obtain ⟨link, hpasses⟩ := hpass
    cases hauthorized : (c.authenticator.authorize net).1 with
    | error failure =>
      have hpage := page_of_refused hauthorized link
      have hfailure : (c.page link net).1 = .error failure := by rw [hpage]
      rw [follow_of_passes_of_failure htakes hcount hpasses hfailure, hpage,
        c.authenticator.asked_authorize]
      simp
    | ok header =>
      have hasked := (page_of_authorized hauthorized link).2.asked
      have hmore : net.asked.length < (c.page link net).2.asked.length := by simp [hasked]
      refine ⟨fun _ => ⟨⟨link, hpasses⟩, header, rfl⟩, fun _ => ?_⟩
      cases harrived : (c.page link net).1 with
      | error failure => rwa [follow_of_passes_of_failure htakes hcount hpasses harrived]
      | ok arrived =>
        obtain ⟨next, hfollow⟩ := follow_of_passes htakes hcount hpasses state net
        rw [hfollow arrived harrived]
        exact Nat.lt_of_lt_of_le hmore (length_asked_le_follow ..)
  · rw [follow_of_not_passes htakes hcount fun link h => hpass ⟨link, h⟩]
    exact ⟨fun h => absurd h (Nat.lt_irrefl _), fun h => absurd h.1 hpass⟩

/-- **What a walk asks for.** From a page on, a walk asks for more than `m` others exactly if there
are `m` pages that arrive and overrun. -/
theorem asked_add_lt_follow_iff (htakes : Takes reader accepts) (m : Nat) (hcount : count < n) :
    net.asked.length + m <
        (c.follow reader (.int n) state count seen page net).2.asked.length ↔
      ∃ rest, rest.length = m ∧ c.Overrun accepts n count seen page net rest := by
  induction m generalizing state count seen page net with
  | zero =>
    rw [Nat.add_zero, asked_lt_follow_iff htakes hcount]
    constructor
    · intro h
      exact ⟨[], rfl, h⟩
    · rintro ⟨rest, hlength, h⟩
      obtain rfl := List.length_eq_zero_iff.1 hlength
      exact h
  | succ m ih =>
    have hcons : (∃ rest, rest.length = m + 1 ∧ c.Overrun accepts n count seen page net rest) ↔
        ∃ next rest, rest.length = m ∧ c.Overrun accepts n count seen page net (next :: rest) := by
      constructor
      · rintro ⟨rest, hlength, h⟩
        obtain ⟨next, rest, rfl⟩ := List.exists_cons_of_length_eq_add_one hlength
        exact ⟨next, rest, Nat.succ.inj hlength, h⟩
      · rintro ⟨next, rest, rfl, h⟩
        exact ⟨next :: rest, rfl, h⟩
    rw [hcons]
    by_cases hpass : ∃ link next, Passes accepts n count seen page link ∧
        (c.page link net).1 = .ok next
    · obtain ⟨link, arrived, hpasses, harrived⟩ := hpass
      obtain ⟨next, hfollow⟩ := follow_of_passes htakes hcount hpasses state net
      obtain ⟨⟨header, hheader⟩, -⟩ := page_eq_ok_iff.1 harrived
      have hasked := (page_of_authorized hheader link).2.asked
      have hlength : (c.page link net).2.asked.length = net.asked.length + 1 := by simp [hasked]
      rw [hfollow arrived harrived, show net.asked.length + (m + 1) =
        (c.page link net).2.asked.length + m by omega, ih hpasses.within]
      constructor
      · rintro ⟨rest, hrest, h⟩
        exact ⟨arrived, rest, hrest, overrun_cons_iff.2 ⟨link, hpasses, harrived, h⟩⟩
      · rintro ⟨other, rest, hrest, h⟩
        obtain ⟨link', hpasses', harrived', h⟩ := overrun_cons_iff.1 h
        obtain rfl : link' = link :=
          Value.text.inj (hpasses'.link_eq.symm.trans hpasses.link_eq)
        obtain rfl : other = arrived := Except.ok.inj (harrived'.symm.trans harrived)
        exact ⟨rest, hrest, h⟩
    · constructor
      · intro hlt
        have hatmost := length_asked_follow_le htakes hcount state
          fun link next hpasses harrived => hpass ⟨link, next, hpasses, harrived⟩
        omega
      · rintro ⟨next, rest, -, h⟩
        obtain ⟨link, hpasses, harrived, -⟩ := overrun_cons_iff.1 h
        exact absurd ⟨link, next, hpasses, harrived⟩ hpass

/-! ## The limit -/

/-- Pages of which each leads on, the last of them to one more request, and some holds no records.
-/
structure Exceeds (c : Client) (q : Query) (net : Network) (accepts : Value → Prop)
    (pages : List Members) : Prop where
  /-- The query has an address. -/
  address : ∃ endpoint, q.address = .ok endpoint
  /-- The next answers hold the pages. -/
  served : c.Served net pages
  /-- Every page leads on. -/
  lead : LeadOn [] pages
  /-- The records of every page are accepted. -/
  accepted : ∀ p ∈ pages, Accepted accepts p
  /-- Some page holds no records. -/
  empty : ∃ p ∈ pages, holdsRecords p = false

/-- Some page holds no records if fewer hold records than there are. -/
theorem countP_lt_length_iff (pages : List Members) :
    pages.countP holdsRecords < pages.length ↔ ∃ p ∈ pages, holdsRecords p = false := by
  have hall := List.countP_eq_length (p := holdsRecords) (l := pages)
  have hle : pages.countP holdsRecords ≤ pages.length := List.countP_le_length
  constructor
  · intro hlt
    by_cases hsome : ∃ p ∈ pages, holdsRecords p = false
    · exact hsome
    · have hevery : ∀ p ∈ pages, holdsRecords p = true := by
        intro p hp
        cases h : holdsRecords p with
        | true => rfl
        | false => exact absurd ⟨p, hp, h⟩ hsome
      have heq := hall.2 hevery
      omega
  · rintro ⟨p, hp, hfalse⟩
    apply Nat.lt_of_le_of_ne hle
    intro heq
    exact absurd ((hall.1 heq p hp).symm.trans hfalse) (by decide)

variable {q : Query}

/-- Pages exceed a limit if the first arrives, and it and the others overrun. -/
theorem exceeds_cons_iff {endpoint : String} (haddress : q.address = .ok endpoint)
    {rest : List Members} :
    c.Exceeds q net accepts (page :: rest) ↔ (c.page endpoint net).1 = .ok page ∧
      c.Overrun accepts (rest.length + 1) 0 [] page (c.page endpoint net).2 rest := by
  have hwithin := countP_lt_length_iff (page :: rest)
  constructor
  · intro h
    obtain ⟨hpage, hserved⟩ := (served_cons_iff endpoint).1 h.served
    refine ⟨hpage, hserved, h.lead, h.accepted, ?_⟩
    rw [Nat.zero_add]
    exact hwithin.2 h.empty
  · rintro ⟨hpage, h⟩
    have hbelow := h.within
    rw [Nat.zero_add] at hbelow
    exact ⟨⟨endpoint, haddress⟩, (served_cons_iff endpoint).2 ⟨hpage, h.served⟩, h.lead, h.accepted,
      hwithin.1 hbelow⟩

/-- A walk with a limit asks for more pages than the limit exactly if there are as many pages that
exceed it. -/
theorem asked_add_lt_walk_iff (htakes : Takes reader accepts) (hn : 1 ≤ n) (state : σ) :
    net.asked.length + n < (c.walk q reader (.int n) state net).2.asked.length ↔
      ∃ pages, pages.length = n ∧ c.Exceeds q net accepts pages := by
  obtain ⟨m, rfl⟩ := Nat.exists_eq_add_of_le' hn
  cases haddress : q.address with
  | error cause =>
    rw [walk_of_no_address haddress]
    constructor
    · intro h
      change net.asked.length + (m + 1) < net.asked.length at h
      omega
    · rintro ⟨pages, -, h⟩
      obtain ⟨endpoint, hendpoint⟩ := h.address
      exact absurd (haddress.symm.trans hendpoint) (by simp)
  | ok endpoint =>
    cases harrived : (c.page endpoint net).1 with
    | error failure =>
      rw [walk_of_failure haddress harrived]
      constructor
      · intro h
        change net.asked.length + (m + 1) < (c.page endpoint net).2.asked.length at h
        have hatmost : (c.page endpoint net).2.asked.length ≤ net.asked.length + 1 := by
          rcases c.asked_page endpoint net with hasked | hasked <;> simp [hasked]
        omega
      · rintro ⟨pages, hlength, h⟩
        obtain ⟨page, rest, rfl⟩ := List.exists_cons_of_length_eq_add_one hlength
        have hpage := ((exceeds_cons_iff haddress).1 h).1
        exact absurd (harrived.symm.trans hpage) (by simp)
    | ok page =>
      obtain ⟨⟨header, hheader⟩, -⟩ := page_eq_ok_iff.1 harrived
      have hasked := (page_of_authorized hheader endpoint).2.asked
      have hlength : (c.page endpoint net).2.asked.length = net.asked.length + 1 := by
        simp [hasked]
      rw [walk_of_page haddress harrived, show net.asked.length + (m + 1) =
        (c.page endpoint net).2.asked.length + m by omega,
        asked_add_lt_follow_iff htakes m (Nat.succ_pos m)]
      constructor
      · rintro ⟨rest, rfl, h⟩
        exact ⟨page :: rest, rfl, (exceeds_cons_iff haddress).2 ⟨harrived, h⟩⟩
      · rintro ⟨pages, hpages, h⟩
        obtain ⟨first, rest, rfl⟩ := List.exists_cons_of_length_eq_add_one hpages
        obtain ⟨hfirst, hoverrun⟩ := (exceeds_cons_iff haddress).1 h
        obtain rfl : first = page := Except.ok.inj (hfirst.symm.trans harrived)
        obtain rfl : rest.length = m := Nat.succ.inj hpages
        exact ⟨rest, rfl, hoverrun⟩

/-- **How far a limit on pages limits requests.** With a limit of `n`, walking through the pages of
a query and reading all of its records ask for at most `n` pages, unless the first `n` answers hold
pages of which each leads on and some holds no records. Then they ask for more. -/
theorem asked_le_iff (c : Client) (q : Query) (net : Network) {n : Nat} (hn : 1 ≤ n) :
    ((c.iterate q (.int n) none net).2.asked.length ≤ net.asked.length + n ↔
      ¬ ∃ pages, pages.length = n ∧ c.Exceeds q net (fun _ => True) pages) ∧
    ((c.readAll q (.int n) net).2.asked.length ≤ net.asked.length + n ↔
      ¬ ∃ pages, pages.length = n ∧
        c.Exceeds q net (fun v => ∃ items, v.elements = .ok items) pages) := by
  constructor
  · have hiterate : c.iterate q (.int n) none net = c.walk q (keepPages none) (.int n) [] net := rfl
    rw [hiterate, ← asked_add_lt_walk_iff takes_keepPages hn [], Nat.not_lt]
  · rw [readAll_snd, ← asked_add_lt_walk_iff takes_keepRecords hn [], Nat.not_lt]

/-- A first page with records, of which the limit allows one. -/
theorem asked_le_of_first_page :
    let c : Client := ⟨"https://api.example.com/odata/", .text "key-123", 60.0, .bool true,
      .bearer (.text "tok"), 0⟩
    let q := Query.ofBase (.text "Property/")
    let net := Network.ofAnswers [
      .document "\x7b\x22value\x22: [1], \x22@odata.nextLink\x22: \x22https://x/2\x22\x7d"] []
    (c.iterate q (.int 1) none net).2.asked.length ≤ net.asked.length + 1 ∧
      (c.readAll q (.int 1) net).2.asked.length ≤ net.asked.length + 1 := by
  intro c q net
  have hfirst : (Answer.document
      "\x7b\x22value\x22: [1], \x22@odata.nextLink\x22: \x22https://x/2\x22\x7d").page? =
      some [("value", .list [.int 1]), ("@odata.nextLink", .text "https://x/2")] :=
    Answer.page?_document (by decide +kernel)
  have hnone (accepts : Value → Prop) :
      ¬ ∃ pages : List Members, pages.length = 1 ∧ c.Exceeds q net accepts pages := by
    rintro ⟨pages, hlength, hexceeds⟩
    obtain ⟨page, rfl⟩ := List.length_eq_one_iff.1 hlength
    have hpage : (some [("value", .list [.int 1]), ("@odata.nextLink", .text "https://x/2")] :
        Option Members) = some page :=
      hfirst.symm.trans (List.cons.inj hexceeds.served.answered).1
    obtain ⟨p, hp, hempty⟩ := hexceeds.empty
    obtain rfl := List.mem_singleton.1 hp
    cases hpage
    exact absurd hempty (by decide)
  have hbound := asked_le_iff c q net (Nat.le_refl 1)
  exact ⟨hbound.1.2 (hnone _), hbound.2.2 (hnone _)⟩

/-- A first page without records and with a link, after which another is asked for although the
limit allows one. -/
theorem asked_of_empty_page :
    let c : Client := ⟨"https://api.example.com/odata/", .text "key-123", 60.0, .bool true,
      .bearer (.text "tok"), 0⟩
    let q := Query.ofBase (.text "Property/")
    let net := Network.ofAnswers [
      .document "\x7b\x22value\x22: [], \x22@odata.nextLink\x22: \x22https://x/2\x22\x7d",
      .document "\x7b\x22value\x22: [2]\x7d"] []
    ¬ (c.iterate q (.int 1) none net).2.asked.length ≤ net.asked.length + 1 ∧
      ¬ (c.readAll q (.int 1) net).2.asked.length ≤ net.asked.length + 1 := by
  intro c q net
  have hfirst : (Answer.document
      "\x7b\x22value\x22: [], \x22@odata.nextLink\x22: \x22https://x/2\x22\x7d").page? =
      some [("value", .list []), ("@odata.nextLink", .text "https://x/2")] :=
    Answer.page?_document (by decide +kernel)
  have hexceeds (accepts : Value → Prop) : c.Exceeds q net accepts
      [[("value", .list []), ("@odata.nextLink", .text "https://x/2")]] := by
    refine ⟨⟨"Property", rfl⟩, ⟨fun i _ => ⟨"Bearer tok", rfl⟩, ?_⟩, ?_, ?_, ?_⟩
    · exact congrArg (fun page => [page]) hfirst
    · exact ⟨"https://x/2", rfl, by decide, List.not_mem_nil, trivial⟩
    · intro p hp hfilled
      obtain rfl := List.mem_singleton.1 hp
      exact absurd hfilled (by decide)
    · exact ⟨_, List.mem_singleton_self _, rfl⟩
  have hiterate := (asked_add_lt_walk_iff takes_keepPages (Nat.le_refl 1) []).2
    ⟨_, rfl, hexceeds _⟩
  have hreadAll := (asked_add_lt_walk_iff takes_keepRecords (Nat.le_refl 1) []).2
    ⟨_, rfl, hexceeds _⟩
  rw [← readAll_snd] at hreadAll
  exact ⟨Nat.not_le.2 hiterate, Nat.not_le.2 hreadAll⟩

end Client

end OData
