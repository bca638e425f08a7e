import OData.Proofs.Client.Explanation
import OData.Proofs.Paging.Budget
import OData.Proofs.Paging.Propagation

/-!
# What a run makes of its pages

A run asks for pages up to one that leads to no other (`Whole`), or pages that all lead on
(`Unfinished`) until a request fails.

* **All pages arrive** (`readAll_whole`): the pages alone decide what comes of a run.
* **A request fails** (`whole_or_failed_readAll`): if not all of them arrive, a run fails as the
  request after those that do.
* **An answer is given up** (`readAll_of_unfinished`): if that request gives up what it was answered
  (`Network.BreaksOff`), a run fails as if an argument had been refused.
-/

namespace OData

/-! ## Pages of a run -/

/-- Whether the next answers hold these pages, the requests for them being authorized. -/
structure Network.Delivers (net : Network) (authorization : List Answer → Except Failure String)
    (pages : List Members) : Prop where
  /-- The requests are authorized. -/
  authorized : ∀ i < pages.length, ∃ header, authorization (net.tokenAnswers.drop i) = .ok header
  /-- The answers hold the pages. -/
  answered : (net.dataAnswers.take pages.length).map Answer.page? = pages.map some

/-- Only the answers to come decide which pages are delivered. -/
theorem Network.delivers_congr {net other : Network} (hdata : other.dataAnswers = net.dataAnswers)
    (htokens : other.tokenAnswers = net.tokenAnswers)
    {authorization : List Answer → Except Failure String} {pages : List Members} :
    other.Delivers authorization pages ↔ net.Delivers authorization pages := by
  constructor
  · intro h
    exact ⟨htokens ▸ h.authorized, hdata ▸ h.answered⟩
  · intro h
    exact ⟨htokens.symm ▸ h.authorized, hdata.symm ▸ h.answered⟩

theorem Network.delivers_nil (net : Network) (authorization : List Answer → Except Failure String) :
    net.Delivers authorization [] :=
  ⟨fun i hi => absurd hi (Nat.not_lt_zero i), rfl⟩

/-- If pages are delivered, then the first of them is. -/
theorem Network.Delivers.first {net : Network}
    {authorization : List Answer → Except Failure String} {page : Members} {rest : List Members}
    (h : net.Delivers authorization (page :: rest)) : net.Delivers authorization [page] := by
  refine ⟨fun i hi => h.authorized i (by simp at hi ⊢; omega), ?_⟩
  have hanswered := h.answered
  cases hdata : net.dataAnswers with
  | nil => simp [hdata] at hanswered
  | cons a later =>
    rw [hdata, List.length_cons, List.take_succ_cons, List.map_cons, List.map_cons] at hanswered
    rw [List.length_singleton, List.take_succ_cons, List.take_zero, List.map_singleton]
    exact congrArg (fun page => [page]) (List.cons.inj hanswered).1

/-- Pages that are delivered are in answers to come. -/
theorem Network.Delivers.exists_answer {net : Network}
    {authorization : List Answer → Except Failure String} {pages : List Members}
    (h : net.Delivers authorization pages) {page : Members} (hpage : page ∈ pages) :
    ∃ a ∈ net.dataAnswers, a.page? = some page := by
  have hmem : some page ∈ (net.dataAnswers.take pages.length).map Answer.page? := by
    rw [h.answered]
    exact List.mem_map_of_mem hpage
  obtain ⟨a, ha, hanswer⟩ := List.mem_map.1 hmem
  exact ⟨a, List.mem_of_mem_take ha, hanswer⟩

/-- Whether a response is given up: it reports an error of which nothing can be said, or its body is
nested too deep. -/
def Response.GivenUp (r : Response) : Prop :=
  400 ≤ r.status ∧ ¬ r.Explicable ∨
    r.status < 400 ∧ ∃ isObject, Json.decodeBytes r.body = .error (.tooDeep isObject)

/-- A response that holds a page is not given up. -/
theorem Response.not_givenUp_of_page {r : Response} {page : Members}
    (h : (Answer.response r).page? = some page) : ¬ r.GivenUp := by
  rw [Answer.page?] at h
  rintro (⟨hstatus, -⟩ | ⟨hstatus, isObject, hread⟩)
  · rw [if_pos hstatus] at h
    cases h
  · rw [if_neg (Int.not_le.2 hstatus), Payload.decode,
      Payload.ofDocument_eq_malformed_iff.2 hread] at h
    cases h

/-- Whether a request gives an answer up, by how it is authorized and by the answer that is to come:
the one to its request for a token, or, if it is authorized, the response with the data. -/
inductive GivesUp (authorized : Except Failure String) (answer : Option Answer) : Prop where
  /-- The answer for a token is given up. -/
  | token {cause : Fault} (h : authorized = .error (.argument cause)) : GivesUp authorized answer
  /-- The response is given up. -/
  | response {header : String} {r : Response} (hauthorized : authorized = .ok header)
      (h : answer = some (.response r)) (hread : r.GivenUp) : GivesUp authorized answer

/-- Whether the next answers hold these pages and the request after them gives an answer up. -/
structure Network.BreaksOff (net : Network) (authorization : List Answer → Except Failure String)
    (pages : List Members) : Prop where
  /-- The pages are delivered. -/
  delivers : net.Delivers authorization pages
  /-- The request after them gives an answer up. -/
  givesUp : GivesUp (authorization (net.tokenAnswers.drop pages.length))
    net.dataAnswers[pages.length]?

/-- Only the answers to come decide where a run breaks off. -/
theorem Network.breaksOff_congr {net other : Network} (hdata : other.dataAnswers = net.dataAnswers)
    (htokens : other.tokenAnswers = net.tokenAnswers)
    {authorization : List Answer → Except Failure String} {pages : List Members} :
    other.BreaksOff authorization pages ↔ net.BreaksOff authorization pages := by
  constructor
  · intro h
    refine ⟨(delivers_congr hdata htokens).1 h.delivers, ?_⟩
    rw [← hdata, ← htokens]
    exact h.givesUp
  · intro h
    refine ⟨(delivers_congr hdata htokens).2 h.delivers, ?_⟩
    rw [hdata, htokens]
    exact h.givesUp

/-- Whether the reader of records takes a value. -/
def Walkable (v : Value) : Prop := ∃ items, v.elements = .ok items

/-- Pages of which each leads on to the next and the last to no other, when at most `n` with records
are taken. Before them `count` with records were met and the links `seen` were followed. -/
inductive Whole (n : Nat) : Nat → List String → List Members → Prop where
  /-- One page that leads nowhere. -/
  | last {count : Nat} {seen : List String} {page : Members}
      (h : ∀ link, ¬ Passes Walkable n count seen page link) : Whole n count seen [page]
  /-- A page that leads on, before others. -/
  | cons {count : Nat} {seen : List String} {page : Members} {rest : List Members} {link : String}
      (h : Passes Walkable n count seen page link)
      (hrest : Whole n (count + [page].countP holdsRecords) (link :: seen) rest) :
      Whole n count seen (page :: rest)

/-- Pages of which each leads on, the last one too. -/
inductive Unfinished (n : Nat) : Nat → List String → List Members → Prop where
  /-- No page. -/
  | nil {count : Nat} {seen : List String} : Unfinished n count seen []
  /-- A page that leads on, before others. -/
  | cons {count : Nat} {seen : List String} {page : Members} {rest : List Members} {link : String}
      (h : Passes Walkable n count seen page link)
      (hrest : Unfinished n (count + [page].countP holdsRecords) (link :: seen) rest) :
      Unfinished n count seen (page :: rest)

/-- The records of a page, none if they cannot be walked through. -/
def recordsOf (page : Members) : List Value :=
  (Payload.results (.object page)).elements.toOption.getD []

/-- Whether a page has something as its link that is no text. -/
def Mislinked (page : Members) : Prop :=
  (Payload.nextLink (.object page)).truthy = true ∧
    ∀ s, Payload.nextLink (.object page) ≠ .text s

/-- Whether pages, met after `count` with records, end a run with a failure: the records of one
cannot be walked through, or fewer than `n` hold records and the link of the last is no text. -/
def Halts (n count : Nat) (pages : List Members) : Prop :=
  (∃ page ∈ pages, ¬ Walkable (Payload.results (.object page))) ∨
    count + pages.countP holdsRecords < n ∧ ∃ last ∈ pages.getLast?, Mislinked last

variable {n count : Nat} {seen : List String} {page : Members} {rest pages : List Members}

theorem Whole.ne_nil (h : Whole n count seen pages) : pages ≠ [] := by
  cases h <;> exact List.cons_ne_nil _ _

/-- What stands for the records of a page counts as present, or is an empty list. -/
theorem results_of_not_holdsRecords (h : holdsRecords page = false) :
    Payload.results (.object page) = .list [] := by
  have horElse : ∃ v : Value, Payload.results (.object page) = v.orElse (.list []) := by
    rw [Payload.results]
    split <;> exact ⟨_, rfl⟩
  obtain ⟨v, hv⟩ := horElse
  unfold holdsRecords at h
  rw [hv] at h ⊢
  unfold Value.orElse at h ⊢
  split
  · rename_i htrue
    rw [if_pos htrue, htrue] at h
    cases h
  · rfl

/-- The records of a page that leads on can be walked through. -/
theorem Passes.walkable {link : String} (h : Passes Walkable n count seen page link) :
    Walkable (Payload.results (.object page)) := by
  cases hholds : holdsRecords page with
  | true => exact h.accepted hholds
  | false =>
    rw [results_of_not_holdsRecords hholds]
    exact ⟨[], rfl⟩

theorem halts_singleton_iff :
    Halts n count [page] ↔ ¬ Walkable (Payload.results (.object page)) ∨
      count + [page].countP holdsRecords < n ∧ Mislinked page := by
  simp [Halts]

/-- A page that leads on leaves it to those after it whether the run fails. -/
theorem halts_cons_iff {link : String} (h : Passes Walkable n count seen page link)
    (hrest : rest ≠ []) :
    Halts n count (page :: rest) ↔ Halts n (count + [page].countP holdsRecords) rest := by
  have hsum : count + (page :: rest).countP holdsRecords =
      count + [page].countP holdsRecords + rest.countP holdsRecords := by
    rw [← List.singleton_append, List.countP_append, Nat.add_assoc]
  have hlast : (page :: rest).getLast? = rest.getLast? := by
    obtain ⟨next, more, rfl⟩ := List.exists_cons_of_ne_nil hrest
    rfl
  have hwalkable : ¬ ¬ Walkable (Payload.results (.object page)) := not_not_intro h.walkable
  unfold Halts
  rw [hsum, hlast]
  simp only [List.mem_cons, exists_eq_or_imp, hwalkable, false_or]

/-! ## One step -/

/-- A link is refused exactly if it counts as present and is no text. -/
theorem exists_onward_refuse_iff {v : Value} :
    (∃ cause, onward seen v = .refuse cause) ↔ v.truthy = true ∧ ∀ s, v ≠ .text s := by
  unfold onward
  split
  · rename_i htruthy
    cases v with
    | text s =>
      simp only [htruthy, ne_eq, Value.text.injEq]
      split <;> simp
    | _ => simp [htruthy]
  · rename_i htruthy
    simp [htruthy]

/-- Whether a walk over records ends with a refusal if something is broken, and otherwise in good
order with the given records. -/
structure Concludes (walk : Walk (List Value)) (broken : Prop) (records : List Value) : Prop where
  /-- It fails. -/
  failed : broken → ∃ cause, walk.ending = .failed (.argument cause)
  /-- It does not. -/
  finished : ¬ broken → walk.state = records ∧ ∀ failure, walk.ending ≠ .failed failure

namespace Client

variable {c : Client} {net : Network} {records next : List Value}

/-- A page whose records cannot be walked through is refused. -/
theorem hand_of_not_walkable (h : ¬ Walkable (Payload.results (.object page))) (limit : Value)
    (records : List Value) (count : Nat) :
    ∃ cause, hand keepRecords limit records count page =
      .done ⟨records, .failed (.argument cause)⟩ := by
  have hholds : holdsRecords page = true := by
    rw [← Bool.not_eq_false]
    intro hnone
    apply h
    rw [results_of_not_holdsRecords hnone]
    exact ⟨[], rfl⟩
  rw [hand_of_truthy hholds, keepRecords]
  cases helements : (Payload.results (.object page)).elements with
  | ok items => exact absurd ⟨items, helements⟩ h
  | error cause => exact ⟨cause, rfl⟩

/-- Records that can be walked through are taken. The walk goes on from them unless the limit is
reached. -/
theorem hand_of_walkable (h : Walkable (Payload.results (.object page))) (hcount : count < n)
    (records : List Value) :
    hand keepRecords (.int n) records count page =
      if count + [page].countP holdsRecords < n then
        .next (records ++ recordsOf page) (count + [page].countP holdsRecords)
      else .done ⟨records ++ recordsOf page, .exhausted⟩ := by
  obtain ⟨items, hitems⟩ := h
  have hrecords : recordsOf page = items := by
    rw [recordsOf, hitems]
    rfl
  rw [hrecords]
  by_cases hholds : holdsRecords page = true
  · have hlimit := limitReached_limitOf (some (n : Int)) (count + 1)
    change limitReached (.int n) (count + 1) = _ at hlimit
    rw [hand_of_truthy hholds, keepRecords, hitems]
    simp only [hlimit, Option.any_some, hholds, List.countP_singleton, if_true]
    by_cases hwithin : count + 1 < n
    · have hbelow : decide ((n : Int) ≤ ((count + 1 : Nat) : Int)) = false := by
        rw [decide_eq_false_iff_not]
        omega
      rw [hbelow, if_pos hwithin]
    · have hreached : decide ((n : Int) ≤ ((count + 1 : Nat) : Int)) = true := by
        rw [decide_eq_true_iff]
        omega
      rw [hreached, if_neg hwithin]
  · rw [Bool.not_eq_true] at hholds
    rw [results_of_not_holdsRecords hholds] at hitems
    cases hitems
    rw [hand_of_not_truthy hholds]
    simp [hholds, hcount]

/-- A page that leads on is taken, and its link is followed. -/
theorem step_of_passes {link : String} (h : Passes Walkable n count seen page link)
    (hcount : count < n) (records : List Value) :
    hand keepRecords (.int n) records count page =
        .next (records ++ recordsOf page) (count + [page].countP holdsRecords) ∧
      onward seen (Payload.nextLink (.object page)) = .follow link := by
  have hhand := hand_of_walkable h.walkable hcount records
  rw [if_pos h.within] at hhand
  exact ⟨hhand, ((passes_iff takes_keepRecords hcount records).1 h).2⟩

/-- After a page that is taken and leads to no other a walk concludes as its link says. -/
theorem follow_of_taken (hcount : count < n)
    (hnone : ∀ link, ¬ Passes Walkable n count seen page link) {handed : Nat}
    (hhand : hand keepRecords (.int n) records count page = .next next handed) :
    Concludes (c.follow keepRecords (.int n) records count seen page net).1 (Mislinked page)
      next := by
  have hrefuse : Mislinked page ↔
      ∃ cause, onward seen (Payload.nextLink (.object page)) = .refuse cause :=
    exists_onward_refuse_iff.symm
  cases honward : onward seen (Payload.nextLink (.object page)) with
  | stop =>
    rw [honward] at hrefuse
    rw [follow_of_stop hhand honward]
    refine ⟨fun hbroken => ?_, fun _ => ⟨rfl, fun _ h => nomatch h⟩⟩
    obtain ⟨cause, hcause⟩ := hrefuse.1 hbroken
    cases hcause
  | refuse cause =>
    rw [follow_of_refuse hhand honward]
    exact ⟨fun _ => ⟨cause, rfl⟩, fun hintact => absurd (hrefuse.2 ⟨cause, honward⟩) hintact⟩
  | follow link =>
    obtain ⟨rfl, -⟩ := (exists_hand_eq_next_iff takes_keepRecords hcount).1 ⟨next, hhand⟩
    have hpasses := (passes_iff takes_keepRecords hcount records).2 ⟨⟨next, hhand⟩, honward⟩
    exact absurd hpasses (hnone link)

/-- At a page that leads to no other a walk concludes as the page says. -/
theorem follow_of_last (hcount : count < n)
    (hnone : ∀ link, ¬ Passes Walkable n count seen page link) :
    Concludes (c.follow keepRecords (.int n) records count seen page net).1
      (Halts n count [page]) (records ++ recordsOf page) := by
  rw [halts_singleton_iff]
  by_cases hwalkable : Walkable (Payload.results (.object page))
  · have hhand := hand_of_walkable hwalkable hcount records
    rw [eq_true hwalkable, not_true, false_or]
    by_cases hwithin : count + [page].countP holdsRecords < n
    · rw [if_pos hwithin] at hhand
      rw [eq_true hwithin, true_and]
      exact follow_of_taken hcount hnone hhand
    · rw [if_neg hwithin] at hhand
      rw [eq_false hwithin, false_and, follow_of_done hhand]
      exact ⟨False.elim, fun _ => ⟨rfl, fun _ h => nomatch h⟩⟩
  · obtain ⟨cause, hhand⟩ := hand_of_not_walkable hwalkable (.int n) records count
    rw [follow_of_done hhand]
    exact ⟨fun _ => ⟨cause, rfl⟩, fun hintact => absurd (Or.inl hwalkable) hintact⟩

/-! ## Runs -/

/-- Pages are delivered if the first arrives and the others are delivered after it, whatever address
is asked for the first. -/
theorem delivers_cons_iff (endpoint : String) :
    net.Delivers c.authenticator.authorization (page :: rest) ↔
      (c.page endpoint net).1 = .ok page ∧
        (c.page endpoint net).2.Delivers c.authenticator.authorization rest := by
  constructor
  · intro h
    obtain ⟨hpage, hauthorized, hanswered⟩ :=
      (supplied_cons_iff endpoint rest.length).1 ⟨h.authorized, h.answered⟩
    exact ⟨hpage, hauthorized, hanswered⟩
  · rintro ⟨hpage, h⟩
    obtain ⟨hauthorized, hanswered⟩ :=
      (supplied_cons_iff endpoint rest.length).2 ⟨hpage, h.authorized, h.answered⟩
    exact ⟨hauthorized, hanswered⟩

/-- One page is delivered if it arrives, whatever address is asked for it. -/
theorem delivers_singleton_iff (endpoint : String) :
    net.Delivers c.authenticator.authorization [page] ↔ (c.page endpoint net).1 = .ok page := by
  rw [delivers_cons_iff endpoint]
  exact and_iff_left (Network.delivers_nil _ _)

/-- A walk concludes as the pages say, if all of them arrive. -/
theorem follow_of_whole (h : Whole n count seen pages) :
    ∀ {page rest net records}, pages = page :: rest → count < n →
      net.Delivers c.authenticator.authorization rest →
      Concludes (c.follow keepRecords (.int n) records count seen page net).1
        (Halts n count pages) (records ++ pages.flatMap recordsOf) := by
  induction h with
  | @last count seen page hnone =>
    rintro _ _ net records heq hcount -
    cases heq
    rw [List.flatMap_singleton]
    exact follow_of_last hcount hnone
  | @cons count seen page rest link hpasses hrest ih =>
    rintro _ _ net records heq hcount hdelivers
    cases heq
    obtain ⟨arrived, more, rfl⟩ := List.exists_cons_of_ne_nil hrest.ne_nil
    obtain ⟨hpage, hmore⟩ := (delivers_cons_iff link).1 hdelivers
    obtain ⟨hhand, honward⟩ := step_of_passes hpasses hcount records
    rw [follow_of_page hhand honward hpage, halts_cons_iff hpasses hrest.ne_nil, List.flatMap_cons,
      ← List.append_assoc]
    exact ih rfl hpasses.within hmore

/-- A walk meets pages that are whole, or pages that all lead on, after which it fails as the next
request does. -/
theorem whole_or_failed_follow (c : Client) (hcount : count < n) (records : List Value)
    (seen : List String) (page : Members) (net : Network) :
    (∃ rest, net.Delivers c.authenticator.authorization rest ∧ Whole n count seen (page :: rest)) ∨
      ∃ links rest last failure, c.Brings net links rest ∧ Unfinished n count seen (page :: rest) ∧
        (c.page last (c.after net links)).1 = .error failure ∧
        (c.follow keepRecords (.int n) records count seen page net).1.ending = .failed failure := by
  induction hlength : net.dataAnswers.length using Nat.strongRecOn
    generalizing count seen page net records with
  | ind length ih =>
    by_cases hpass : ∃ link, Passes Walkable n count seen page link
    · obtain ⟨link, hpasses⟩ := hpass
      obtain ⟨hhand, honward⟩ := step_of_passes hpasses hcount records
      cases hpage : (c.page link net).1 with
      | error failure =>
        rw [follow_of_failure hhand honward hpage]
        exact Or.inr ⟨[], [], link, failure, .nil, .cons hpasses .nil, hpage, rfl⟩
      | ok arrived =>
        have hshorter : (c.page link net).2.dataAnswers.length < length := by
          rw [← hlength]
          exact length_dataAnswers_of_page (Prod.ext hpage rfl)
        rw [follow_of_page hhand honward hpage]
        rcases ih _ hshorter hpasses.within _ (link :: seen) arrived _ rfl with
          ⟨rest, hdelivers, hwhole⟩ | ⟨links, rest, last, failure, hbrings, hleads, hlast, hending⟩
        · exact Or.inl ⟨arrived :: rest, (delivers_cons_iff link).2 ⟨hpage, hdelivers⟩,
            .cons hpasses hwhole⟩
        · exact Or.inr ⟨link :: links, arrived :: rest, last, failure, .cons hpage hbrings,
            .cons hpasses hleads, hlast, hending⟩
    · exact Or.inl ⟨[], net.delivers_nil _, .last fun link h => hpass ⟨link, h⟩⟩

variable {q : Query} {endpoint : String}

/-- A run fails as its walk does. -/
theorem readAll_of_ending {limit : Value} {failure : Failure}
    (h : (c.walk q keepRecords limit [] net).1.ending = .failed failure) :
    (c.readAll q limit net).1 = .error failure := by
  rcases hwalk : c.walk q keepRecords limit [] net with ⟨⟨state, ending⟩, left⟩
  rw [hwalk] at h
  obtain rfl : ending = .failed failure := h
  rw [readAll_of_failed hwalk]

/-- A run gives the records that its walk leaves. -/
theorem readAll_of_finished {limit : Value}
    (h : ∀ failure, (c.walk q keepRecords limit [] net).1.ending ≠ .failed failure) :
    (c.readAll q limit net).1 = .ok (c.walk q keepRecords limit [] net).1.state := by
  unfold readAll
  rcases hwalk : c.walk q keepRecords limit [] net with ⟨⟨state, ending⟩, left⟩
  rw [hwalk] at h
  cases ending with
  | satisfied => rfl
  | exhausted => rfl
  | failed failure => exact absurd rfl (h failure)

/-- **What a run makes of its pages.** If all of them arrive, the run fails if they end it with a
failure, and otherwise gives the records of all of them. -/
theorem readAll_whole (haddress : q.address = .ok endpoint) (hn : 1 ≤ n)
    (hwhole : Whole n 0 [] pages) (hdelivers : net.Delivers c.authenticator.authorization pages) :
    (Halts n 0 pages → ∃ cause, (c.readAll q (.int n) net).1 = .error (.argument cause)) ∧
      (¬ Halts n 0 pages → (c.readAll q (.int n) net).1 = .ok (pages.flatMap recordsOf)) := by
  obtain ⟨page, rest, rfl⟩ := List.exists_cons_of_ne_nil hwhole.ne_nil
  obtain ⟨hpage, hrest⟩ := (delivers_cons_iff endpoint).1 hdelivers
  have hconcludes : Concludes (c.walk q keepRecords (.int n) [] net).1 (Halts n 0 (page :: rest))
      ((page :: rest).flatMap recordsOf) := by
    rw [walk_of_page haddress hpage]
    exact follow_of_whole hwhole rfl hn hrest
  constructor
  · intro hhalts
    obtain ⟨cause, hending⟩ := hconcludes.failed hhalts
    exact ⟨cause, readAll_of_ending hending⟩
  · intro hfinished
    obtain ⟨hstate, hending⟩ := hconcludes.finished hfinished
    rw [readAll_of_finished hending, hstate]

/-- A run meets pages that are whole, or pages that all lead on, after which it fails as the next
request does. -/
theorem whole_or_failed_readAll (c : Client) (haddress : q.address = .ok endpoint) (hn : 1 ≤ n)
    (net : Network) :
    (∃ pages, net.Delivers c.authenticator.authorization pages ∧ Whole n 0 [] pages) ∨
      ∃ endpoints pages last failure, c.Brings net endpoints pages ∧ Unfinished n 0 [] pages ∧
        (c.page last (c.after net endpoints)).1 = .error failure ∧
        (c.readAll q (.int n) net).1 = .error failure := by
  cases hpage : (c.page endpoint net).1 with
  | error failure =>
    refine Or.inr ⟨[], [], endpoint, failure, .nil, .nil, hpage, readAll_of_ending ?_⟩
    rw [walk_of_failure haddress hpage]
  | ok page =>
    rcases c.whole_or_failed_follow hn [] [] page (c.page endpoint net).2 with
      ⟨rest, hdelivers, hwhole⟩ | ⟨links, rest, last, failure, hbrings, hleads, hlast, hending⟩
    · exact Or.inl ⟨page :: rest, (delivers_cons_iff endpoint).2 ⟨hpage, hdelivers⟩, hwhole⟩
    · refine Or.inr ⟨endpoint :: links, page :: rest, last, failure, .cons hpage hbrings, hleads,
        hlast, readAll_of_ending ?_⟩
      rw [walk_of_page haddress hpage]
      exact hending

/-! ## Runs that break off -/

/-- A run breaks off after a page if the page arrives and the run breaks off after it, whatever
address is asked for the page. -/
theorem breaksOff_cons_iff (endpoint : String) :
    net.BreaksOff c.authenticator.authorization (page :: rest) ↔
      (c.page endpoint net).1 = .ok page ∧
        (c.page endpoint net).2.BreaksOff c.authenticator.authorization rest := by
  have hsame (hpage : (c.page endpoint net).1 = .ok page) :
      c.authenticator.authorization ((c.page endpoint net).2.tokenAnswers.drop rest.length) =
          c.authenticator.authorization (net.tokenAnswers.drop (rest.length + 1)) ∧
        (c.page endpoint net).2.dataAnswers[rest.length]? =
          net.dataAnswers[rest.length + 1]? := by
    obtain ⟨⟨header, hheader⟩, -⟩ := page_eq_ok_iff.1 hpage
    have hrequested := (page_of_authorized hheader endpoint).2
    rw [hrequested.tokenAnswers, hrequested.dataAnswers,
      c.authenticator.authorization_drop_authorize, List.getElem?_tail]
    exact ⟨rfl, rfl⟩
  constructor
  · intro h
    obtain ⟨hpage, hrest⟩ := (delivers_cons_iff endpoint).1 h.delivers
    refine ⟨hpage, hrest, ?_⟩
    rw [(hsame hpage).1, (hsame hpage).2]
    exact h.givesUp
  · rintro ⟨hpage, h⟩
    refine ⟨(delivers_cons_iff endpoint).2 ⟨hpage, h.delivers⟩, ?_⟩
    rw [List.length_cons, ← (hsame hpage).1, ← (hsame hpage).2]
    exact h.givesUp

/-- No pages are delivered as they are, so a run breaks off at once if the next request gives up. -/
theorem breaksOff_nil_iff {authorization : List Answer → Except Failure String} :
    net.BreaksOff authorization [] ↔
      GivesUp (authorization net.tokenAnswers) net.dataAnswers.head? := by
  rw [List.head?_eq_getElem?]
  exact ⟨fun h => h.givesUp, fun h => ⟨net.delivers_nil _, h⟩⟩

/-- A request that gives an answer up fails as if an argument had been refused, whatever address is
asked. -/
theorem page_of_breaksOff (h : net.BreaksOff c.authenticator.authorization []) (endpoint : String) :
    ∃ cause, (c.page endpoint net).1 = .error (.argument cause) := by
  simp only [page_eq_error_iff]
  cases breaksOff_nil_iff.1 h with
  | @token cause h => exact ⟨cause, .unauthorized h fun _ heq => nomatch heq⟩
  | @response header r hauthorized h hread =>
    have hanswer : net.dataAnswers.headD .exhausted = .response r := by
      rw [List.headD_eq_head?_getD, h, Option.getD_some]
    rcases hread with ⟨hstatus, hread⟩ | ⟨hstatus, isObject, hread⟩
    · obtain ⟨cause, hcause⟩ := Response.not_explicable_iff.1 hread
      exact ⟨cause, .unexplained hauthorized hanswer hstatus hcause⟩
    · have hdecode := Payload.ofDocument_eq_malformed_iff.2 hread
      exact ⟨.tooDeep, .payload hauthorized hanswer hstatus hdecode⟩

/-- Requests that bring pages leave it to those after them where the run breaks off. -/
theorem Brings.breaksOff {endpoints : List String} (h : c.Brings net endpoints pages)
    (hlast : (c.after net endpoints).BreaksOff c.authenticator.authorization []) :
    net.BreaksOff c.authenticator.authorization pages := by
  induction h with
  | nil => exact hlast
  | @cons net endpoint page endpoints pages hpage hrest ih =>
    exact (breaksOff_cons_iff endpoint).2 ⟨hpage, ih hlast⟩

/-- After pages that all lead on a walk fails where the answers break off. -/
theorem follow_of_unfinished (h : Unfinished n count seen pages) :
    ∀ {page rest net records}, pages = page :: rest → count < n →
      net.BreaksOff c.authenticator.authorization rest →
      ∃ cause, (c.follow keepRecords (.int n) records count seen page net).1.ending =
        .failed (.argument cause) := by
  induction h with
  | nil =>
    rintro _ _ _ _ heq
    cases heq
  | @cons count seen page rest link hpasses hrest ih =>
    rintro _ _ net records heq hcount hbreaks
    cases heq
    obtain ⟨hhand, honward⟩ := step_of_passes hpasses hcount records
    cases rest with
    | nil =>
      obtain ⟨cause, hpage⟩ := page_of_breaksOff hbreaks link
      rw [follow_of_failure hhand honward hpage]
      exact ⟨cause, rfl⟩
    | cons arrived more =>
      obtain ⟨hpage, hmore⟩ := (breaksOff_cons_iff link).1 hbreaks
      rw [follow_of_page hhand honward hpage]
      exact ih rfl hpasses.within hmore

/-- A run whose pages all lead on fails where the answers break off. -/
theorem readAll_of_unfinished (haddress : q.address = .ok endpoint) (hn : 1 ≤ n)
    (hpages : Unfinished n 0 [] pages)
    (hbreaks : net.BreaksOff c.authenticator.authorization pages) :
    ∃ cause, (c.readAll q (.int n) net).1 = .error (.argument cause) := by
  cases pages with
  | nil =>
    obtain ⟨cause, hpage⟩ := page_of_breaksOff hbreaks endpoint
    refine ⟨cause, readAll_of_ending ?_⟩
    rw [walk_of_failure haddress hpage]
  | cons page rest =>
    obtain ⟨hpage, hrest⟩ := (breaksOff_cons_iff endpoint).1 hbreaks
    obtain ⟨cause, hending⟩ := follow_of_unfinished hpages rfl hn hrest
    refine ⟨cause, readAll_of_ending ?_⟩
    rw [walk_of_page haddress hpage]
    exact hending

/-! ## Limits -/

/-- Two limits that are reached at the same counts, as long as one page was handed out, are
interchangeable. -/
theorem follow_congr_limit {σ : Type} {reader : σ → Value → Verdict σ} {limit other : Value}
    (h : ∀ count, limitReached limit (count + 1) = limitReached other (count + 1)) (state : σ)
    (count : Nat) (seen : List String) (page : Members) (net : Network) :
    c.follow reader limit state count seen page net =
      c.follow reader other state count seen page net := by
  have hhand (state : σ) (count : Nat) (page : Members) :
      hand reader other state count page = hand reader limit state count page := by
    unfold hand
    simp only [h]
  fun_induction c.follow reader limit state count seen page net with
  | case1 _ _ _ _ _ _ hdone => rw [follow_of_done ((hhand _ _ _).trans hdone)]
  | case2 _ _ _ _ _ _ _ hnext honward => rw [follow_of_stop ((hhand _ _ _).trans hnext) honward]
  | case3 _ _ _ _ _ _ _ hnext _ honward =>
    rw [follow_of_refuse ((hhand _ _ _).trans hnext) honward]
  | case4 _ _ _ _ _ _ _ hnext _ honward _ _ hpage =>
    rw [follow_of_failure ((hhand _ _ _).trans hnext) honward (congrArg Prod.fst hpage), hpage]
  | case5 _ _ _ _ _ _ _ hnext _ honward _ _ hpage ih =>
    rw [follow_of_page ((hhand _ _ _).trans hnext) honward (congrArg Prod.fst hpage), hpage]
    exact ih

/-- A limit below one lets a page with records be handed out, as a limit of one does. -/
theorem readAll_max_one (c : Client) (q : Query) (limit : Int) (net : Network) :
    c.readAll q (.int limit) net = c.readAll q (.int (max 1 limit).toNat) net := by
  have hlimit (count : Nat) : limitReached (.int limit) (count + 1) =
      limitReached (.int (max 1 limit).toNat) (count + 1) := by
    have hsame : limit ≤ ((count + 1 : Nat) : Int) ↔
        ((max 1 limit).toNat : Int) ≤ ((count + 1 : Nat) : Int) := by omega
    change Except.ok (decide _) = Except.ok (decide _)
    rw [decide_eq_decide.2 hsame]
  unfold readAll walk
  rcases c.execute q net with ⟨result, left⟩
  cases result with
  | error failure => rfl
  | ok page => simp only [follow_congr_limit hlimit]

end Client

end OData
