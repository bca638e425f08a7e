import Mathlib.Data.List.Forall2
import Mathlib.Data.List.Nodup
import OData.Proofs.Paging.Step

/-!
# The pages of a chain

A chain is what a service holds: pages with records, each with a link to the next or without one.

* **Reading all records** (`readAll_chain`): a run gives the records of the pages up to the first
  that ends the chain, in order, and asks for each of these pages once.
* **Where a chain ends** (`Last`): at a page that has no link, whose link is one of an earlier page,
  or with which as many pages with records as the limit allows have been met.
* **From a page on** (`follow_chain`): the loop, by induction on the pages that are left.
-/

namespace OData

/-- A page: its records, and where it says that the next one is. -/
structure Page where
  /-- The records. -/
  records : List Value
  /-- The link to the next page. -/
  link : Option String

namespace Page

/-- Whether a payload holds a page, in either layout. -/
structure Of (page : Page) (members : Members) : Prop where
  /-- The records are those of the payload. -/
  records : Payload.results (.object members) = .list page.records
  /-- The link is that of the payload. -/
  link : Payload.nextLink (.object members) = page.link.elim .null .text

/-- The number of pages that hold records. -/
def filled (pages : List Page) : Nat :=
  pages.countP fun page => !page.records.isEmpty

/-- Whether as many pages with records were met as a limit allows. At least one is. -/
def Reached (limit : Option Int) (count : Nat) : Prop :=
  ∃ n, limit = some n ∧ max 1 n ≤ count

/-- Whether a page, after earlier ones, is the last that is asked for. -/
def Last (limit : Option Int) (earlier : List Page) (page : Page) : Prop :=
  page.link = none ∨ page.link = some "" ∨ page.link ∈ earlier.map link ∨
    Reached limit (filled (earlier ++ [page]))

/-- Pages of which the last one, and no other, ends the chain, after earlier ones. -/
inductive Chain (limit : Option Int) : List Page → List Page → Prop where
  /-- One page that is the last. -/
  | last {earlier : List Page} {page : Page} (h : Last limit earlier page) :
      Chain limit earlier [page]
  /-- A page that is not, before others. -/
  | cons {earlier : List Page} {page : Page} {rest : List Page} (h : ¬ Last limit earlier page)
      (hrest : Chain limit (earlier ++ [page]) rest) : Chain limit earlier (page :: rest)

/-- Pages up to the first that ends the chain make a chain. -/
theorem chain_of_least {limit : Option Int} {k : Nat} {earlier pages : List Page}
    (hk : k < pages.length) (hlast : Last limit (earlier ++ pages.take k) pages[k])
    (hfirst : ∀ j (hj : j < k), ¬ Last limit (earlier ++ pages.take j) pages[j]) :
    Chain limit earlier (pages.take (k + 1)) := by
  induction k generalizing earlier pages with
  | zero =>
    cases pages with
    | nil => cases hk
    | cons page rest =>
      rw [List.take_zero, List.append_nil] at hlast
      exact .last hlast
  | succ k ih =>
    cases pages with
    | nil => cases hk
    | cons page rest =>
      have hpage : ¬ Last limit earlier page := by
        have h := hfirst 0 (Nat.succ_pos k)
        rwa [List.take_zero, List.append_nil] at h
      refine .cons hpage (ih (Nat.lt_of_succ_lt_succ hk) ?_ ?_)
      · rw [List.append_assoc]
        exact hlast
      · intro j hj
        rw [List.append_assoc]
        exact hfirst (j + 1) (Nat.succ_lt_succ hj)

/-! ## One page -/

variable {limit : Option Int} {earlier : List Page} {page : Page}

theorem filled_append_singleton (earlier : List Page) (page : Page) :
    filled (earlier ++ [page]) = filled earlier + if page.records.isEmpty then 0 else 1 := by
  unfold filled
  rw [List.countP_append]
  cases h : page.records.isEmpty <;> simp [h]

/-- A page that is not the last has a link, which is not that of an earlier page. -/
theorem exists_link_of_not_last (h : ¬ Last limit earlier page) :
    ∃ s, page.link = some s ∧ s ≠ "" ∧ some s ∉ earlier.map link := by
  unfold Last at h
  simp only [not_or] at h
  obtain ⟨hnone, hempty, hseen, -⟩ := h
  cases hlink : page.link with
  | none => exact absurd hlink hnone
  | some s =>
    rw [hlink] at hempty hseen
    exact ⟨s, rfl, fun heq => hempty (congrArg some heq), hseen⟩

/-- Before a page that is not the last the limit is not reached, nor at it. -/
theorem not_reached_of_not_last (h : ¬ Last limit earlier page) :
    ¬ Reached limit (filled (earlier ++ [page])) :=
  fun hreached => h (Or.inr (Or.inr (Or.inr hreached)))

/-- The reader of records takes the records of a page after those of the earlier ones. The walk ends
there exactly if the limit is reached. -/
theorem hand_keepRecords {members : Members} (hpage : page.Of members)
    (hbefore : ¬ Reached limit (filled earlier)) :
    hand Client.keepRecords (limitOf limit) (earlier.flatMap records) (filled earlier) members =
        .next ((earlier ++ [page]).flatMap records) (filled (earlier ++ [page])) ∧
        ¬ Reached limit (filled (earlier ++ [page])) ∨
      hand Client.keepRecords (limitOf limit) (earlier.flatMap records) (filled earlier) members =
        .done ⟨(earlier ++ [page]).flatMap records, .exhausted⟩ ∧
        Reached limit (filled (earlier ++ [page])) := by
  have hrecords : (earlier ++ [page]).flatMap records =
      earlier.flatMap records ++ page.records := by
    simp
  by_cases hempty : page.records = []
  · left
    have htruthy : (Payload.results (.object members)).truthy = false := by
      rw [hpage.records, hempty]
      rfl
    have hcount : filled (earlier ++ [page]) = filled earlier := by
      rw [filled_append_singleton, hempty]
      rfl
    rw [hand_of_not_truthy htruthy, hrecords, hempty, List.append_nil, hcount]
    exact ⟨rfl, hbefore⟩
  · have htruthy : (Payload.results (.object members)).truthy = true := by
      rw [hpage.records]
      simp [Value.truthy, hempty]
    have hcount : filled (earlier ++ [page]) = filled earlier + 1 := by
      rw [filled_append_singleton]
      simp [hempty]
    rw [hand_of_truthy htruthy, hpage.records, hrecords, hcount]
    simp only [Client.keepRecords, Value.elements, limitReached_limitOf]
    cases hlimit : limit.any fun n : Int => n ≤ ((filled earlier + 1 : Nat) : Int) with
    | true =>
      obtain ⟨n, rfl, hn⟩ := (Option.any_eq_true _ _).1 hlimit
      have hreached : n ≤ ((filled earlier + 1 : Nat) : Int) := of_decide_eq_true hn
      exact Or.inr ⟨rfl, n, rfl, by omega⟩
    | false =>
      refine Or.inl ⟨rfl, ?_⟩
      rintro ⟨n, rfl, hn⟩
      simp only [Option.any_some, decide_eq_false_iff_not] at hlimit
      omega

end Page

/-- Whether an answer delivers a page. -/
def Answer.Delivers (a : Answer) (page : Page) : Prop :=
  ∃ members, a.page? = some members ∧ page.Of members

namespace Client

open Page

/-! ## Following a chain -/

variable {c : Client} {limit : Option Int}

/-- At the last page of a chain the walk ends, with the records of the chain. -/
theorem follow_last {earlier : List Page} {page : Page} {members : Members} {seen : List String}
    (hlast : Last limit earlier page) (hpage : page.Of members)
    (hbefore : ¬ Reached limit (filled earlier))
    (hseen : seen.reverse.map some = earlier.map Page.link) (net : Network) :
    c.follow keepRecords (limitOf limit) (earlier.flatMap records) (filled earlier) seen members
        net = (⟨(earlier ++ [page]).flatMap records, .exhausted⟩, net) := by
  rcases hand_keepRecords hpage hbefore with ⟨hhand, hreached⟩ | ⟨hhand, -⟩
  · apply follow_of_stop hhand
    rw [hpage.link]
    apply onward_eq_stop
    intro s hs
    rcases hlast with hnone | hempty | hearlier | hlimit
    · rw [hs] at hnone
      cases hnone
    · rw [hs] at hempty
      exact Or.inl (Option.some.inj hempty)
    · right
      rw [hs, ← hseen] at hearlier
      obtain ⟨t, ht, heq⟩ := List.mem_map.1 hearlier
      exact Option.some.inj heq ▸ List.mem_reverse.1 ht
    · exact absurd hlimit hreached
  · exact follow_of_done hhand

/-- At any other page the walk is led to the next one. -/
theorem follow_not_last {earlier : List Page} {page : Page} {members arrived : Members}
    {seen : List String} {link : String} {net : Network} (hlast : ¬ Last limit earlier page)
    (hpage : page.Of members) (hbefore : ¬ Reached limit (filled earlier))
    (hseen : seen.reverse.map some = earlier.map Page.link) (hlink : page.link = some link)
    (harrived : (c.page link net).1 = .ok arrived) :
    c.follow keepRecords (limitOf limit) (earlier.flatMap records) (filled earlier) seen members
        net =
      c.follow keepRecords (limitOf limit) ((earlier ++ [page]).flatMap records)
        (filled (earlier ++ [page])) (link :: seen) arrived (c.page link net).2 := by
  obtain ⟨s, hs, hempty, hfresh⟩ := exists_link_of_not_last hlast
  obtain rfl : s = link := Option.some.inj (hs.symm.trans hlink)
  rcases hand_keepRecords hpage hbefore with ⟨hhand, -⟩ | ⟨-, hreached⟩
  · refine follow_of_page hhand (onward_eq_follow_iff.2 ⟨?_, hempty, ?_⟩) harrived
    · rw [hpage.link, hlink]
      rfl
    · intro hmem
      apply hfresh
      rw [← hseen]
      exact List.mem_map_of_mem (List.mem_reverse.2 hmem)
  · exact absurd hreached (not_reached_of_not_last hlast)

/-- **A walk along a chain** gives the records of all its pages and asks for the page at every link
but the last page's, each once. -/
theorem follow_chain {earlier pages : List Page} (hchain : Chain limit earlier pages) :
    ∀ {page : Page} {rest : List Page} {members : Members} {seen : List String} {net : Network}
      {answers more : List Answer}, pages = page :: rest → page.Of members →
      ¬ Reached limit (filled earlier) → seen.reverse.map some = earlier.map Page.link →
      seen.reverse.Nodup → net.dataAnswers = answers ++ more →
      List.Forall₂ Answer.Delivers answers rest →
      c.authenticator.Authorizes net.tokenAnswers rest.length →
      ∃ links after,
        c.follow keepRecords (limitOf limit) (earlier.flatMap records) (filled earlier) seen members
            net = (⟨(earlier ++ pages).flatMap records, .exhausted⟩, after) ∧
          after.asked = net.asked ++ links.map c.resolve ∧
          links.map some = pages.dropLast.map Page.link ∧ (seen.reverse ++ links).Nodup := by
  induction hchain with
  | @last earlier page hlast =>
    rintro _ _ members seen net answers more heq hpage hbefore hseen hnodup - - -
    cases heq
    refine ⟨[], net, follow_last hlast hpage hbefore hseen net, ?_, rfl, ?_⟩
    · exact (List.append_nil _).symm
    · rwa [List.append_nil]
  | @cons earlier page rest hlast hrest ih =>
    rintro _ _ members seen net answers more heq hpage hbefore hseen hnodup hanswers hdelivers
      hauthorized
    cases heq
    cases hdelivers with
    | nil => cases hrest
    | @cons a next answers rest ha hdelivers =>
      obtain ⟨link, hlink, hempty, hfresh⟩ := exists_link_of_not_last hlast
      obtain ⟨arrived, ha, hnext⟩ := ha
      obtain ⟨⟨header, hheader⟩, hauthorized⟩ :=
        (c.authenticator.authorizes_succ_iff net rest.length).1 hauthorized
      have harrived : (c.page link net).1 = .ok arrived :=
        page_eq_ok_iff.2 ⟨⟨header, hheader⟩, by rw [hanswers]; exact ha⟩
      have hrequested := (page_of_authorized hheader link).2
      have hnew : (link :: seen).reverse.map some = (earlier ++ [page]).map Page.link := by
        rw [List.reverse_cons, List.map_append, List.map_append, hseen, List.map_singleton,
          List.map_singleton, hlink]
      have hunique : (link :: seen).reverse.Nodup := by
        rw [List.nodup_reverse, List.nodup_cons]
        refine ⟨fun hmem => hfresh ?_, List.nodup_reverse.1 hnodup⟩
        rw [← hseen]
        exact List.mem_map_of_mem (List.mem_reverse.2 hmem)
      obtain ⟨links, after, hfollow, hasked, hlinks, hall⟩ := ih rfl hnext
        (not_reached_of_not_last hlast) hnew hunique
        (by rw [hrequested.dataAnswers, hanswers]; rfl) hdelivers
        (by rw [hrequested.tokenAnswers]; exact hauthorized)
      refine ⟨link :: links, after, ?_, ?_, ?_, ?_⟩
      · rw [follow_not_last hlast hpage hbefore hseen hlink harrived, hfollow, List.append_assoc,
          List.singleton_append]
      · rw [hasked, hrequested.asked, List.append_assoc]
        rfl
      · rw [List.map_cons, hlinks, ← hlink]
        rfl
      · rw [List.reverse_cons, List.append_assoc] at hall
        exact hall

/-- **Reading all records of a query** gives the records of the pages of its chain up to the last
one, in order. The address of the query is asked first, and then the links of the pages before the
last one, in order and each once. -/
theorem readAll_chain {c : Client} {q : Query} {endpoint : String} {limit : Option Int}
    {net : Network} {answers more : List Answer} {chain : List Page} {k : Nat}
    (haddress : q.address = .ok endpoint)
    (hauthorized : c.authenticator.Authorizes net.tokenAnswers (k + 1))
    (hnet : net.dataAnswers = answers ++ more)
    (hanswers : List.Forall₂ Answer.Delivers answers chain) (hk : k < chain.length)
    (hlast : Last limit (chain.take k) chain[k])
    (hfirst : ∀ j (hj : j < k), ¬ Last limit (chain.take j) chain[j]) :
    ∃ links after,
      c.readAll q (limitOf limit) net =
          (.ok ((chain.take (k + 1)).flatMap Page.records), after) ∧
        after.asked = net.asked ++ (endpoint :: links).map c.resolve ∧
        links.map some = (chain.take k).map Page.link ∧ links.Nodup := by
  cases hanswers with
  | nil => cases hk
  | @cons a page answers rest ha hdelivers =>
    obtain ⟨members, ha, hpage⟩ := ha
    obtain ⟨⟨header, hheader⟩, hauthorized⟩ :=
      (c.authenticator.authorizes_succ_iff net k).1 hauthorized
    have harrived : (c.page endpoint net).1 = .ok members :=
      page_eq_ok_iff.2 ⟨⟨header, hheader⟩, by rw [hnet]; exact ha⟩
    have hrequested := (page_of_authorized hheader endpoint).2
    have hchain : Chain limit [] ((page :: rest).take (k + 1)) := chain_of_least hk hlast hfirst
    have hlength : (rest.take k).length = k := by
      rw [List.length_take]
      exact Nat.min_eq_left (Nat.lt_succ_iff.1 hk)
    have hnone : ¬ Reached limit (filled []) := by
      rintro ⟨n, -, hn⟩
      have hzero : ((filled [] : Nat) : Int) = 0 := rfl
      omega
    have hleft : (c.page endpoint net).2.dataAnswers =
        answers.take k ++ (answers.drop k ++ more) := by
      rw [hrequested.dataAnswers, hnet, ← List.append_assoc, List.take_append_drop]
      rfl
    have hnext : c.authenticator.Authorizes (c.page endpoint net).2.tokenAnswers
        (rest.take k).length := by
      rw [hrequested.tokenAnswers, hlength]
      exact hauthorized
    have hseen : ([] : List String).reverse.map some = ([] : List Page).map Page.link := rfl
    obtain ⟨links, after, hfollow, hasked, hlinks, hnodup⟩ := follow_chain hchain rfl hpage hnone
      hseen List.nodup_nil hleft (List.forall₂_take k hdelivers) hnext
    refine ⟨links, after, ?_, ?_, ?_, ?_⟩
    · have hwalk : c.walk q keepRecords (limitOf limit) [] net =
          (⟨((page :: rest).take (k + 1)).flatMap records, .exhausted⟩, after) :=
        (walk_of_page haddress harrived).trans hfollow
      unfold readAll
      rw [hwalk]
    · rw [hasked, hrequested.asked, List.append_assoc]
      rfl
    · have hbefore : ((page :: rest).take (k + 1)).dropLast = (page :: rest).take k := by
        rw [List.dropLast_eq_take, List.length_take, List.take_take]
        congr 1
        omega
      rw [hlinks, hbefore]
    · exact hnodup

/-- A page in the newer layout, and one in the older whose link comes back. -/
theorem readAll_chain_of_two_layouts :
    let c : Client := ⟨"https://h/", .text "key", 60.0, .bool true, .bearer (.text "token"), 0⟩
    let net := Network.ofAnswers [
      .document "\x7b\x22value\x22:[1],\x22@odata.nextLink\x22:\x22b\x22\x7d",
      .document "\x7b\x22d\x22:\x7b\x22results\x22:[2],\x22__next\x22:\x22b\x22\x7d\x7d"] []
    ∃ links after,
      c.readAll (Query.ofBase (.text "A/")) (limitOf (some 3)) net =
          (.ok [.int 1, .int 2], after) ∧
        after.asked = ("A" :: links).map c.resolve ∧ links.map some = [some "b"] ∧ links.Nodup := by
  intro c net
  have hfirst : (Answer.document
      "\x7b\x22value\x22:[1],\x22@odata.nextLink\x22:\x22b\x22\x7d").page? =
      some [("value", .list [.int 1]), ("@odata.nextLink", .text "b")] :=
    Answer.page?_document (by decide +kernel)
  have hsecond : (Answer.document
      "\x7b\x22d\x22:\x7b\x22results\x22:[2],\x22__next\x22:\x22b\x22\x7d\x7d").page? =
      some [("d", .object [("results", .list [.int 2]), ("__next", .text "b")])] :=
    Answer.page?_document (by decide +kernel)
  have hanswers : List.Forall₂ Answer.Delivers net.dataAnswers
      [⟨[.int 1], some "b"⟩, ⟨[.int 2], some "b"⟩] :=
    .cons ⟨_, hfirst, rfl, rfl⟩ (.cons ⟨_, hsecond, rfl, rfl⟩ .nil)
  have haddress : (Query.ofBase (.text "A/")).address = .ok "A" := rfl
  have hauthorized : c.authenticator.Authorizes net.tokenAnswers (1 + 1) :=
    fun i _ => ⟨"Bearer token", rfl⟩
  have hnet : net.dataAnswers = net.dataAnswers ++ [] := (List.append_nil _).symm
  apply readAll_chain haddress hauthorized hnet hanswers (by decide)
  · exact Or.inr (Or.inr (Or.inl (by simp)))
  · intro j hj
    obtain rfl : j = 0 := by omega
    have hcount : filled ([] ++ [(⟨[.int 1], some "b"⟩ : Page)]) = 1 := rfl
    rintro (hnone | hempty | hearlier | ⟨n, hn, hreached⟩)
    · cases hnone
    · have hblank : "b" = "" := Option.some.inj hempty
      exact absurd hblank (by decide)
    · cases hearlier
    · cases hn
      change max 1 3 ≤ ((filled ([] ++ [(⟨[.int 1], some "b"⟩ : Page)]) : Nat) : Int) at hreached
      rw [hcount] at hreached
      exact absurd hreached (by decide)

end Client

end OData
