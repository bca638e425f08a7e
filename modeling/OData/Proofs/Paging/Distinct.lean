import Mathlib.Data.List.Nodup
import OData.Proofs.Paging.Step

/-!
# No link is followed twice

A walk keeps the links that it followed and does not follow one of them again.

* **Links** (`exists_follows`, `Follows`): the links of a run are different texts, so that they are
  asked at different addresses unless two of them spell one address in two ways (`Respells`).
* **From a page on** (`exists_trail_follow`): the links that a walk follows are new and different.
* **Links are compared with links** (`asked_of_circle`): the address of the first page is not among
  them.
-/

namespace OData

variable {σ : Type}

/-! ## Links -/

/-- The link of a page, if it is a text. -/
def Members.link? (page : Members) : Option String :=
  (Payload.nextLink (.object page)).text?

/-- The link of the page that an answer holds. -/
def Answer.link? (a : Answer) : Option String :=
  a.page?.bind Members.link?

namespace Client

variable {c : Client} {net : Network} {q : Query} {l m : String}

/-- Two links that spell one address: both relative to the service, or one of them spelled out. -/
inductive Respells (c : Client) : String → String → Prop where
  /-- Leading slashes of relative links do not count. -/
  | relative {l m : String} (hl : ¬ isAbsolute l) (hm : ¬ isAbsolute m)
      (h : Text.trimStartSlashes l = Text.trimStartSlashes m) : Respells c l m
  /-- The first spells out the second. -/
  | left {l m : String} (hl : isAbsolute l) (hm : ¬ isAbsolute m)
      (h : l = c.base ++ Text.trimStartSlashes m) : Respells c l m
  /-- The second spells out the first. -/
  | right {l m : String} (hl : ¬ isAbsolute l) (hm : isAbsolute m)
      (h : m = c.base ++ Text.trimStartSlashes l) : Respells c l m

theorem resolve_of_absolute (h : isAbsolute l) : c.resolve l = l :=
  if_pos h

theorem resolve_of_relative (h : ¬ isAbsolute l) :
    c.resolve l = c.base ++ Text.trimStartSlashes l :=
  if_neg h

/-- Links are asked at one address exactly if they are the same or spell it in two ways. -/
theorem resolve_eq_resolve_iff : c.resolve l = c.resolve m ↔ l = m ∨ c.Respells l m := by
  constructor
  · intro h
    by_cases hl : isAbsolute l <;> by_cases hm : isAbsolute m
    · rw [resolve_of_absolute hl, resolve_of_absolute hm] at h
      exact Or.inl h
    · rw [resolve_of_absolute hl, resolve_of_relative hm] at h
      exact Or.inr (.left hl hm h)
    · rw [resolve_of_relative hl, resolve_of_absolute hm] at h
      exact Or.inr (.right hl hm h.symm)
    · rw [resolve_of_relative hl, resolve_of_relative hm] at h
      exact Or.inr (.relative hl hm (String.append_right_inj c.base |>.1 h))
  · rintro (rfl | h)
    · rfl
    · cases h with
      | relative hl hm h => rw [resolve_of_relative hl, resolve_of_relative hm, h]
      | left hl hm h => rw [resolve_of_absolute hl, resolve_of_relative hm, h]
      | right hl hm h => rw [resolve_of_relative hl, resolve_of_absolute hm, h]

/-- Different links are asked at different addresses exactly if no two of them spell one. -/
theorem nodup_map_resolve_iff {links : List String} (h : links.Nodup) :
    (links.map c.resolve).Nodup ↔ links.Pairwise fun l m => ¬ c.Respells l m := by
  have hdistinct := List.nodup_iff_pairwise_ne.1 h
  rw [List.nodup_iff_pairwise_ne, List.pairwise_map]
  constructor
  · intro haddresses
    refine haddresses.imp fun hne hrespells => hne ?_
    exact resolve_eq_resolve_iff.2 (Or.inr hrespells)
  · intro hspelled
    refine (hdistinct.and hspelled).imp fun ⟨hne, hnot⟩ heq => ?_
    exact (resolve_eq_resolve_iff.1 heq).elim hne hnot

/-! ## Following -/

/-- Links that are followed after earlier ones, each of them the one that is offered next: texts
that are not empty, none of them twice. -/
structure Trail (seen : List String) (offered : List (Option String)) (links : List String) :
    Prop where
  /-- No link comes twice. -/
  nodup : links.Nodup
  /-- No link is empty. -/
  ne_empty : ∀ link ∈ links, link ≠ ""
  /-- No link was followed earlier. -/
  fresh : ∀ link ∈ links, link ∉ seen
  /-- The links are those that are offered, in order. -/
  linked : offered.take links.length = links.map some

theorem trail_nil (seen : List String) (offered : List (Option String)) : Trail seen offered [] :=
  ⟨List.nodup_nil, fun _ h => absurd h List.not_mem_nil, fun _ h => absurd h List.not_mem_nil, rfl⟩

/-- A trail grows at its start by a link that a walk is led on to. -/
theorem trail_cons {seen links : List String} {page : Members} {link : String}
    {offered : List (Option String)}
    (h : onward seen (Payload.nextLink (.object page)) = .follow link)
    (htrail : Trail (link :: seen) offered links) :
    Trail seen (page.link? :: offered) (link :: links) := by
  obtain ⟨hlink, hempty, hfresh⟩ := onward_eq_follow_iff.1 h
  have hfirst : page.link? = some link := by rw [Members.link?, hlink, Value.text?]
  have hnew : link ∉ links := fun hmem => htrail.fresh link hmem List.mem_cons_self
  refine ⟨List.nodup_cons.2 ⟨hnew, htrail.nodup⟩, ?_, ?_, ?_⟩
  · exact List.forall_mem_cons.2 ⟨hempty, htrail.ne_empty⟩
  · refine List.forall_mem_cons.2 ⟨hfresh, fun l hl hseen => ?_⟩
    exact htrail.fresh l hl (List.mem_cons_of_mem link hseen)
  · rw [List.length_cons, List.take_succ_cons, List.map_cons, hfirst, htrail.linked]

/-- A page that arrives is the next that is answered, and its link is the next that is offered. -/
theorem offered_of_page {endpoint : String} {page : Members}
    (h : (c.page endpoint net).1 = .ok page) :
    net.dataAnswers.map Answer.link? =
        page.link? :: (c.page endpoint net).2.dataAnswers.map Answer.link? ∧
      (c.page endpoint net).2.asked = net.asked ++ [c.resolve endpoint] := by
  obtain ⟨⟨header, hheader⟩, hanswer⟩ := page_eq_ok_iff.1 h
  have hrequested := (page_of_authorized hheader endpoint).2
  obtain ⟨a, hhead, hholds⟩ := Option.bind_eq_some_iff.1 hanswer
  obtain ⟨rest, hanswers⟩ := List.head?_eq_some_iff.1 hhead
  have hlink : a.link? = page.link? := by rw [Answer.link?, hholds, Option.bind_some]
  rw [hrequested.dataAnswers, hrequested.asked, hanswers, List.map_cons, hlink, List.tail_cons]
  exact ⟨rfl, rfl⟩

/-- **Following.** What a walk asks for from a page on is a trail. -/
theorem exists_trail_follow (c : Client) (reader : σ → Value → Verdict σ) (limit : Value)
    (state : σ) (count : Nat) (seen : List String) (page : Members) (net : Network) :
    ∃ links, Trail seen (page.link? :: net.dataAnswers.map Answer.link?) links ∧
      (c.follow reader limit state count seen page net).2.asked =
        net.asked ++ links.map c.resolve := by
  fun_induction c.follow reader limit state count seen page net with
  | case1 => exact ⟨[], trail_nil _ _, (List.append_nil _).symm⟩
  | case2 => exact ⟨[], trail_nil _ _, (List.append_nil _).symm⟩
  | case3 => exact ⟨[], trail_nil _ _, (List.append_nil _).symm⟩
  | case4 _ _ _ _ net _ _ _ link honward failure after hpage =>
    have hasked := c.asked_page link net
    rw [hpage] at hasked
    rcases hasked with hasked | hasked
    · exact ⟨[], trail_nil _ _, hasked.trans (List.append_nil _).symm⟩
    · exact ⟨[link], trail_cons honward (trail_nil _ _), hasked⟩
  | case5 _ _ _ _ net _ _ _ link honward next after hpage ih =>
    obtain ⟨links, htrail, hasked⟩ := ih
    have harrived : (c.page link net).1 = .ok next := by rw [hpage]
    obtain ⟨hoffered, hfirst⟩ := offered_of_page harrived
    rw [hpage] at hoffered hfirst
    refine ⟨link :: links, ?_, ?_⟩
    · rw [hoffered]
      exact trail_cons honward htrail
    · rw [hasked, hfirst, List.append_assoc]
      rfl

/-! ## Runs -/

/-- What a run asks for: the page of a query, if that has an address, and then links. The run starts
with the network `net` and leaves `after`. -/
structure Follows (c : Client) (q : Query) (net after : Network) (first : Option String)
    (links : List String) : Prop where
  /-- The first address is that of the query. -/
  address : ∀ endpoint ∈ first, q.address = .ok endpoint
  /-- No link is followed before it. -/
  started : first = none → links = []
  /-- The links are those of the pages that are answered. -/
  trail : Trail [] (net.dataAnswers.map Answer.link?) links
  /-- Each is asked at the address that it stands for. -/
  asked : after.asked = net.asked ++ (first.toList ++ links).map c.resolve

/-- A run may ask for nothing. -/
theorem follows_none {after : Network} (h : after.asked = net.asked) :
    c.Follows q net after none [] :=
  ⟨fun _ hmem => absurd hmem (Option.not_mem_none _), fun _ => rfl, trail_nil _ _,
    h.trans (List.append_nil _).symm⟩

/-- A run that asks for the page of its query goes on with a trail. -/
theorem follows_some {endpoint : String} {after : Network} {links : List String}
    (haddress : q.address = .ok endpoint)
    (htrail : Trail [] (net.dataAnswers.map Answer.link?) links)
    (hasked : after.asked = net.asked ++ c.resolve endpoint :: links.map c.resolve) :
    c.Follows q net after (some endpoint) links := by
  refine ⟨?_, fun hnone => absurd hnone (Option.some_ne_none _), htrail, hasked⟩
  intro found hfound
  obtain rfl := Option.mem_some_iff.1 hfound
  exact haddress

/-- **Walks.** A walk asks for the page of its query and follows links from there. -/
theorem exists_follows_walk (c : Client) (q : Query) (reader : σ → Value → Verdict σ)
    (limit : Value) (state : σ) (net : Network) :
    ∃ first links, c.Follows q net (c.walk q reader limit state net).2 first links := by
  cases haddress : q.address with
  | error cause =>
    rw [walk_of_no_address haddress]
    exact ⟨none, [], follows_none rfl⟩
  | ok endpoint =>
    cases harrived : (c.page endpoint net).1 with
    | error failure =>
      rw [walk_of_failure haddress harrived]
      rcases c.asked_page endpoint net with hasked | hasked
      · exact ⟨none, [], follows_none hasked⟩
      · exact ⟨some endpoint, [], follows_some haddress (trail_nil _ _) hasked⟩
    | ok page =>
      rw [walk_of_page haddress harrived]
      obtain ⟨hoffered, hfirst⟩ := offered_of_page harrived
      obtain ⟨links, htrail, hasked⟩ :=
        exists_trail_follow c reader limit state 0 [] page (c.page endpoint net).2
      rw [← hoffered] at htrail
      rw [hfirst, List.append_assoc] at hasked
      exact ⟨some endpoint, links, follows_some haddress htrail hasked⟩

/-- **No link is followed twice.** A run through the pages of a query asks for its first page and
then for links that are different from each other, each of them that of the page before. They are
asked at different addresses exactly if no two of them spell one address. -/
theorem exists_follows (c : Client) (q : Query) (limit : Value) (wanted : Option Nat)
    (net : Network) :
    (∃ first links, c.Follows q net (c.iterate q limit wanted net).2 first links ∧
      ((links.map c.resolve).Nodup ↔ links.Pairwise fun l m => ¬ c.Respells l m)) ∧
    (∃ first links, c.Follows q net (c.readAll q limit net).2 first links ∧
      ((links.map c.resolve).Nodup ↔ links.Pairwise fun l m => ¬ c.Respells l m)) := by
  constructor
  · unfold iterate
    split
    · exact ⟨none, [], follows_none rfl, nodup_map_resolve_iff List.nodup_nil⟩
    · obtain ⟨first, links, h⟩ := exists_follows_walk c q (keepPages wanted) limit [] net
      exact ⟨first, links, h, nodup_map_resolve_iff h.trail.nodup⟩
  · rw [readAll_snd]
    obtain ⟨first, links, h⟩ := exists_follows_walk c q keepRecords limit [] net
    exact ⟨first, links, h, nodup_map_resolve_iff h.trail.nodup⟩

/-- Pages that lead back to the first one, by a relative link and by an absolute one. All three are
asked for at one address, and the records of all three are returned. -/
theorem asked_of_circle :
    let c : Client := ⟨"https://x/", .text "key-123", 60.0, .bool true, .bearer (.text "tok"), 0⟩
    let q := Query.ofBase (.text "Property/")
    let net := Network.ofAnswers [
      .document "\x7b\x22value\x22: [1], \x22@odata.nextLink\x22: \x22Property\x22\x7d",
      .document "\x7b\x22value\x22: [1], \x22@odata.nextLink\x22: \x22https://x/Property\x22\x7d",
      .document "\x7b\x22value\x22: [1]\x7d"] []
    ¬ (c.iterate q .null none net).2.asked.Nodup ∧ ¬ (c.readAll q .null net).2.asked.Nodup ∧
      (c.readAll q .null net).1 = .ok [.int 1, .int 1, .int 1] := by
  intro c q net
  let url := "https://x/Property"
  let one : Members := [("value", .list [.int 1]), ("@odata.nextLink", .text "Property")]
  let two : Members := [("value", .list [.int 1]), ("@odata.nextLink", .text url)]
  let three : Members := [("value", .list [.int 1])]
  have hanswered : net.dataAnswers.map Answer.page? = [one, two, three].map some := by
    have hone : (net.dataAnswers.get ⟨0, by decide⟩).page? = some one :=
      Answer.page?_document (by decide +kernel)
    have htwo : (net.dataAnswers.get ⟨1, by decide⟩).page? = some two :=
      Answer.page?_document (by decide +kernel)
    have hthree : (net.dataAnswers.get ⟨2, by decide⟩).page? = some three :=
      Answer.page?_document (by decide +kernel)
    exact congrArg₂ List.cons hone (congrArg₂ List.cons htwo (congrArg₂ List.cons hthree rfl))
  have hserved : c.Served net [one, two, three] := ⟨fun i _ => ⟨"Bearer tok", rfl⟩, hanswered⟩
  obtain ⟨hfirst, hserved⟩ := (served_cons_iff "Property").1 hserved
  obtain ⟨hsecond, hserved⟩ := (served_cons_iff "Property").1 hserved
  obtain ⟨hthird, -⟩ := (served_cons_iff url).1 hserved
  -- Both readers take every page, so that the walk goes the same way with either.
  have hwalk {reader : List Value → Value → Verdict (List Value)} {a b d : List Value}
      (ha : hand reader .null [] 0 one = .next a 1) (hb : hand reader .null a 1 two = .next b 2)
      (hd : hand reader .null b 2 three = .next d 3) :
      (c.walk q reader .null [] net).1 = ⟨d, .exhausted⟩ ∧
        (c.walk q reader .null [] net).2.asked = [url, url, url] := by
    rw [walk_of_page rfl hfirst, follow_of_page ha rfl hsecond, follow_of_page hb rfl hthird,
      follow_of_stop hd rfl, (offered_of_page hthird).2, (offered_of_page hsecond).2,
      (offered_of_page hfirst).2]
    exact ⟨rfl, by decide +kernel⟩
  have htwice : ¬ [url, url, url].Nodup := by decide
  obtain ⟨-, hiterate⟩ := @hwalk (keepPages none) _ _ _ rfl rfl rfl
  obtain ⟨hrecords, hreadAll⟩ := @hwalk keepRecords _ _ _ rfl rfl rfl
  refine ⟨?_, ?_, ?_⟩
  · show ¬ (c.walk q (keepPages none) .null [] net).2.asked.Nodup
    rw [hiterate]
    exact htwice
  · rw [readAll_snd, hreadAll]
    exact htwice
  · unfold readAll
    dsimp only
    rw [hrecords]
    rfl

end Client

end OData
