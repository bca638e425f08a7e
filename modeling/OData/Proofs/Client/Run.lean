import Mathlib.Data.List.Forall2
import OData.Proofs.Client.Exchange

/-!
# Runs of a client

A run is a sequence of calls on one client, in which a call that fails does not keep the next from
being made.

* **Calls** (`Client.Makes`, `exists_makes_perform`): which attempts at requests for data a call may
  make. The first is fixed by the call, and only walks make others, at links.
* **Runs** (`exists_makes_performAll`): every run leaves the network behind with the attempts that
  its calls make, one call after another.
-/

namespace OData.Client

/-- A call on a client. -/
inductive Call where
  /-- Requests an endpoint. -/
  | get (endpoint params additions : Value)
  /-- Requests an endpoint and decodes the body. -/
  | getPayload (endpoint params additions : Value)
  /-- Requests the page of a query. -/
  | execute (q : Query)
  /-- Requests the records of the first page. -/
  | read (q : Query)
  /-- Requests the entries of the first page that declare a type. -/
  | entities (q : Query) (type : Value)
  /-- Requests a property of the first page. -/
  | property (q : Query) (name : Value)
  /-- Requests the pages of a query, up to a number of them. -/
  | iterate (q : Query) (limit : Value) (wanted : Option Nat)
  /-- Requests the records of all pages of a query. -/
  | readAll (q : Query) (limit : Value)

/-- The network after a call, whatever its result. -/
def perform (c : Client) (net : Network) : Call → Network
  | .get endpoint params additions => (c.get endpoint params additions net).2
  | .getPayload endpoint params additions => (c.getPayload endpoint params additions net).2
  | .execute q => (c.execute q net).2
  | .read q => (c.read q net).2
  | .entities q type => (c.entities q type net).2
  | .property q name => (c.property q name net).2
  | .iterate q limit wanted => (c.iterate q limit wanted net).2
  | .readAll q limit => (c.readAll q limit net).2

/-- The network after a run. -/
def performAll (c : Client) (net : Network) (calls : List Call) : Network :=
  calls.foldl c.perform net

/-- Whether a call goes on from page to page. -/
def Call.isWalk : Call → Bool
  | .iterate _ _ _ => true
  | .readAll _ _ => true
  | _ => false

/-- The first attempt that a call makes, if it makes one. -/
def first? (c : Client) : Call → Option Attempt
  | .get endpoint params additions => c.attempt? endpoint params additions
  | .getPayload endpoint params additions => c.attempt? endpoint params additions
  | .execute q => c.queryAttempt? q
  | .read q => c.queryAttempt? q
  | .entities q _ => c.queryAttempt? q
  | .property q _ => c.queryAttempt? q
  | .iterate q _ wanted => if wanted = some 0 then none else c.queryAttempt? q
  | .readAll q _ => c.queryAttempt? q

/-- Whether a call may make these attempts. -/
structure Makes (c : Client) (call : Call) (attempts : List Attempt) : Prop where
  /-- The call says which attempt comes first. -/
  first : attempts.head? = c.first? call
  /-- Only walks make more, at links. -/
  others : ∀ a ∈ attempts.tail, call.isWalk = true ∧ ∃ link, a = c.pageAttempt link

/-- A call that is no walk makes its first attempt and no other. -/
theorem makes_single {c : Client} {call : Call} : c.Makes call (c.first? call).toList := by
  cases h : c.first? call with
  | none => exact ⟨h.symm, fun a ha => absurd ha List.not_mem_nil⟩
  | some a => exact ⟨h.symm, fun a ha => absurd ha List.not_mem_nil⟩

/-- Every call leaves the network behind with attempts that it may make. -/
theorem exists_makes_perform (c : Client) (net : Network) (call : Call) :
    ∃ attempts, c.Makes call attempts ∧ c.Leaves net attempts (c.perform net call) := by
  cases call with
  | get endpoint params additions =>
    exact ⟨_, makes_single, c.leaves_get endpoint params additions net⟩
  | getPayload endpoint params additions =>
    exact ⟨_, makes_single, c.leaves_getPayload endpoint params additions net⟩
  | execute q => exact ⟨_, makes_single, c.leaves_execute q net⟩
  | read q => exact ⟨_, makes_single, c.leaves_read q net⟩
  | entities q type => exact ⟨_, makes_single, c.leaves_entities q type net⟩
  | property q name => exact ⟨_, makes_single, c.leaves_property q name net⟩
  | iterate q limit wanted =>
    by_cases hwanted : wanted = some 0
    · have hnone : c.first? (.iterate q limit wanted) = none := if_pos hwanted
      have hsame : c.perform net (.iterate q limit wanted) = net := by
        rw [perform, iterate, if_pos hwanted]
      rw [hsame]
      exact ⟨[], ⟨hnone.symm, fun a ha => absurd ha List.not_mem_nil⟩, Leaves.refl c net⟩
    · have hfirst : c.first? (.iterate q limit wanted) = c.queryAttempt? q := if_neg hwanted
      obtain ⟨attempts, hhead, hothers, -, hleaves⟩ :=
        c.exists_leaves_walk q (keepPages wanted) limit [] net
      rw [perform, iterate, if_neg hwanted]
      exact ⟨attempts, ⟨hhead.trans hfirst.symm, fun a ha => ⟨rfl, hothers a ha⟩⟩, hleaves⟩
  | readAll q limit =>
    obtain ⟨attempts, hhead, hothers, -, hleaves⟩ :=
      c.exists_leaves_walk q keepRecords limit [] net
    rw [perform, readAll_snd]
    exact ⟨attempts, ⟨hhead, fun a ha => ⟨rfl, hothers a ha⟩⟩, hleaves⟩

/-- Every run leaves the network behind with attempts that its calls may make. -/
theorem exists_makes_performAll (c : Client) (net : Network) (calls : List Call) :
    ∃ made : List (List Attempt), List.Forall₂ c.Makes calls made ∧
      c.Leaves net made.flatten (c.performAll net calls) := by
  induction calls generalizing net with
  | nil => exact ⟨[], List.Forall₂.nil, Leaves.refl c net⟩
  | cons call calls ih =>
    obtain ⟨attempts, hmakes, hleaves⟩ := c.exists_makes_perform net call
    obtain ⟨made, hmade, hrest⟩ := ih (c.perform net call)
    exact ⟨attempts :: made, List.Forall₂.cons hmakes hmade, hleaves.trans hrest⟩

end OData.Client
