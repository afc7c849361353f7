import Mathlib.Algebra.Group.Int.Defs
import Mathlib.Algebra.Group.Nat.Defs
import MusicianGraph.Proofs.Http.Pages
import MusicianGraph.Proofs.Http.Routes

/-! # Which pages the graph can be asked for

The graph counts with 64 bits. The size of a page is bounded far below that, but its number is not
bounded from above: the number of rows to skip is a product without a bound, and it can be sent
exactly up to the last page that begins within range. Later pages are accepted all the same. -/

namespace MusicianGraph

open Conversation

/-- A whole number that the graph can be sent: it has 64 bits, one of them for its sign. -/
def IsCarried (n : Int) : Prop := -2 ^ 63 ≤ n ∧ n < 2 ^ 63

instance (n : Int) : Decidable (IsCarried n) := inferInstanceAs (Decidable (_ ∧ _))

/-- A parameter of the statement is a whole number that the graph can be sent. -/
def Statement.Carries (s : Statement) (name : String) : Prop :=
  ∃ n, s.params.get? name = some (.int n) ∧ IsCarried n

theorem Statement.carries_iff {s : Statement} {name : String} {n : Int}
    (given : s.params.get? name = some (.int n)) : s.Carries name ↔ IsCarried n := by
  constructor
  · rintro ⟨m, same, carried⟩
    cases given.symm.trans same
    exact carried
  · exact fun carried => ⟨n, given, carried⟩

/-- The last page of a size that begins within 64 bits. -/
def Page.last (limit : Nat) : Nat := (2 ^ 63 - 1) / limit

section Numbers

variable {n limit : Nat}

theorem isCarried_natural_iff : IsCarried (n : Int) ↔ n < 2 ^ 63 := by
  rw [IsCarried]
  omega

/-- The rows before a page can be skipped exactly up to the last page. -/
theorem isCarried_skip_iff (positive : 0 < limit) :
    IsCarried (n * limit : Nat) ↔ n ≤ Page.last limit := by
  rw [isCarried_natural_iff, Page.last, Nat.le_div_iff_mul_le positive]
  omega

/-- Smaller pages have a later last one. -/
theorem Page.last_anti {most : Nat} (positive : 0 < limit) (bounded : limit ≤ most) :
    last most ≤ last limit :=
  Nat.div_le_div_left bounded positive

end Numbers

/-- The statement cuts out a page. How many rows it takes can always be sent; how many it skips, up
to the last page of that size, and so in any case up to the last one of a hundred rows. -/
structure SendsPage (n limit : Nat) (s : Statement) : Prop where
  skips : s.params.get? "skip" = some (.int (n * limit : Nat))
  takes : s.params.get? "limit" = some (.int limit)
  carries_limit : s.Carries "limit"
  carries_skip_iff : s.Carries "skip" ↔ n ≤ Page.last limit
  carries_skip : n ≤ Page.last 100 → s.Carries "skip"

/-- The bounds of a page can be looked up in its statement, next to what else it asks for. -/
theorem Listing.sendsPage {α : Type} {l : Listing α} {n limit : Nat}
    (free : l.params.get? "skip" = none ∧ l.params.get? "limit" = none) (positive : 0 < limit)
    (bounded : limit ≤ 100) : SendsPage n limit (l.statement (n * limit) limit) := by
  have skips : (l.statement (n * limit) limit).params.get? "skip" =
      some (.int (n * limit : Nat)) := Record.get?_append free.1 _
  have takes : (l.statement (n * limit) limit).params.get? "limit" = some (.int limit) :=
    Record.get?_append free.2 _
  have early := (Statement.carries_iff skips).trans (isCarried_skip_iff positive)
  constructor
  case skips => exact skips
  case takes => exact takes
  case carries_limit =>
    rw [Statement.carries_iff takes, isCarried_natural_iff]
    omega
  case carries_skip_iff => exact early
  case carries_skip =>
    intro before
    exact early.mpr (before.trans (Page.last_anti positive bounded))

/-- The endpoints that answer pages. -/
def Endpoint.paged : List Endpoint := [.feed, .userPosts, .listEvents]

namespace Api

/-- Numbers in plain digits are the page that is asked for, and no page is too far for that. -/
theorem readPage_of_digits {request : Request} {n limit : Option Nat}
    (numbered : (Query.ofString request.query).get? "page" = n.map toString)
    (short : ∀ m ∈ n, (Nat.toDigits 10 m).length ≤ WholeText.longest)
    (limited : (Query.ofString request.query).get? "limit" = limit.map toString)
    (bounded : ∀ m ∈ limit, 1 ≤ m ∧ m ≤ 100) :
    request.readQuery readPage = .accepted ⟨.int (n.getD 0), .int (limit.getD 20)⟩ := by
  have page : (Query.ofString request.query).defaulted "page" (.int 0)
      (fun v => (Query.intBetween 0 none v).map .int) = .accepted (Value.int (n.getD 0)) := by
    rw [Query.defaulted_of_digits (Value.int 0) Value.int numbered short (by simp)]
    cases n <;> rfl
  have few : ∀ m ∈ limit, (Nat.toDigits 10 m).length ≤ WholeText.longest := by
    intro m given
    have := bounded m given
    exact WholeText.short_of_lt_thousand (by omega)
  have within : ∀ m ∈ limit, (1 : Int) ≤ m ∧ ∀ bound ∈ some (100 : Int), (m : Int) ≤ bound := by
    intro m given
    have := bounded m given
    refine ⟨by omega, ?_⟩
    rintro bound ⟨⟩
    omega
  have size : (Query.ofString request.query).defaulted "limit" (.int 20)
      (fun v => (Query.intBetween 1 (some 100) v).map .int) =
        .accepted (Value.int (limit.getD 20)) := by
    rw [Query.defaulted_of_digits (Value.int 20) Value.int limited few within]
    cases limit <;> rfl
  rw [Request.readQuery, Reading.within_accepted_iff, readPage, page, size]
  rfl

section Lists

variable {settings : Settings} {e : Endpoint}

/-- An endpoint with pages answers those of a list, in whose statement there is nothing else by the
names of their bounds. -/
theorem exists_listing {method path : String} {parameters : List String} (settings : Settings)
    (paged : e ∈ Endpoint.paged)
    (routed : Route.destination method path = .endpoint e parameters) :
    ∃ (α : Type) (l : Listing α), ServesPages settings e parameters l ∧
      l.params.get? "skip" = none ∧ l.params.get? "limit" = none := by
  simp only [Endpoint.paged, List.mem_cons, List.not_mem_nil, or_false] at paged
  rcases paged with rfl | rfl | rfl
  · obtain ⟨userId, rfl⟩ := List.length_eq_one_iff.mp
      (Route.length_of_destination routed (by decide))
    exact ⟨Post, _, servesPages_posts fun _ => rfl, rfl, rfl⟩
  · obtain ⟨userId, rfl⟩ := List.length_eq_one_iff.mp
      (Route.length_of_destination routed (by decide))
    exact ⟨Post, _, servesPages_posts fun _ => rfl, rfl, rfl⟩
  · obtain rfl := List.eq_nil_of_length_eq_zero
      (Route.length_of_destination routed (by decide))
    exact ⟨Event, _, servesPages_events, rfl, rfl⟩

end Lists

/-- A request for a page that is accepted sends one statement. How many rows it takes can be sent to
the graph, and how many it skips exactly if the page is not after the last one of its size. -/
theorem pages_carried_iff (settings : Settings) {request : Request} {e : Endpoint}
    {parameters : List String} {page : Page} (paged : e ∈ Endpoint.paged)
    (routed : Route.destination request.method (Percent.decode request.path) =
      .endpoint e parameters)
    (accepted : request.readQuery readPage = .accepted page) :
    ∃ n limit : Nat, page = ⟨.int n, .int limit⟩ ∧
      ∀ (graph : Graph) (threshold : LogLevel) (count : Nat), ∃ s,
        ((handle settings request).run graph threshold count).statements = [s] ∧
          SendsPage n limit s := by
  obtain ⟨α, l, serves, free⟩ := exists_listing settings paged routed
  obtain ⟨-, n, limit, same, positive, bounded, sent⟩ := serves routed accepted
  exact ⟨n, limit, same, fun graph threshold count =>
    ⟨_, sent graph threshold count, Listing.sendsPage free positive bounded⟩⟩

section Samples

/-- A request for a page of a hundred posts. -/
def feedRequest (n : Nat) : Request where
  method := "GET"
  path := "/api/users/me/feed"
  query := "page=" ++ toString n ++ "&limit=100"

/-- What becomes of it with a graph that has no posts. -/
def feedRun (n : Nat) : Run Response :=
  (handle .standard (feedRequest n)).run (.ofReplies []) .info 0

theorem feedRequest_routed (n : Nat) :
    Route.destination (feedRequest n).method (Percent.decode (feedRequest n).path) =
      .endpoint .feed ["me"] := by
  change Route.destination "GET" (Percent.decode "/api/users/me/feed") = _
  decide +kernel

theorem feedRequest_accepted {n : Nat} (short : (Nat.toDigits 10 n).length ≤ WholeText.longest)
    (read : Query.ofString (feedRequest n).query = [("page", toString n), ("limit", "100")]) :
    (feedRequest n).readQuery readPage = .accepted ⟨.int n, .int 100⟩ := by
  have numbered : (Query.ofString (feedRequest n).query).get? "page" = (some n).map toString := by
    rw [read]
    rfl
  have limited : (Query.ofString (feedRequest n).query).get? "limit" =
      (some 100).map toString := by
    rw [read]
    rfl
  refine readPage_of_digits numbered ?_ limited (by simp)
  rintro m ⟨⟩
  exact short

theorem pages_carried_iff_last :
    Endpoint.feed ∈ Endpoint.paged ∧
      Route.destination (feedRequest (Page.last 100)).method
        (Percent.decode (feedRequest (Page.last 100)).path) = .endpoint .feed ["me"] ∧
      (feedRequest (Page.last 100)).readQuery readPage =
        .accepted ⟨.int (Page.last 100 : Nat), .int 100⟩ ∧
      ∃ s, (feedRun (Page.last 100)).statements = [s] ∧ SendsPage (Page.last 100) 100 s := by
  have paged : Endpoint.feed ∈ Endpoint.paged := by decide
  have accepted : (feedRequest (Page.last 100)).readQuery readPage =
      .accepted ⟨.int (Page.last 100 : Nat), .int 100⟩ :=
    feedRequest_accepted (by decide +kernel) (by decide +kernel)
  obtain ⟨n, limit, same, sends⟩ :=
    pages_carried_iff .standard paged (feedRequest_routed _) accepted
  cases same
  exact ⟨paged, feedRequest_routed _, accepted, sends _ _ _⟩

/-- The page after the last one is accepted all the same, and what is sent for it is out of
range. -/
theorem exists_skip_not_carried :
    Route.destination (feedRequest (Page.last 100 + 1)).method
        (Percent.decode (feedRequest (Page.last 100 + 1)).path) = .endpoint .feed ["me"] ∧
      (feedRequest (Page.last 100 + 1)).readQuery readPage =
        .accepted ⟨.int (Page.last 100 + 1 : Nat), .int 100⟩ ∧
      ∃ s r, feedRun (Page.last 100 + 1) = ⟨.ok r, [.sent s]⟩ ∧ r.status = 200 ∧
        s.params.get? "skip" = some (.int 9223372036854775900) ∧ ¬ s.Carries "skip" := by
  have accepted : (feedRequest (Page.last 100 + 1)).readQuery readPage =
      .accepted ⟨.int (Page.last 100 + 1 : Nat), .int 100⟩ :=
    feedRequest_accepted (by decide +kernel) (by decide +kernel)
  refine ⟨feedRequest_routed _, accepted, ?_⟩
  rw [feedRun, handle_of_routed _ _ (feedRequest_routed _), answer, accepted]
  refine ⟨_, _, rfl, rfl, rfl, ?_⟩
  rw [Statement.carries_iff rfl]
  decide +kernel

end Samples

end Api

end MusicianGraph
