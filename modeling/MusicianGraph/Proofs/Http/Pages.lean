import MusicianGraph.Proofs.Graph.Wording
import MusicianGraph.Proofs.Http.BadRequest
import MusicianGraph.Proofs.Http.QueryNumbers

/-! # Pages

Lists are answered page by page: a page is cut out of the ordered rows by the number of rows to skip
and the number to take. Pages of one size, taken one after the other from the first, are the
beginning of the list, so no row is lost between two of them and none is on both. -/

namespace MusicianGraph

open Conversation

variable {α : Type}

/-- The rows of a page: so many as the limit, after those of the pages before. -/
def window {β : Type} (rows : List β) (limit page : Nat) : List β :=
  (rows.drop (page * limit)).take limit

section Windows

variable {β : Type}

/-- One more page is one more window. -/
theorem take_succ_mul (rows : List β) (limit n : Nat) :
    rows.take ((n + 1) * limit) = rows.take (n * limit) ++ window rows limit n := by
  rw [Nat.succ_mul, List.take_add, window]

/-- A row is in the window that its position falls into. -/
theorem mem_window_iff {rows : List β} {limit : Nat} (positive : 0 < limit) {p : β × Nat}
    (listed : p ∈ rows.zipIdx) (page : Nat) :
    p ∈ window rows.zipIdx limit page ↔ page = p.2 / limit := by
  rw [eq_comm, Nat.div_eq_iff positive, window, List.mem_iff_getElem?]
  constructor
  · rintro ⟨k, there⟩
    rw [List.getElem?_take, List.getElem?_drop, List.getElem?_zipIdx] at there
    split at there
    · obtain ⟨row, -, rfl⟩ := Option.map_eq_some_iff.mp there
      dsimp only
      omega
    · cases there
  · rintro ⟨least, most⟩
    have found := List.mem_zipIdx_iff_getElem?.mp listed
    have position : page * limit + (p.2 - page * limit) = p.2 := Nat.add_sub_cancel' least
    refine ⟨p.2 - page * limit, ?_⟩
    rw [List.getElem?_take, if_pos (by omega), List.getElem?_drop, List.getElem?_zipIdx, Nat.zero_add,
      position, found]
    rfl

end Windows

/-- A list that is asked for in pages: the query of it, what its rows are ordered by, the parameters
besides the page, and how its rows are read. -/
structure Listing (α : Type) where
  query : String
  order : String
  params : Record
  read : Record → Readout α

namespace Listing

/-- The ordered query, cut to a part of its rows. -/
def text (l : Listing α) : String :=
  l.query ++ " ORDER BY " ++ l.order ++ " SKIP $skip LIMIT $limit"

/-- The statement that skips some rows of the list and takes some. -/
def statement (l : Listing α) (skip limit : Nat) : Statement where
  text := l.text
  params := l.params ++ [("skip", .int skip), ("limit", .int limit)]

/-- The graph has these rows for the ordered query, whenever it is asked. It drops the rows that a
text of this form has it skip, and takes as many as the text limits it to. -/
def Kept (l : Listing α) (rows : List Record) (graph : Graph) : Prop :=
  ∀ count skip limit,
    graph count (l.statement skip limit) = .rows ((rows.drop skip).take limit)

def cut (l : Listing α) (page : Page) : Conversation (List α) := do
  let params ← ofExcept page.params
  let rows ← Conversation.query { text := l.text, params := l.params ++ params }
  readRows l.read rows

end Listing

/-- The first pages with a limit, put together. -/
def firstPages (page : Page → Conversation (List α)) (limit : Nat) :
    Nat → Conversation (List α)
  | 0 => pure []
  | n + 1 => do
      let before ← firstPages page limit n
      let last ← page ⟨.int n, .int limit⟩
      pure (before ++ last)

/-- The pages of a list are windows of its rows. Put together they are the beginning of the list,
and every row, told apart by its position, is on one of them only. Other pages are refused. -/
structure CutsPages (l : Listing α) (page : Page → Conversation (List α)) : Prop where
  cut : ∀ {rows : List Record} {graph : Graph}, l.Kept rows graph → ∀ {limit : Nat}, 0 < limit →
    ∀ (n : Nat) (threshold : LogLevel) (count : Nat),
      ((page ⟨.int n, .int limit⟩).run graph threshold count).statements =
          [l.statement (n * limit) limit] ∧
        ((page ⟨.int n, .int limit⟩).run graph threshold count).outcome =
          (window rows limit n).mapM fun row => (l.read row).outcome
  first : ∀ {rows : List Record} {graph : Graph}, l.Kept rows graph → ∀ {limit : Nat}, 0 < limit →
    ∀ (n : Nat) (threshold : LogLevel) (count : Nat),
      ((firstPages page limit n).run graph threshold count).outcome =
        (rows.take (n * limit)).mapM fun row => (l.read row).outcome
  once : ∀ {rows : List Record} {limit : Nat}, 0 < limit → ∀ row ∈ rows.zipIdx,
    ∃! n, row ∈ window rows.zipIdx limit n
  refused : ∀ {n limit : Int}, n < 0 ∨ limit ≤ 0 →
    ∀ (graph : Graph) (threshold : LogLevel) (count : Nat),
      (page ⟨.int n, .int limit⟩).run graph threshold count =
        ⟨.error (if n < 0 then .negativePage else .nonPositiveLimit), []⟩

namespace Page

/-- A page of whole numbers is refused for being before the first one, and then for being empty. -/
theorem check_of_int (n limit : Int) :
    check ⟨.int n, .int limit⟩ =
      if n < 0 then .error .negativePage
      else if limit ≤ 0 then .error .nonPositiveLimit
      else .ok () := by
  simp only [check, Value.against, Comparison.ofInt, Bind.bind, Except.bind, decide_eq_true_eq]

theorem check_of_natural (n : Nat) {limit : Nat} (positive : 0 < limit) :
    check ⟨.int n, .int limit⟩ = .ok () := by
  rw [check_of_int, if_neg (by omega), if_neg (by omega)]

/-- A page that is not refused is cut out by the number of rows before it. -/
theorem params_of_natural (n : Nat) {limit : Nat} (positive : 0 < limit) :
    params ⟨.int n, .int limit⟩ =
      .ok [("skip", .int (n * limit : Nat)), ("limit", .int limit)] := by
  rw [params, check_of_natural n positive, Int.natCast_mul]
  rfl

theorem params_of_refused {n limit : Int} (bad : n < 0 ∨ limit ≤ 0) :
    params ⟨.int n, .int limit⟩ =
      .error (if n < 0 then .negativePage else .nonPositiveLimit) := by
  rw [params, check_of_int]
  by_cases negative : n < 0
  · rw [if_pos negative, if_pos negative]
    rfl
  · rw [if_neg negative, if_neg negative, if_pos (bad.resolve_left negative)]
    rfl

end Page

namespace Listing

variable (l : Listing α)

/-- A page that is not refused is one statement, and what is read off its rows. -/
theorem run_cut {limit : Nat} (positive : 0 < limit) (n : Nat) (graph : Graph)
    (threshold : LogLevel) (count : Nat) :
    ((l.cut ⟨.int n, .int limit⟩).run graph threshold count).statements =
        [l.statement (n * limit) limit] ∧
      ((l.cut ⟨.int n, .int limit⟩).run graph threshold count).outcome =
        (graph count (l.statement (n * limit) limit)).result >>= fun rows =>
          rows.mapM fun row => (l.read row).outcome := by
  rw [Listing.cut, Page.params_of_natural n positive]
  exact run_query_settles (l.statement (n * limit) limit)
    (fun rows => Settles.readRows l.read rows) graph threshold count

variable {rows : List Record} {graph : Graph} {limit : Nat}

theorem outcome_cut (kept : l.Kept rows graph) (positive : 0 < limit) (n : Nat)
    (threshold : LogLevel) (count : Nat) :
    ((l.cut ⟨.int n, .int limit⟩).run graph threshold count).outcome =
      (window rows limit n).mapM fun row => (l.read row).outcome := by
  rw [(l.run_cut positive n graph threshold count).2, kept]
  rfl

/-- Page after page, the rows are those at the beginning of the list. -/
theorem outcome_firstPages (kept : l.Kept rows graph) (positive : 0 < limit) (n : Nat)
    (threshold : LogLevel) (count : Nat) :
    ((firstPages l.cut limit n).run graph threshold count).outcome =
      (rows.take (n * limit)).mapM fun row => (l.read row).outcome := by
  induction n with
  | zero =>
    rw [Nat.zero_mul, List.take_zero]
    rfl
  | succ n ih =>
    rw [take_succ_mul, List.mapM_append, firstPages]
    cases before : (rows.take (n * limit)).mapM fun row => (l.read row).outcome with
    | error f =>
      rw [before] at ih
      exact (run_bind_error graph threshold ih _).1
    | ok found =>
      rw [before] at ih
      rw [(run_bind_ok graph threshold ih _).1, (run_bind_pure graph threshold _ _ _).1,
        l.outcome_cut kept positive]
      cases (window rows limit n).mapM fun row => (l.read row).outcome <;> rfl

theorem cutsPages : CutsPages l l.cut where
  cut := fun kept _ positive n threshold count =>
    ⟨(l.run_cut positive n _ threshold count).1, l.outcome_cut kept positive n threshold count⟩
  first := fun kept _ positive n threshold count =>
    l.outcome_firstPages kept positive n threshold count
  once := fun positive row listed =>
    ⟨row.2 / _, (mem_window_iff positive listed _).mpr rfl,
      fun n there => (mem_window_iff positive listed n).mp there⟩
  refused := by
    intro n limit bad graph threshold count
    rw [cut, Page.params_of_refused bad]
    rfl

end Listing

section Lists

open Projection

/-- The posts that a pattern matches for a user, the newest first. -/
def Posts.listing (pattern : String) (userId : Value) : Listing Post where
  query := clauses ["MATCH", pattern, "RETURN", postFields]
  order := "p.created_at DESC"
  params := [("user_id", userId)]
  read := Stored.post

/-- The events, those created last first. -/
def Events.listing : Listing Event where
  query := clauses ["MATCH (h:User)-[:HOSTS]->(e:Event) RETURN", eventFields]
  order := "e.created_at DESC"
  params := []
  read := Stored.event

/-- A query with its order and the bounds of a page behind it is the text of a list. -/
theorem Listing.text_eq (l : Listing α) {parts : List String} {last : String}
    (filled : parts ≠ []) (query : l.query = clauses parts)
    (ordered : " " ++ last = " ORDER BY " ++ l.order ++ " SKIP $skip LIMIT $limit") :
    clauses (parts ++ [last]) = l.text := by
  rw [clauses_concat filled, Listing.text, query, String.append_assoc, ordered]
  simp only [String.append_assoc]

theorem Posts.listText_eq (pattern : String) (userId : Value) :
    listText pattern = (listing pattern userId).text := by
  have ordered : " " ++ "ORDER BY p.created_at DESC SKIP $skip LIMIT $limit" =
      " ORDER BY " ++ "p.created_at DESC" ++ " SKIP $skip LIMIT $limit" := by decide +kernel
  exact (listing pattern userId).text_eq (List.cons_ne_nil _ _) rfl ordered

theorem Events.listText_eq : listText = listing.text := by
  have ordered : " " ++ "ORDER BY e.created_at DESC SKIP $skip LIMIT $limit" =
      " ORDER BY " ++ "e.created_at DESC" ++ " SKIP $skip LIMIT $limit" := by decide +kernel
  exact listing.text_eq (List.cons_ne_nil _ _) rfl ordered

theorem Posts.list_eq (pattern : String) (userId : Value) (page : Page) :
    list pattern userId page = (listing pattern userId).cut page := by
  rw [list, listStatement, Listing.cut, listText_eq pattern userId]
  cases page.params <;> rfl

theorem Events.list_eq (page : Page) : list page = listing.cut page := by
  rw [list, listStatement, Listing.cut, listText_eq]
  cases page.params <;> rfl

end Lists

namespace Api

/-- What is accepted as a page has a number from zero on, and from one to a hundred rows. -/
theorem readPage_accepted {q : Query} {page : Page} (accepted : readPage q = .accepted page) :
    ∃ n limit : Nat, page = ⟨.int n, .int limit⟩ ∧ 0 < limit ∧ limit ≤ 100 := by
  obtain ⟨_, limit, first, limited, rfl⟩ := Reading.seq_accepted_iff.mp accepted
  obtain ⟨page, numbered, rfl⟩ := Reading.map_accepted_iff.mp first
  obtain ⟨n, rfl, natural, -⟩ := Query.defaulted_intBetween_accepted (by simp) numbered
  obtain ⟨m, rfl, positive, bounded⟩ := Query.defaulted_intBetween_accepted (by simp) limited
  have small := bounded 100 rfl
  obtain ⟨n, rfl⟩ := Int.eq_ofNat_of_zero_le natural
  obtain ⟨m, rfl⟩ := Int.eq_ofNat_of_zero_le (Int.le_of_lt positive)
  exact ⟨n, m, rfl, by omega, by omega⟩

/-- An endpoint that answers pages of a list: what is accepted as a page is never refused, and it is
cut out of the list by one statement. -/
def ServesPages (settings : Settings) (e : Endpoint) (parameters : List String) (l : Listing α) :
    Prop :=
  ∀ {request : Request} {page : Page},
    Route.destination request.method (Percent.decode request.path) = .endpoint e parameters →
    request.readQuery readPage = .accepted page →
    page.check = .ok () ∧ ∃ n limit : Nat, page = ⟨.int n, .int limit⟩ ∧ 0 < limit ∧ limit ≤ 100 ∧
      ∀ (graph : Graph) (threshold : LogLevel) (count : Nat),
        ((handle settings request).run graph threshold count).statements =
          [l.statement (n * limit) limit]

/-- What is answered sends nothing, and the page that is answered is one of the list. -/
theorem servesPages {settings : Settings} {e : Endpoint} {parameters : List String}
    {l : Listing α} (shown : List α → Response)
    (answers : ∀ request, answer settings request e parameters =
      withReading (request.readQuery readPage) fun page =>
        l.cut page >>= fun found => pure (shown found)) :
    ServesPages settings e parameters l := by
  intro request page routed accepted
  obtain ⟨n, limit, rfl, positive, bounded⟩ :=
    readPage_accepted (Reading.within_accepted_iff.mp accepted)
  refine ⟨Page.check_of_natural n positive, n, limit, rfl, positive, bounded,
    fun graph threshold count => ?_⟩
  rw [handle_of_routed request settings routed, (run_failing graph threshold count _).1, answers,
    accepted, withReading, (run_bind_pure graph threshold count _ _).2,
    (l.run_cut positive n graph threshold count).1]

section Endpoints

variable {settings : Settings} {e : Endpoint}

theorem servesPages_posts {pattern userId : String}
    (answers : ∀ request, answer settings request e [userId] =
      withReading (request.readQuery readPage) fun page =>
        posts (Posts.list pattern (.text userId) page)) :
    ServesPages settings e [userId] (Posts.listing pattern (.text userId)) := by
  refine servesPages (fun found => .ok (.list (found.map Post.dump))) fun request => ?_
  simp only [answers, Posts.list_eq]
  rfl

theorem servesPages_events : ServesPages settings .listEvents [] Events.listing := by
  refine servesPages (fun found => .ok (.list (found.map Event.dump))) fun request => ?_
  simp only [← Events.list_eq]
  rfl

end Endpoints

/-- Both lists of posts and the list of events are answered in pages, by the operations and by the
endpoints. -/
theorem lists_cut_into_pages (settings : Settings) :
    (∀ userId, CutsPages (Posts.listing Posts.feedPattern userId) (Posts.feed userId)) ∧
      (∀ userId, CutsPages (Posts.listing Posts.authorPattern userId) (Posts.byUser userId)) ∧
      CutsPages Events.listing Events.list ∧
      (∀ userId, ServesPages settings .feed [userId]
        (Posts.listing Posts.feedPattern (.text userId))) ∧
      (∀ userId, ServesPages settings .userPosts [userId]
        (Posts.listing Posts.authorPattern (.text userId))) ∧
      ServesPages settings .listEvents [] Events.listing := by
  have feed : ∀ userId, Posts.feed userId = (Posts.listing Posts.feedPattern userId).cut :=
    fun userId => funext (Posts.list_eq Posts.feedPattern userId)
  have byUser : ∀ userId, Posts.byUser userId = (Posts.listing Posts.authorPattern userId).cut :=
    fun userId => funext (Posts.list_eq Posts.authorPattern userId)
  have events : Events.list = Events.listing.cut := funext Events.list_eq
  refine ⟨fun userId => ?_, fun userId => ?_, ?_, fun userId => ?_, fun userId => ?_, ?_⟩
  · rw [feed]
    exact Listing.cutsPages _
  · rw [byUser]
    exact Listing.cutsPages _
  · rw [events]
    exact Listing.cutsPages _
  · exact servesPages_posts fun _ => rfl
  · exact servesPages_posts fun _ => rfl
  · exact servesPages_events

/-- A graph that has rows, and cuts out of them what it is asked for. -/
def cutting (rows : List Record) : Graph := fun _ s =>
  match s.params.get? "skip", s.params.get? "limit" with
  | some (.int skip), some (.int limit) => .rows ((rows.drop skip.toNat).take limit.toNat)
  | _, _ => .rows []

def threeEvents : List Record :=
  ["a", "b", "c"].map fun id => [("event_id", .text id), ("host_id", .text "me"),
    ("name", .text "Jam")]

def secondPage : Request where
  method := "GET"
  path := "/api/events"
  query := "page=1&limit=2"

theorem lists_cut_into_pages_of_events :
    Events.listing.Kept threeEvents (cutting threeEvents) ∧
      ((firstPages Events.list 2 2).run (cutting threeEvents) .info 0).outcome.map
          (List.map Event.eventId) = .ok ["a", "b", "c"] ∧
      Route.destination secondPage.method (Percent.decode secondPage.path) =
        .endpoint .listEvents [] ∧
      secondPage.readQuery readPage = .accepted ⟨.int 1, .int 2⟩ ∧
      ((handle .standard secondPage).run (cutting threeEvents) .info 0).statements =
        [Events.listing.statement 2 2] := by
  have kept : Events.listing.Kept threeEvents (cutting threeEvents) := fun _ _ _ => rfl
  have routed : Route.destination secondPage.method (Percent.decode secondPage.path) =
      .endpoint .listEvents [] := by
    decide +kernel
  have accepted : secondPage.readQuery readPage = .accepted ⟨.int 1, .int 2⟩ := by
    have numbers : ((secondPage.readQuery readPage).result "").toOption.map
        (fun page => (page.page.whole?, page.limit.whole?)) = some (some 1, some 2) := by
      decide +kernel
    cases read : secondPage.readQuery readPage with
    | accepted page =>
      obtain ⟨n, limit, rfl, -, -⟩ := readPage_accepted (Reading.within_accepted_iff.mp read)
      rw [read] at numbers
      cases numbers
      rfl
    | rejected problems => rw [read] at numbers; cases numbers
    | stopped kind => rw [read] at numbers; cases numbers
  obtain ⟨-, -, events, -, -, served⟩ := lists_cut_into_pages .standard
  refine ⟨kept, ?_, routed, accepted, ?_⟩
  · rw [events.first kept (by decide)]
    rfl
  · obtain ⟨-, n, limit, same, -, -, sent⟩ := served routed accepted
    cases same
    exact sent _ _ _

end Api

end MusicianGraph
