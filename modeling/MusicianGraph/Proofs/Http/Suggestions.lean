import MusicianGraph.Proofs.Service.Suggesting
import MusicianGraph.Proofs.Http.BadRequest
import MusicianGraph.Proofs.Http.QueryNumbers

/-! # How suggestions are answered

A request for suggestions takes two steps: the user is looked up, and candidates are fetched and
ranked. Only the second step may find the graph unavailable; whatever else fails is an internal
error. The numbers in force are those of the request, zero included, and otherwise the settings. -/

namespace MusicianGraph

open Conversation

namespace Api

/-- The request asks for suggestions to a user, by a strategy and with a limit and a number of
suggestions that are in force for it. -/
inductive AsksForSuggestions (settings : Settings) (request : Request) :
    String → Strategy → Int → Int → Prop
  | discovery {userId : String} {q : SuggestionQuery}
      (routed : Route.destination request.method (Percent.decode request.path) =
        .endpoint .suggestions [userId])
      (asked : request.readQuery SuggestionQuery.read = .accepted q) :
      AsksForSuggestions settings request userId q.strategy
        (q.limit.getD settings.candidateLimit) (q.k.getD settings.suggestionCount)
  | onboarding {userId : String}
      (routed : Route.destination request.method (Percent.decode request.path) =
        .endpoint .onboarding [userId]) :
      AsksForSuggestions settings request userId .genres settings.onboardingLimit
        settings.suggestionCount

section Plain

variable {q : Query} {least most : Int}

/-- A number that may be left out, written in digits. -/
theorem defaulted_of_digits {name : String} {n : Option Nat}
    (given : q.get? name = n.map toString)
    (bounded : ∀ m ∈ n, least ≤ (m : Int) ∧ (m : Int) ≤ most ∧ m ≤ 500) :
    q.defaulted name none (fun v => (Query.intBetween least (some most) v).map some) =
      .accepted (n.map Int.ofNat) := by
  have short : ∀ m ∈ n, (Nat.toDigits 10 m).length ≤ WholeText.longest := by
    intro m given
    obtain ⟨-, -, small⟩ := bounded m given
    exact WholeText.short_of_lt_thousand (by omega)
  have within : ∀ m ∈ n, least ≤ (m : Int) ∧ ∀ bound ∈ some most, (m : Int) ≤ bound := by
    intro m given
    obtain ⟨above, below, -⟩ := bounded m given
    exact ⟨above, fun bound same => Option.some.inj same ▸ below⟩
  rw [Query.defaulted_of_digits none some given short within]
  cases n <;> rfl

/-- What a query says in plain words and digits is what is asked. -/
theorem AsksForSuggestions.of_plain {settings : Settings} {request : Request} {userId : String}
    {strategy : Option Strategy} {k limit : Option Nat}
    (routed : Route.destination request.method (Percent.decode request.path) =
      .endpoint .suggestions [userId])
    (named : (Query.ofString request.query).get? "strategy" = strategy.map Strategy.name)
    (wanted : (Query.ofString request.query).get? "k" = k.map toString)
    (few : ∀ n ∈ k, n ≤ 100)
    (limited : (Query.ofString request.query).get? "limit" = limit.map toString)
    (bounded : ∀ n ∈ limit, 1 ≤ n ∧ n ≤ 500) :
    AsksForSuggestions settings request userId (strategy.getD .genres)
      ((limit.map Int.ofNat).getD settings.candidateLimit)
      ((k.map Int.ofNat).getD settings.suggestionCount) := by
  have chosen : (Query.ofString request.query).defaulted "strategy" .genres readStrategy =
      .accepted (strategy.getD .genres) := by
    rw [Query.defaulted, named]
    cases strategy with
    | none => rfl
    | some chosen => cases chosen <;> rfl
  have counted : (Query.ofString request.query).defaulted "k" none
      (fun v => (Query.intBetween 0 (some 100) v).map some) = .accepted (k.map Int.ofNat) :=
    defaulted_of_digits wanted fun n given => by have := few n given; omega
  have fetched : (Query.ofString request.query).defaulted "limit" none
      (fun v => (Query.intBetween 1 (some 500) v).map some) = .accepted (limit.map Int.ofNat) :=
    defaulted_of_digits limited fun n given => by have := bounded n given; omega
  have asked : request.readQuery SuggestionQuery.read =
      .accepted ⟨strategy.getD .genres, k.map Int.ofNat, limit.map Int.ofNat⟩ := by
    rw [Request.readQuery, Reading.within_accepted_iff, SuggestionQuery.read, chosen, counted,
      fetched]
    rfl
  exact .discovery routed asked

end Plain

section Answers

variable (userId : String) (graph : Graph) (threshold : LogLevel) (count : Nat)

/-- What the graph tells about a user: nothing, a profile, or a failure. -/
def lookedUp : Except Failure (Option UserProfile) :=
  (graph count (Profiles.lookupStatement (.text userId))).told fun row => (Stored.profile row).outcome

/-- The statement that asks for candidates for a user. -/
def candidatesFor (user : UserProfile) (limit : Int) : Statement :=
  Discovery.candidatesStatement (.text user.userId) (.int limit) (.bool true)

/-- The answers to a request for suggestions. The look-up is the first statement; the one that asks
for candidates is the second, and it is sent only if there is room for one. -/
structure SuggestionsAnswered (strategy : Strategy) (limit k : Int) (r : Run Response) : Prop where
  unknown : graph count (Profiles.lookupStatement (.text userId)) = .rows [] →
    r.statements = [Profiles.lookupStatement (.text userId)] ∧
      r.outcome = .ok (.detail 404 (.text ("User " ++ userId ++ " not found")))
  unreadable : ∀ f, lookedUp userId graph count = .error f →
    r.statements = [Profiles.lookupStatement (.text userId)] ∧ r.outcome = .ok (.failed f)
  sent : ∀ user, lookedUp userId graph count = .ok (some user) →
    r.statements = Profiles.lookupStatement (.text userId) ::
      if 0 < limit then [candidatesFor user limit] else []
  params : ∀ user, lookedUp userId graph count = .ok (some user) →
    r.statements.map Statement.params = [("user_id", .text userId)] ::
      if 0 < limit then
        [[("user_id", .text user.userId), ("limit", .int limit), ("exclude_followed", .bool true)]]
      else []
  unavailable : ∀ user fault message, lookedUp userId graph count = .ok (some user) → 0 < limit →
    graph (count + 1) (candidatesFor user limit) = .fault fault message → fault.isOfGraph = true →
      r.outcome = .ok (.detail 503 (.text "Could not fetch follow candidates"))
  /-- The suggestions are the ranking of all that was fetched. -/
  suggested : ∀ user profiles, lookedUp userId graph count = .ok (some user) →
    Discovery.fetched limit (graph (count + 1) (candidatesFor user limit)) = .ok profiles →
    (strategy = .activity → 0 < k →
      ∀ c ∈ profiles, isFiniteNumber (Float.ofInt c.postCount) = true) →
    ∃ ranked, Selection.rankFor strategy user profiles (.int k) = .ok ranked ∧
      r.outcome = .ok (.ok (Suggestions.dump ⟨user, strategy.name, ranked⟩)) ∧
      ranked.length ≤ k.toNat ∧ (∀ entry ∈ ranked, entry.profile ∈ profiles) ∧
      (profiles = [] → ranked = [])

/-- Suggesting to a user who is known, in the part that may find the graph unavailable. -/
def suggestToUser (settings : Settings) (strategy : Strategy) (limit k : Int)
    (user : UserProfile) : Conversation Response :=
  recover (noCandidates userId) do
    let ranked ← Discovery.suggest settings user (.text strategy.name) (.int limit) (.int k)
    pure (.ok (Suggestions.dump ⟨user, strategy.name, ranked⟩))

/-- The handler of an unavailable graph sends nothing. -/
theorem run_noCandidates (c : Conversation Response) :
    ((recover (noCandidates userId) c).run graph threshold count).statements =
        (c.run graph threshold count).statements ∧
      (∀ response, (c.run graph threshold count).outcome = .ok response →
        ((recover (noCandidates userId) c).run graph threshold count).outcome = .ok response) ∧
      (∀ fault message, (c.run graph threshold count).outcome = .error (.graph fault message) →
        fault.isOfGraph = true →
        ((recover (noCandidates userId) c).run graph threshold count).outcome =
          .ok (.detail 503 (.text "Could not fetch follow candidates"))) := by
  have answer : ∀ message, Settles
      (do
        log .error ("Candidate fetch failed for " ++ userId ++ ": " ++ message)
        pure (Response.detail 503 (.text "Could not fetch follow candidates")))
      (.ok (.detail 503 (.text "Could not fetch follow candidates"))) :=
    fun message => (Settles.pure _).note _
  cases result : (c.run graph threshold count).outcome with
  | ok response =>
    rw [run_recover_of_ok graph threshold result]
    exact ⟨rfl, fun _ same => result.trans same, nofun⟩
  | error f =>
    have noResponse (response : Response) :
        ¬ (Except.error f : Except Failure Response) = .ok response := by simp
    -- Failures that are not of the graph, and faults that are not its own, pass through.
    by_cases handled : ∃ fault message, f = .graph fault message ∧ fault.isOfGraph = true
    · obtain ⟨fault, message, rfl, own⟩ := handled
      have handler : noCandidates userId (.graph fault message) = some _ := if_pos own
      obtain ⟨last, same⟩ := run_recover_of_handled graph threshold result handler (answer message)
      exact ⟨same, fun response ended => absurd ended (noResponse response), fun _ _ _ _ => last⟩
    · have unhandled : noCandidates userId f = none := by
        cases f with
        | graph fault message =>
          exact if_neg fun own => handled ⟨fault, message, rfl, own⟩
        | _ => rfl
      rw [run_recover_of_unhandled graph threshold result unhandled]
      refine ⟨rfl, fun response ended => absurd ended (noResponse response), ?_⟩
      intro fault message same own
      exact absurd ⟨fault, message, Except.error.inj same, own⟩ handled

/-- What follows the look-up of a user. -/
theorem run_suggestTo (settings : Settings) (strategy : Strategy) (limit k : Int) :
    (∀ f, lookedUp userId graph count = .error f →
      ((suggestTo settings userId strategy limit k).run graph threshold count).statements =
          [Profiles.lookupStatement (.text userId)] ∧
        ((suggestTo settings userId strategy limit k).run graph threshold count).outcome =
          .error f) ∧
    (lookedUp userId graph count = .ok none →
      ((suggestTo settings userId strategy limit k).run graph threshold count).statements =
          [Profiles.lookupStatement (.text userId)] ∧
        ((suggestTo settings userId strategy limit k).run graph threshold count).outcome =
          .ok (noUser userId)) ∧
    ∀ user, lookedUp userId graph count = .ok (some user) →
      ((suggestTo settings userId strategy limit k).run graph threshold count).statements =
          Profiles.lookupStatement (.text userId) ::
            ((suggestToUser userId settings strategy limit k user).run graph threshold
              (count + 1)).statements ∧
        ((suggestTo settings userId strategy limit k).run graph threshold count).outcome =
          ((suggestToUser userId settings strategy limit k user).run graph threshold
            (count + 1)).outcome := by
  obtain ⟨statements, outcome⟩ :=
    (Profiles.get_isExchange (.text userId)).sent rfl graph threshold count
  rw [suggestTo, withUser]
  refine ⟨?_, ?_, ?_⟩
  · intro f failed
    obtain ⟨last, sent⟩ := run_bind_error graph threshold (outcome.trans failed) _
    exact ⟨sent.trans statements, last⟩
  · intro nobody
    obtain ⟨last, sent⟩ := run_bind_ok graph threshold (outcome.trans nobody) _
    rw [sent, last, statements]
    exact ⟨rfl, rfl⟩
  · intro user found
    obtain ⟨last, sent⟩ := run_bind_ok graph threshold (outcome.trans found) _
    rw [sent, last, statements]
    exact ⟨rfl, rfl⟩

end Answers

/-- What is asked is suggested, and failures that remain are internal errors. -/
theorem AsksForSuggestions.handle_eq {settings : Settings} {request : Request} {userId : String}
    {strategy : Strategy} {limit k : Int}
    (asks : AsksForSuggestions settings request userId strategy limit k) :
    handle settings request =
      (suggestTo settings userId strategy limit k).recover fun f => some (pure (.failed f)) := by
  cases asks with
  | discovery routed asked =>
    rw [handle_of_routed request settings routed, answer, asked]
    rfl
  | onboarding routed => exact handle_of_routed request settings routed

/-- Every request for suggestions is answered in this way, whatever the settings and the graph
are. -/
theorem suggestions_answered {settings : Settings} {request : Request} {userId : String}
    {strategy : Strategy} {limit k : Int}
    (asks : AsksForSuggestions settings request userId strategy limit k) (graph : Graph)
    (threshold : LogLevel) (count : Nat) :
    SuggestionsAnswered userId graph count strategy limit k
      ((handle settings request).run graph threshold count) := by
  -- The outermost handler sends nothing and keeps all but failures.
  have answered := asks.handle_eq
  obtain ⟨statements, outcome⟩ :=
    run_failing graph threshold count (suggestTo settings userId strategy limit k)
  obtain ⟨failed, nobody, known⟩ := run_suggestTo userId graph threshold count settings strategy
    limit k
  rw [← answered] at statements outcome
  have sent : ∀ user, lookedUp userId graph count = .ok (some user) →
      ((handle settings request).run graph threshold count).statements =
        Profiles.lookupStatement (.text userId) ::
          if 0 < limit then [candidatesFor user limit] else [] := by
    intro user found
    rw [statements, (known user found).1, suggestToUser, (run_noCandidates ..).1,
      (run_bind_pure ..).2, (Discovery.suggest_run ..).1]
    rfl
  constructor
  case unknown =>
    intro none
    obtain ⟨sent, last⟩ := nobody (by rw [lookedUp, none]; rfl)
    rw [statements, outcome, sent, last]
    exact ⟨rfl, rfl⟩
  case unreadable =>
    intro f unreadable
    obtain ⟨sent, last⟩ := failed f unreadable
    rw [statements, outcome, sent, last]
    exact ⟨rfl, rfl⟩
  all_goals
    intro user
  case sent => exact sent user
  case params =>
    intro found
    rw [sent user found, List.map_cons]
    split <;> rfl
  case unavailable =>
    intro fault message found room down own
    have fetched : ((Discovery.suggest settings user (.text strategy.name) (.int limit)
        (.int k)).run graph threshold (count + 1)).outcome = .error (.graph fault message) := by
      rw [(Discovery.suggest_run ..).2, Discovery.fetched, if_pos room]
      change Except.bind (Except.bind (graph (count + 1) (candidatesFor user limit)).result _) _ = _
      rw [down]
      rfl
    rw [outcome, (known user found).2, suggestToUser,
      (run_noCandidates ..).2.2 fault message (by rw [(run_bind_pure ..).1, fetched]; rfl) own]
  case suggested =>
    intro profiles found fetched convertible
    obtain ⟨ranked, success, short, members⟩ :=
      Selection.exists_rankFor strategy user profiles k convertible
    have result : ((Discovery.suggest settings user (.text strategy.name) (.int limit)
        (.int k)).run graph threshold (count + 1)).outcome = .ok ranked := by
      rw [(Discovery.suggest_run ..).2]
      change Except.bind (Discovery.fetched limit (graph (count + 1) (candidatesFor user limit))) _
        = _
      rw [fetched]
      exact success
    refine ⟨ranked, success, ?_, short, members, ?_⟩
    · rw [outcome, (known user found).2, suggestToUser,
        (run_noCandidates ..).2.1 _ (by rw [(run_bind_pure ..).1, result]; rfl)]
    · rintro rfl
      exact List.eq_nil_iff_forall_not_mem.mpr fun entry kept =>
        List.not_mem_nil (members entry kept)

def suggestionsRequest (query : String) : Request where
  method := "GET"
  path := "/api/users/me/suggestions"
  query := query

/-- The answer to the request when the graph gives these replies. -/
def suggestionsRun (query : String) (replies : List Reply) : Run Response :=
  (handle .standard (suggestionsRequest query)).run (.ofReplies replies) .info 0

def userRow (userId : String) (postCount : Int) : Record :=
  [("user_id", .text userId), ("username", .text userId), ("post_count", .int postCount)]

theorem suggestions_answered_none_wanted :
    AsksForSuggestions .standard (suggestionsRequest "strategy=activity&k=0") "me" .activity 35 0 ∧
      SuggestionsAnswered "me" (.ofReplies [.rows [userRow "me" 0], .rows [userRow "you" 1]]) 0
        .activity 35 0 (suggestionsRun "strategy=activity&k=0"
          [.rows [userRow "me" 0], .rows [userRow "you" 1]]) := by
  have asks := @AsksForSuggestions.of_plain .standard (suggestionsRequest "strategy=activity&k=0")
    "me" (some .activity) (some 0) none
    (by decide +kernel) (by decide +kernel) (by decide +kernel) (by decide) (by decide +kernel)
    nofun
  exact ⟨asks, suggestions_answered asks _ .info 0⟩

/-- A look-up that fails is neither an unknown user nor an unavailable graph. Candidates are asked
for by the identifier that was found. A number of posts beyond floating point numbers cannot be
ranked, although its row can be read. -/
theorem suggestions_answered_otherwise :
    ((suggestionsRun "" [.fault .serviceUnavailable "down"]).status? = some 500 ∧
        (suggestionsRun "" [.fault .serviceUnavailable "down"]).statements.length = 1) ∧
      (suggestionsRun "" [.rows [userRow "you" 0]]).statements.map
        (fun s => (s.params.getOrNull "user_id").shownText) = ["me", "you"] ∧
      (suggestionsRun "strategy=activity"
        [.rows [userRow "me" 0], .rows [userRow "you" (10 ^ 400)]]).status? = some 500 := by
  decide +kernel

end Api

end MusicianGraph
