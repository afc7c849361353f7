import MusicianGraph.Proofs.Http.BadRequest
import MusicianGraph.Value.Count

/-! # What is answered to follows and unfollows

A request to follow or to unfollow is written, and then three questions are asked: whether the user
follows the target, and how many follow and are followed, of the target first and then of the user.
The answer has one value from each of the three replies: whether they are linked, the followers of
the target and the ones that the user follows. Whatever else the replies hold makes no
difference. -/

namespace MusicianGraph

open Conversation

variable {α β : Type}

section Questions

/-- What is read off the first row of a reply, and what is taken if there is none. -/
def Reply.readFirst (reply : Reply) (missing : α) (read : Record → Except Failure α) :
    Except Failure α := do
  let rows ← reply.result
  match rows.head? with
  | none => .ok missing
  | some row => read row

/-- The value in a column of the first row, if there are both. -/
def Reply.value? (reply : Reply) (name : String) : Option Value := do
  let rows ← reply.result.toOption
  let row ← rows.head?
  row.get? name

namespace Conversation

/-- After `count` statements the conversation ends as it is told, and unless this is a failure it
has sent the given statements. -/
structure Exchanges (graph : Graph) (count : Nat) (c : Conversation α) (sent : List Statement)
    (told : Except Failure α) : Prop where
  outcome : ∀ threshold, (c.run graph threshold count).outcome = told
  statements : ∀ threshold a, told = .ok a → (c.run graph threshold count).statements = sent

namespace Exchanges

variable {graph : Graph} {count : Nat}

theorem of_settles {c : Conversation α} {outcome : Except Failure α} (settled : Settles c outcome) :
    Exchanges graph count c [] outcome :=
  ⟨fun threshold => (settled graph threshold count).1,
    fun threshold _ _ => (settled graph threshold count).2⟩

/-- The first row of a reply is read. -/
theorem readFirst (s : Statement) (missing : α) (read : Record → Except Failure α) :
    Exchanges graph count (do
      match ← queryFirst s with
      | none => pure missing
      | some row => ofExcept (read row)) [s] ((graph count s).readFirst missing read) := by
  have settled : ∀ rows : List Record, Settles
      (match rows.head? with
        | none => pure missing
        | some row => ofExcept (read row))
      (match rows.head? with
        | none => .ok missing
        | some row => read row) := by
    intro rows
    cases rows.head? with
    | none => exact .pure missing
    | some row => exact .ofExcept (read row)
  rw [queryFirst, bind_assoc]
  have whole := fun threshold => run_query_settles s settled graph threshold count
  exact ⟨fun threshold => (whole threshold).2, fun threshold _ _ => (whole threshold).1⟩

section Binds

variable {c : Conversation α} {sent more : List Statement} {f : α → Conversation β}

theorem bind_error {e : Failure} (head : Exchanges graph count c sent (.error e))
    (f : α → Conversation β) (more : List Statement) :
    Exchanges graph count (c >>= f) more (.error e) :=
  ⟨fun threshold => (run_bind_error graph threshold (head.outcome threshold) f).1, nofun⟩

theorem bind_ok {a : α} {told : Except Failure β} (head : Exchanges graph count c sent (.ok a))
    (tail : Exchanges graph (count + sent.length) (f a) more told) :
    Exchanges graph count (c >>= f) (sent ++ more) told := by
  have started := fun threshold => head.statements threshold a rfl
  refine ⟨fun threshold => ?_, fun threshold b ended => ?_⟩
  · rw [(run_bind_ok graph threshold (head.outcome threshold) f).1, started]
    exact tail.outcome threshold
  · rw [(run_bind_ok graph threshold (head.outcome threshold) f).2, started,
      tail.statements threshold b ended]

/-- One exchange comes after the other, unless the first one fails. -/
theorem bind {told : Except Failure α} {next : α → Except Failure β}
    (head : Exchanges graph count c sent told)
    (tail : ∀ a, Exchanges graph (count + sent.length) (f a) more (next a)) :
    Exchanges graph count (c >>= f) (sent ++ more) (told >>= next) := by
  cases told with
  | error e => exact head.bind_error f _
  | ok a => exact head.bind_ok (tail a)

end Binds

end Exchanges

end Conversation

end Questions

namespace Follows

/-- What a reply says of whether a user follows another. -/
def linked (reply : Reply) : Except Failure Bool :=
  reply.readFirst false fun row => (Record.column row "following").map Value.isTruthy

/-- What a reply says of how many follow a user, and how many the user follows. -/
def counted (reply : Reply) : Except Failure (Int × Int) :=
  reply.readFirst (0, 0) fun row => do
    let followers ← Record.count row "followers"
    let following ← Record.count row "following"
    .ok (followers, following)

/-- What a reply says of whether an edge was removed. -/
def removed (reply : Reply) : Except Failure Bool :=
  reply.readFirst false fun row => do
    let removed ← Record.column row "removed"
    removed.against .above

/-- The question whether a user follows a target. -/
def linkQuestion (userId targetId : String) : Statement where
  text := "RETURN EXISTS \x7b MATCH (:User \x7bid: $follower_id\x7d)-[:FOLLOWS]->" ++
    "(:User \x7bid: $followed_id\x7d) \x7d AS following"
  params := [("follower_id", .text userId), ("followed_id", .text targetId)]

/-- The question how many follow a user, and how many the user follows. -/
def countQuestion (userId : String) : Statement where
  text := "MATCH (u:User \x7bid: $user_id\x7d) RETURN " ++
    "COUNT \x7b (:User)-[:FOLLOWS]->(u) \x7d AS followers, " ++
    "COUNT \x7b (u)-[:FOLLOWS]->(:User) \x7d AS following"
  params := [("user_id", .text userId)]

theorem followingStatement_eq (userId targetId : String) :
    followingStatement (.text userId) (.text targetId) = linkQuestion userId targetId :=
  congrArg (Statement.mk · _) (by decide +kernel)

theorem countsStatement_eq (userId : String) :
    countsStatement (.text userId) = countQuestion userId :=
  congrArg (Statement.mk · _) (by decide +kernel)

/-- The replies to the three questions about a user and a target. -/
structure Replies where
  linked : Reply
  ofTarget : Reply
  ofUser : Reply

namespace Replies

/-- The replies of a graph that has already answered `count` statements. -/
def ofGraph (graph : Graph) (count : Nat) (userId targetId : String) : Replies where
  linked := graph count (linkQuestion userId targetId)
  ofTarget := graph (count + 1) (countQuestion targetId)
  ofUser := graph (count + 2) (countQuestion userId)

/-- The relation of the two as the replies tell it. -/
def state (r : Replies) (userId targetId : String) : Except Failure FollowState := do
  let following ← Follows.linked r.linked
  let ofTarget ← counted r.ofTarget
  let ofUser ← counted r.ofUser
  .ok ⟨userId, targetId, following, ofTarget.1, ofUser.2⟩

end Replies

section Values

variable {reply : Reply}

/-- What was read comes from the first row, if there is one. -/
theorem readFirst_ok {missing a : α} {read : Record → Except Failure α}
    (told : reply.readFirst missing read = .ok a) :
    ((∀ name, reply.value? name = none) ∧ a = missing) ∨
      ∃ row, (∀ name, reply.value? name = row.get? name) ∧ read row = .ok a := by
  cases reply with
  | fault kind message => cases told
  | rows found =>
    cases found with
    | nil =>
      cases told
      exact .inl ⟨fun _ => rfl, rfl⟩
    | cons row rest => exact .inr ⟨row, fun _ => rfl, told⟩

theorem linked_ok {b : Bool} (told : linked reply = .ok b) :
    b = (reply.value? "following").elim false Value.isTruthy := by
  rcases readFirst_ok told with ⟨none, rfl⟩ | ⟨row, values, read⟩
  · rw [none]
    rfl
  · obtain ⟨v, column, rfl⟩ := map_ok_iff.mp read
    rw [values, Record.get?_of_column column]
    rfl

/-- The number is the count that is answered, or zero if there is no row. -/
def CountIs (v? : Option Value) (n : Int) : Prop := v?.elim (n = 0) fun v => v.toInt = .ok n

theorem CountIs.unique {v? : Option Value} {n m : Int} (first : CountIs v? n)
    (second : CountIs v? m) : n = m := by
  cases v? with
  | none => exact first.trans second.symm
  | some v => exact Except.ok.inj (first.symm.trans second)

theorem countIs_of_count {row : Record} {name : String} {n : Int}
    (told : Record.count row name = .ok n) : CountIs (row.get? name) n := by
  obtain ⟨v, column, read⟩ := bind_ok_iff.mp told
  rw [Record.get?_of_column column]
  exact read

theorem counted_ok {n : Int × Int} (told : counted reply = .ok n) :
    CountIs (reply.value? "followers") n.1 ∧ CountIs (reply.value? "following") n.2 := by
  rcases readFirst_ok told with ⟨none, rfl⟩ | ⟨row, values, read⟩
  · rw [none, none]
    exact ⟨rfl, rfl⟩
  · simp only [bind_ok_iff] at read
    obtain ⟨followers, first, following, second, same⟩ := read
    cases same
    rw [values, values]
    exact ⟨countIs_of_count first, countIs_of_count second⟩

end Values

variable (userId targetId : String)

/-- The questions about a user and a target. -/
def questions : List Statement :=
  [linkQuestion userId targetId, countQuestion targetId, countQuestion userId]

/-- The three questions are asked in turn. -/
theorem state_exchanges (graph : Graph) (count : Nat) :
    Exchanges graph count (state userId targetId) (questions userId targetId)
      ((Replies.ofGraph graph count userId targetId).state userId targetId) := by
  have first : Exchanges graph count (isFollowing (.text userId) (.text targetId))
      [linkQuestion userId targetId] (linked (graph count (linkQuestion userId targetId))) := by
    rw [← followingStatement_eq]
    exact .readFirst ..
  have counts : ∀ id count, Exchanges graph count (counts (.text id)) [countQuestion id]
      (counted (graph count (countQuestion id))) := by
    intro id count
    rw [← countsStatement_eq]
    exact .readFirst ..
  exact first.bind fun following => (counts targetId _).bind fun ofTarget =>
    (counts userId _).bind fun ofUser => .of_settles (.pure _)

end Follows

namespace Api

/-- The two changes of whom a user follows. -/
inductive FollowChange where
  | follow
  | unfollow

namespace FollowChange

def endpoint : FollowChange → Endpoint
  | follow => .follow
  | unfollow => .unfollow

def text : FollowChange → String
  | follow => "MATCH (a:User \x7bid: $follower_id\x7d), (b:User \x7bid: $followed_id\x7d) " ++
      "MERGE (a)-[:FOLLOWS]->(b) RETURN b.id AS followed_id"
  | unfollow => "MATCH (:User \x7bid: $follower_id\x7d)-[r:FOLLOWS]->" ++
      "(:User \x7bid: $followed_id\x7d) DELETE r RETURN count(r) AS removed"

def statement (userId targetId : String) (change : FollowChange) : Statement where
  text := change.text
  params := [("follower_id", .text userId), ("followed_id", .text targetId)]

theorem followStatement_eq (userId targetId : String) :
    Follows.followStatement (.text userId) (.text targetId) = statement userId targetId .follow :=
  congrArg (Statement.mk · _) (by decide +kernel)

theorem unfollowStatement_eq (userId targetId : String) :
    Follows.unfollowStatement (.text userId) (.text targetId) =
      statement userId targetId .unfollow :=
  congrArg (Statement.mk · _) (by decide +kernel)

def perform (userId targetId : String) : FollowChange → Conversation Response
  | follow => Api.follow userId targetId
  | unfollow => Api.unfollow userId targetId

/-- The reply tells that it was made: it has the row of an edge, or what it says of removed ones can
be read. -/
def Accepts (userId : String) (reply : Reply) : FollowChange → Prop
  | follow => ∃ edge, reply.told (Follows.readEdge (.text userId)) = .ok (some edge)
  | unfollow => ∃ any, Follows.removed reply = .ok any

variable {userId targetId : String} {change : FollowChange} {graph : Graph} {count : Nat}

theorem followState_exchanges (graph : Graph) (count : Nat) (userId targetId : String) :
    Exchanges graph count (followState userId targetId) (Follows.questions userId targetId)
      (((Follows.Replies.ofGraph graph count userId targetId).state userId targetId).map
        fun state => .ok state.dump) := by
  have whole := (Follows.state_exchanges userId targetId graph count).bind fun state =>
    .of_settles (.pure (Response.ok state.dump))
  rw [List.append_nil] at whole
  cases told : (Follows.Replies.ofGraph graph count userId targetId).state userId targetId <;>
    (rw [told] at whole; exact whole)

/-- A user who is not the target is made to follow the target. -/
theorem follow_exchanges (apart : userId ≠ targetId) (graph : Graph) (count : Nat) :
    Exchanges graph count (attempt (Follows.follow (.text userId) (.text targetId)))
      [statement userId targetId .follow]
      (.ok ((graph count (statement userId targetId .follow)).told
        (Follows.readEdge (.text userId)))) := by
  have made : Follows.edgeStatement (.text userId) (.text targetId) =
      .ok (statement userId targetId .follow) := by
    have other : (Value.text userId).same (.text targetId) = false := beq_false_of_ne apart
    rw [Follows.edgeStatement, other, if_neg Bool.false_ne_true, followStatement_eq]
  have exchange := (Follows.follow_isExchange (.text userId) (.text targetId)).sent made graph
  have attempted := fun threshold =>
    run_attempt graph threshold (Follows.follow (.text userId) (.text targetId)) count
  refine ⟨fun threshold => ?_, fun threshold _ _ => ?_⟩
  · rw [(attempted threshold).1, (exchange threshold count).2]
  · rw [(attempted threshold).2, (exchange threshold count).1]

theorem unfollow_exchanges (userId targetId : String) (graph : Graph) (count : Nat) :
    Exchanges graph count (Follows.unfollow (.text userId) (.text targetId))
      [statement userId targetId .unfollow]
      (Follows.removed (graph count (statement userId targetId .unfollow))) := by
  rw [← unfollowStatement_eq]
  exact .readFirst ..

/-- After a change that was made its state is answered. -/
theorem perform_accepted (apart : change = .follow → userId ≠ targetId)
    (accepts : change.Accepts userId (graph count (change.statement userId targetId))) :
    Exchanges graph count (change.perform userId targetId)
      (change.statement userId targetId :: Follows.questions userId targetId)
      (((Follows.Replies.ofGraph graph (count + 1) userId targetId).state userId targetId).map
        fun state => .ok state.dump) := by
  have answered := followState_exchanges graph (count + 1) userId targetId
  cases change with
  | follow =>
    obtain ⟨edge, told⟩ := accepts
    have first := follow_exchanges (apart rfl) graph count
    rw [told] at first
    exact first.bind_ok answered
  | unfollow =>
    obtain ⟨any, told⟩ := accepts
    have first := unfollow_exchanges userId targetId graph count
    rw [told] at first
    exact first.bind_ok answered

/-- Without the row of an edge nothing more is asked, and the answer is no success. -/
theorem afterFollowing_settles (userId targetId : String)
    {result : Except Failure (Option FollowEdge)} (without : ∀ edge, result ≠ .ok (some edge)) :
    ∃ outcome, Settles (afterFollowing userId targetId result) outcome ∧
        ∀ r, outcome = .ok r → r.status ≠ 200 := by
  rcases result with f | _ | edge
  · cases bad : f.isBadValue with
    | true =>
      refine ⟨.ok (.badRequest f), ?_, ?_⟩
      · rw [afterFollowing, bad]
        exact .pure _
      · rintro r ⟨⟩
        exact Nat.ne_of_beq_eq_false rfl
    | false =>
      refine ⟨.error f, ?_, ?_⟩
      · rw [afterFollowing, bad]
        exact .failed f
      · rintro r ⟨⟩
  · refine ⟨.ok (.notFound "User not found"), .pure _, ?_⟩
    rintro r ⟨⟩
    exact Nat.ne_of_beq_eq_false rfl
  · exact absurd rfl (without edge)

/-- A change that was not made is answered otherwise. -/
theorem perform_refused (apart : change = .follow → userId ≠ targetId)
    (refused : ¬ change.Accepts userId (graph count (change.statement userId targetId)))
    (threshold : LogLevel) {r : Response}
    (ended : ((change.perform userId targetId).run graph threshold count).outcome = .ok r) :
    r.status ≠ 200 := by
  cases change with
  | follow =>
    obtain ⟨outcome, settled, other⟩ :=
      afterFollowing_settles userId targetId fun edge told => refused ⟨edge, told⟩
    have whole := (follow_exchanges (apart rfl) graph count).bind_ok (.of_settles settled)
    exact other r ((whole.outcome threshold).symm.trans ended)
  | unfollow =>
    have first := unfollow_exchanges userId targetId graph count
    cases told : Follows.removed (graph count (statement userId targetId .unfollow)) with
    | ok any => exact absurd ⟨any, told⟩ refused
    | error e =>
      rw [told] at first
      have whole := first.bind_error (fun _ => followState userId targetId) []
      cases (whole.outcome threshold).symm.trans ended

/-- If there is no row for a follow, the answer is that there is no such user, and nothing more is
asked. -/
theorem perform_missing (apart : userId ≠ targetId)
    (none : graph count (statement userId targetId .follow) = .rows []) :
    Exchanges graph count (perform userId targetId .follow) [statement userId targetId .follow]
      (.ok (.notFound "User not found")) := by
  have first := follow_exchanges apart graph count
  rw [none] at first
  exact first.bind_ok (.of_settles (.pure _))

end FollowChange

/-- How a change is answered by a graph that has already answered `count` statements. -/
structure FollowAnswered (change : FollowChange) (userId targetId : String) (graph : Graph)
    (count : Nat) (r : Run Response) : Prop where
  /-- It succeeds if the change was made and the replies to the three questions can be read. -/
  succeeds_iff : r.status? = some 200 ↔
    change.Accepts userId (graph count (change.statement userId targetId)) ∧
      ∃ state, (Follows.Replies.ofGraph graph (count + 1) userId targetId).state userId targetId =
        .ok state
  /-- Then it has sent the change, asked whether the two are linked, and asked for the counts of the
  target and then of the user. -/
  sent : r.status? = some 200 → r.statements = [
    ⟨change.text, [("follower_id", .text userId), ("followed_id", .text targetId)]⟩,
    Follows.linkQuestion userId targetId, Follows.countQuestion targetId,
    Follows.countQuestion userId]
  /-- The answer has whether the two are linked, the followers of the target and the ones that the
  user follows. -/
  answer : r.status? = some 200 →
    let replies := Follows.Replies.ofGraph graph (count + 1) userId targetId
    ∃ followers following,
      Follows.CountIs (replies.ofTarget.value? "followers") followers ∧
        Follows.CountIs (replies.ofUser.value? "following") following ∧
        r.outcome = .ok (.ok (FollowState.dump ⟨userId, targetId,
          (replies.linked.value? "following").elim false Value.isTruthy, followers, following⟩))
  /-- A follow without a row is answered by a failure, and nothing more is sent. -/
  missing : change = .follow → graph count (change.statement userId targetId) = .rows [] →
    r.statements = [change.statement userId targetId] ∧
      r.outcome = .ok (.notFound "User not found")

section Requests

variable {request : Request} {change : FollowChange} {userId targetId : String}

/-- A success is an answer of the endpoint itself. -/
theorem status_failing {c : Conversation Response} {graph : Graph} {threshold : LogLevel}
    {count : Nat} :
    ((c.recover fun f => some (pure (.failed f))).run graph threshold count).status? = some 200 ↔
      ∃ r, (c.run graph threshold count).outcome = .ok r ∧ r.status = 200 := by
  rw [Run.status?, (run_failing graph threshold count c).2]
  cases (c.run graph threshold count).outcome with
  | ok r => simp [Except.toOption]
  | error f => simp [Except.toOption, Response.failed]

theorem FollowChange.handle_eq (settings : Settings)
    (routed : Route.destination request.method (Percent.decode request.path) =
      .endpoint change.endpoint [userId, targetId]) :
    handle settings request =
      (change.perform userId targetId).recover fun f => some (pure (.failed f)) := by
  rw [handle_of_routed request settings routed]
  cases change <;> rfl

theorem followAnswered_of_apart (apart : change = .follow → userId ≠ targetId) (graph : Graph)
    (threshold : LogLevel) (count : Nat) :
    FollowAnswered change userId targetId graph count
      (((change.perform userId targetId).recover fun f => some (pure (.failed f))).run
        graph threshold count) := by
  obtain ⟨same, ended⟩ := run_failing graph threshold count (change.perform userId targetId)
  have accepted : ∀ {r}, ((change.perform userId targetId).run graph threshold count).outcome =
      .ok r → r.status = 200 →
      change.Accepts userId (graph count (change.statement userId targetId)) := by
    intro r outcome good
    by_contra refused
    exact FollowChange.perform_refused apart refused threshold outcome good
  have succeeds_iff :
      (((change.perform userId targetId).recover fun f => some (pure (.failed f))).run
        graph threshold count).status? = some 200 ↔
        change.Accepts userId (graph count (change.statement userId targetId)) ∧
          ∃ state, (Follows.Replies.ofGraph graph (count + 1) userId targetId).state
            userId targetId = .ok state := by
    rw [status_failing]
    constructor
    · rintro ⟨r, outcome, good⟩
      have accepts := accepted outcome good
      have whole := (FollowChange.perform_accepted apart accepts).outcome threshold
      obtain ⟨state, told, -⟩ := map_ok_iff.mp (whole.symm.trans outcome)
      exact ⟨accepts, state, told⟩
    · rintro ⟨accepts, state, told⟩
      have whole := (FollowChange.perform_accepted apart accepts).outcome threshold
      rw [told] at whole
      exact ⟨_, whole, rfl⟩
  constructor
  case succeeds_iff => exact succeeds_iff
  case sent =>
    intro good
    obtain ⟨accepts, state, told⟩ := succeeds_iff.mp good
    rw [same]
    exact (FollowChange.perform_accepted apart accepts).statements threshold _
      (map_ok_iff.mpr ⟨state, told, rfl⟩)
  case answer =>
    intro good
    obtain ⟨accepts, state, told⟩ := succeeds_iff.mp good
    have whole := (FollowChange.perform_accepted apart accepts).outcome threshold
    rw [told] at whole
    obtain ⟨linked, first, ofTarget, second, ofUser, third, built⟩ := by
      simpa only [Follows.Replies.state, bind_ok_iff] using told
    cases built
    refine ⟨_, _, (Follows.counted_ok second).1, (Follows.counted_ok third).2, ?_⟩
    rw [ended, whole, Follows.linked_ok first]
    rfl
  case missing =>
    rintro rfl none
    have whole := FollowChange.perform_missing (apart rfl) none
    rw [same, ended, whole.outcome threshold, whole.statements threshold _ rfl]
    exact ⟨rfl, rfl⟩

end Requests

section Samples

private def followRequest : Request where
  method := "POST"
  path := "/api/users/a/following/b"

/-- A graph in which both users have counts of their own. -/
private def befriending : Graph := .ofReplies [
  .rows [[("followed_id", .text "b")]],
  .rows [[("following", .bool true)]],
  .rows [[("followers", .int 5), ("following", .int 1)]],
  .rows [[("followers", .int 2), ("following", .text "7")]]]

end Samples

end Api

end MusicianGraph
