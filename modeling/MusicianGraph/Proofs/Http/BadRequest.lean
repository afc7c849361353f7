import MusicianGraph.Proofs.Service.Writes
import MusicianGraph.Http.Api

/-! # Bad requests and what they have sent

A request that asks for a write is a bad request if its data is refused, and then nothing has been
sent. But the handler that turns bad values into bad requests also covers the reading of the reply,
and a reply that cannot be read is a bad value as well: the answer is the same although the
statement has been sent. Here is exactly when that happens. -/

namespace MusicianGraph

open Conversation

variable {α : Type}

/-- There is a failure about a bad value in place of a result. -/
def BadValue (outcome : Except Failure α) : Prop := ∃ f, outcome = .error f ∧ f.isBadValue = true

namespace BadValue

@[simp] theorem not_ok (a : α) : ¬ BadValue (.ok a : Except Failure α) := by
  rintro ⟨f, absurd, -⟩
  cases absurd

@[simp] theorem error_iff (f : Failure) :
    BadValue (.error f : Except Failure α) ↔ f.isBadValue = true := by
  simp only [BadValue, Except.error.injEq, exists_eq_left']

end BadValue

/-- The status of the response that a run ends with, if it ends with one. -/
def Run.status? (r : Run Response) : Option Nat := r.outcome.toOption.map Response.status

/-- The reply gives a failure about a bad value instead of a row that can be read. -/
def Reply.Unreadable (reply : Reply) (read : Record → Except Failure α) : Prop :=
  BadValue (reply.told read)

namespace Api

/-- Nothing is sent without the statement. With it the statement is sent, and the answer is a bad
request exactly if the reply is unreadable. -/
structure BadIfUnreadable (c : Conversation Response) (statement : Except Failure Statement)
    (unreadable : Reply → Prop) : Prop where
  refused : ∀ {f}, statement = .error f → ∀ graph threshold count,
    (c.run graph threshold count).statements = []
  sent : ∀ {s}, statement = .ok s → ∀ graph threshold count,
    s ∈ (c.run graph threshold count).statements ∧
      ((c.run graph threshold count).status? = some 400 ↔ unreadable (graph count s))

section Handlers

private theorem orElse_some (response : Response) {f : Failure} {entries : List Entry}
    {next : Failure → Option (Run Response)} (handled : next f = some ⟨.ok response, []⟩) :
    Run.orElse ⟨.error f, entries⟩ next = ⟨.ok response, entries⟩ := by
  change (next f).elim _ _ = _
  rw [handled]
  exact congrArg (Run.mk (.ok response)) (List.append_nil entries)

private theorem orElse_none {f : Failure} {entries : List Entry}
    {next : Failure → Option (Run Response)} (unhandled : next f = none) :
    Run.orElse ⟨.error f, entries⟩ next = ⟨.error f, entries⟩ := by
  change (next f).elim _ _ = _
  rw [unhandled]
  rfl

variable (graph : Graph) (threshold : LogLevel) (count : Nat)

/-- Besides the bad requests of the conversation itself, failures about bad values become some. -/
theorem run_refusingBadValues (c : Conversation Response) :
    ((refusingBadValues c).run graph threshold count).statements =
        (c.run graph threshold count).statements ∧
      (((refusingBadValues c).run graph threshold count).status? = some 400 ↔
        (c.run graph threshold count).status? = some 400 ∨
          BadValue (c.run graph threshold count).outcome) := by
  rw [refusingBadValues, run_recover]
  generalize c.run graph threshold count = r
  obtain ⟨outcome, entries⟩ := r
  cases outcome with
  | ok response => exact ⟨rfl, (or_iff_left (BadValue.not_ok response)).symm⟩
  | error f =>
    rw [BadValue.error_iff]
    cases bad : f.isBadValue with
    | true =>
      rw [orElse_some (.badRequest f) (by rw [bad]; rfl)]
      exact ⟨rfl, iff_of_true rfl (.inr rfl)⟩
    | false =>
      rw [orElse_none (by rw [bad]; rfl)]
      exact ⟨rfl, (or_iff_left Bool.false_ne_true).symm⟩

/-- Failures that nothing handles are internal errors, after the same statements. -/
theorem run_failing (c : Conversation Response) :
    ((c.recover fun f => some (pure (.failed f))).run graph threshold count).statements =
        (c.run graph threshold count).statements ∧
      ((c.recover fun f => some (pure (.failed f))).run graph threshold count).outcome =
        match (c.run graph threshold count).outcome with
        | .ok response => .ok response
        | .error f => .ok (.failed f) := by
  rw [run_recover]
  generalize c.run graph threshold count = r
  obtain ⟨outcome, entries⟩ := r
  cases outcome with
  | ok response => exact ⟨rfl, rfl⟩
  | error f =>
    rw [orElse_some (.failed f) rfl]
    exact ⟨rfl, rfl⟩

/-- Internal errors add no bad requests. -/
theorem run_failed (c : Conversation Response) :
    ((c.recover fun f => some (pure (.failed f))).run graph threshold count).statements =
        (c.run graph threshold count).statements ∧
      (((c.recover fun f => some (pure (.failed f))).run graph threshold count).status? = some 400 ↔
        (c.run graph threshold count).status? = some 400) := by
  obtain ⟨same, ended⟩ := run_failing graph threshold count c
  refine ⟨same, ?_⟩
  rw [Run.status?, Run.status?, ended]
  cases (c.run graph threshold count).outcome with
  | ok response => exact Iff.rfl
  | error f =>
    exact iff_of_false (by simp [Response.failed, Except.toOption]) nofun

/-- A conversation that ends with an answer of its own is no bad request through it. -/
theorem status_of_answer {c : Conversation α} {answer : α → Response}
    (good : ∀ a, (answer a).status ≠ 400) :
    ((c >>= fun a => pure (answer a)).run graph threshold count).status? ≠ some 400 := by
  rw [run_bind, Run.andThen]
  cases (c.run graph threshold count).outcome with
  | ok a =>
    intro bad
    exact good a (Option.some.inj bad)
  | error f =>
    intro bad
    cases bad

end Handlers

section Writes

/-- A write whose failures about bad values are refused: its own answers are no bad requests, so
what is one after the statement comes from the reply. -/
theorem refusing_exchange {op : Conversation (Option α)} {statement : Except Failure Statement}
    {read : Record → Except Failure α} (exchange : IsExchange op statement read)
    (missing : Response) (present : α → Response) {next : Option α → Conversation Response}
    (settled : ∀ found : Option α, next found = pure (found.elim missing present))
    (good : ∀ found : Option α, ((found.elim missing present).status == 400) = false) :
    BadIfUnreadable (refusingBadValues (op >>= next)) statement (·.Unreadable read) := by
  obtain rfl : next = fun found : Option α => pure (found.elim missing present) := funext settled
  have fine : ∀ found : Option α, (found.elim missing present).status ≠ 400 :=
    fun found => ne_of_beq_false (good found)
  constructor
  · intro f refused graph threshold count
    obtain ⟨outcome, silent⟩ := exchange.refused refused graph threshold count
    rw [(run_refusingBadValues graph threshold count _).1,
      (run_bind_error graph threshold outcome _).2, silent]
  · intro s accepted graph threshold count
    obtain ⟨statements, outcome⟩ := exchange.sent accepted graph threshold count
    obtain ⟨same, status⟩ := run_refusingBadValues graph threshold count
      (op >>= fun found : Option α => pure (found.elim missing present))
    rw [same, status, or_iff_right (status_of_answer graph threshold count fine), Reply.Unreadable,
      ← outcome]
    cases result : (op.run graph threshold count).outcome with
    | ok found =>
      obtain ⟨last, sent⟩ := run_bind_ok graph threshold result
        fun found : Option α => pure (found.elim missing present)
      rw [sent, last, statements]
      exact ⟨List.mem_append_left _ List.mem_cons_self,
        iff_of_false (BadValue.not_ok _) (BadValue.not_ok _)⟩
    | error f =>
      obtain ⟨last, sent⟩ := run_bind_error graph threshold result
        fun found : Option α => pure (found.elim missing present)
      rw [sent, last, statements]
      exact ⟨List.mem_cons_self, (BadValue.error_iff f).trans (BadValue.error_iff f).symm⟩

/-- What is answered once it is known how following went. -/
def afterFollowing (userId targetId : String) :
    Except Failure (Option FollowEdge) → Conversation Response
  | .error f => if f.isBadValue then pure (.badRequest f) else failed f
  | .ok none => pure (.notFound "User not found")
  | .ok (some _) => followState userId targetId

theorem follow_eq (userId targetId : String) :
    follow userId targetId =
      attempt (Follows.follow (.text userId) (.text targetId)) >>= afterFollowing userId targetId :=
  rfl

/-- Once a user is followed, the statements that ask for the relation fail in other ways. -/
theorem status_afterFollowing (userId targetId : String)
    (result : Except Failure (Option FollowEdge)) (graph : Graph) (threshold : LogLevel)
    (count : Nat) :
    ((afterFollowing userId targetId result).run graph threshold count).status? = some 400 ↔
      BadValue result := by
  rcases result with f | _ | edge
  · rw [BadValue.error_iff, afterFollowing]
    cases f.isBadValue with
    | true => exact iff_of_true rfl rfl
    | false => exact iff_of_false nofun Bool.false_ne_true
  · refine iff_of_false ?_ (BadValue.not_ok _)
    simp [afterFollowing, Run.status?, pure, run, Response.notFound, Response.detail,
      Except.toOption]
  · refine iff_of_false (status_of_answer graph threshold count ?_) (BadValue.not_ok _)
    intro state
    simp [Response.ok]

/-- Following is answered with the new relation of the two users, which takes more statements. -/
theorem follow_badIfUnreadable (userId targetId : String) :
    BadIfUnreadable (follow userId targetId)
      (Follows.edgeStatement (.text userId) (.text targetId))
      (·.Unreadable (Follows.readEdge (.text userId))) := by
  have exchange := Follows.follow_isExchange (.text userId) (.text targetId)
  have attempted := fun graph threshold count =>
    run_attempt graph threshold (Follows.follow (.text userId) (.text targetId)) count
  rw [follow_eq]
  constructor
  · intro f refused graph threshold count
    obtain ⟨outcome, silent⟩ := exchange.refused refused graph threshold count
    obtain ⟨result, same⟩ := attempted graph threshold count
    rw [(run_bind_ok graph threshold result _).2, same, silent, outcome, afterFollowing]
    cases f.isBadValue <;> rfl
  · intro s accepted graph threshold count
    obtain ⟨statements, outcome⟩ := exchange.sent accepted graph threshold count
    obtain ⟨result, same⟩ := attempted graph threshold count
    obtain ⟨last, sent⟩ := run_bind_ok graph threshold result (afterFollowing userId targetId)
    rw [sent, same, statements, Run.status?, last, ← Run.status?, status_afterFollowing, outcome]
    exact ⟨List.mem_append_left _ List.mem_cons_self, Iff.rfl⟩

end Writes

inductive Write where
  | edit (userId : String) (update : ProfileUpdate)
  | follow (userId targetId : String)
  | post (draft : PostDraft)
  | event (draft : EventDraft)
  | message (draft : MessageDraft)

/-- What was read from the body of a request, if it was accepted. -/
def bodyOf (schema : Schema α) (request : Request) : Option α :=
  match request.readBody? schema with
  | some (.accepted a) => some a
  | _ => none

namespace Write

def endpoints : List Endpoint := [.editUser, .follow, .createPost, .createEvent, .sendMessage]

/-- The write that a request to an endpoint asks for, if its body is accepted. -/
def ofRequest? (request : Request) : Endpoint → List String → Option Write
  | .editUser, [userId] => (bodyOf ProfileUpdate.schema request).map (edit userId)
  | .follow, [userId, targetId] => some (follow userId targetId)
  | .createPost, [] => (bodyOf PostDraft.schema request).map post
  | .createEvent, [] => (bodyOf EventDraft.schema request).map event
  | .sendMessage, [] => (bodyOf MessageDraft.schema request).map message
  | _, _ => none

/-- The conversation that carries a write out. -/
def perform : Write → Conversation Response
  | edit userId update => editUser userId update
  | follow userId targetId => Api.follow userId targetId
  | post draft => createPost draft
  | event draft => createEvent draft
  | message draft => sendMessage draft

/-- The statement of a write, unless it is refused. -/
def statement : Write → Except Failure Statement
  | edit userId update => Profiles.updateStatement (.text userId) update.changes
  | follow userId targetId => Follows.edgeStatement (.text userId) (.text targetId)
  | post draft => Posts.createStatement (.ofDraft draft)
  | event draft => Events.createStatement (.ofDraft draft)
  | message draft =>
      Messages.sendStatement (.text draft.senderId) (.text draft.receiverId) (.text draft.text)

/-- The reply to a write gives a failure about a bad value instead of what was written. -/
def Unreadable (reply : Reply) : Write → Prop
  | edit .. => reply.Unreadable fun row => (Stored.profile row).outcome
  | follow userId _ => reply.Unreadable (Follows.readEdge (.text userId))
  | post _ => reply.Unreadable Posts.readCreated
  | event _ => reply.Unreadable Events.readCreated
  | message _ => reply.Unreadable fun row => (Stored.message row).outcome

/-- Every write is a bad request after its statement exactly if the reply is unreadable. -/
theorem perform_badIfUnreadable (w : Write) :
    BadIfUnreadable w.perform w.statement (w.Unreadable ·) := by
  cases w with
  | edit userId update =>
    exact refusing_exchange (Profiles.update_isExchange _ _) (noUser userId)
      (fun user => .ok user.dump) (by rintro (_ | _) <;> rfl) (by rintro (_ | _) <;> rfl)
  | follow userId targetId => exact follow_badIfUnreadable userId targetId
  | post draft =>
    exact refusing_exchange (Posts.create_isExchange _) (noUser draft.userId)
      (fun post => .created post.dump) (by rintro (_ | _) <;> rfl) (by rintro (_ | _) <;> rfl)
  | event draft =>
    exact refusing_exchange (Events.create_isExchange _) (noUser draft.hostId)
      (fun event => .created event.dump) (by rintro (_ | _) <;> rfl) (by rintro (_ | _) <;> rfl)
  | message draft =>
    exact refusing_exchange (Messages.send_isExchange _ _ _)
      (.notFound "Sender or receiver not found") (fun message => .created message.dump)
      (by rintro (_ | _) <;> rfl) (by rintro (_ | _) <;> rfl)

end Write

section Requests

variable (request : Request)

/-- Whatever the graph is, the conversation sends nothing. -/
def Silent (c : Conversation Response) : Prop :=
  ∀ graph threshold count, (c.run graph threshold count).statements = []

/-- A request whose body is not accepted is answered without a word to the graph. -/
theorem withBody_cases (schema : Schema α) (next : α → Conversation Response) :
    (∃ a, bodyOf schema request = some a ∧ withBody schema request next = next a) ∨
      bodyOf schema request = none ∧ Silent (withBody schema request next) := by
  rw [bodyOf, withBody]
  rcases request.readBody? schema with _ | a | problems | kind
  · exact .inr ⟨rfl, fun _ _ _ => rfl⟩
  · exact .inl ⟨a, rfl, rfl⟩
  · exact .inr ⟨rfl, fun _ _ _ => rfl⟩
  · exact .inr ⟨rfl, fun _ _ _ => rfl⟩

/-- A request to an endpoint gets its answer, and a failure that is left is an internal error. -/
theorem handle_of_routed (settings : Settings) {e : Endpoint} {parameters : List String}
    (routed : Route.destination request.method (Percent.decode request.path) =
      .endpoint e parameters) :
    handle settings request =
      (answer settings request e parameters).recover fun f => some (pure (.failed f)) := by
  delta handle
  rw [routed]

/-- A request to an endpoint that writes is answered by its write; if there is none, nothing is
sent. -/
theorem answer_cases (settings : Settings) {e : Endpoint} (writes : e ∈ Write.endpoints)
    (parameters : List String) :
    (∃ w, Write.ofRequest? request e parameters = some w ∧
        answer settings request e parameters = w.perform) ∨
      Write.ofRequest? request e parameters = none ∧
        Silent (answer settings request e parameters) := by
  have body : ∀ {β : Type} (schema : Schema β) (next : β → Conversation Response)
      (write : β → Write), (∀ b, next b = (write b).perform) →
      (∃ w, (bodyOf schema request).map write = some w ∧
          withBody schema request next = w.perform) ∨
        (bodyOf schema request).map write = none ∧ Silent (withBody schema request next) := by
    intro β schema next write performs
    rcases withBody_cases request schema next with ⟨b, accepted, same⟩ | ⟨none, silent⟩
    · exact .inl ⟨write b, by rw [accepted]; rfl, same.trans (performs b)⟩
    · exact .inr ⟨by rw [none]; rfl, silent⟩
  simp only [Write.endpoints, List.mem_cons, List.not_mem_nil, or_false] at writes
  rcases writes with rfl | rfl | rfl | rfl | rfl
  · rcases parameters with _ | ⟨userId, _ | ⟨_, _⟩⟩
    · exact .inr ⟨rfl, fun _ _ _ => rfl⟩
    · exact body _ _ (.edit userId) fun _ => rfl
    · exact .inr ⟨rfl, fun _ _ _ => rfl⟩
  · rcases parameters with _ | ⟨userId, _ | ⟨targetId, _ | ⟨_, _⟩⟩⟩
    · exact .inr ⟨rfl, fun _ _ _ => rfl⟩
    · exact .inr ⟨rfl, fun _ _ _ => rfl⟩
    · exact .inl ⟨.follow userId targetId, rfl, rfl⟩
    · exact .inr ⟨rfl, fun _ _ _ => rfl⟩
  · rcases parameters with _ | ⟨_, _⟩
    · exact body _ _ .post fun _ => rfl
    · exact .inr ⟨rfl, fun _ _ _ => rfl⟩
  · rcases parameters with _ | ⟨_, _⟩
    · exact body _ _ .event fun _ => rfl
    · exact .inr ⟨rfl, fun _ _ _ => rfl⟩
  · rcases parameters with _ | ⟨_, _⟩
    · exact body _ _ .message fun _ => rfl
    · exact .inr ⟨rfl, fun _ _ _ => rfl⟩

/-- A request to an endpoint that writes is a bad request with something sent exactly if it asks for
a write, the statement of the write is not refused, and the reply to it is unreadable. All other bad
requests have sent nothing. -/
theorem badRequest_after_sending_iff (settings : Settings) {e : Endpoint} {parameters : List String}
    (routed : Route.destination request.method (Percent.decode request.path) =
      .endpoint e parameters)
    (writes : e ∈ Write.endpoints) (graph : Graph) (threshold : LogLevel) (count : Nat) :
    (((handle settings request).run graph threshold count).status? = some 400 ∧
        ((handle settings request).run graph threshold count).statements ≠ []) ↔
      ∃ w s, Write.ofRequest? request e parameters = some w ∧ w.statement = .ok s ∧
        w.Unreadable (graph count s) := by
  obtain ⟨same, status⟩ := run_failed graph threshold count
    (answer settings request e parameters)
  rw [handle_of_routed request settings routed, same, status]
  rcases answer_cases request settings writes parameters with ⟨w, asked, performed⟩ | ⟨none, silent⟩
  · have bad := w.perform_badIfUnreadable
    rw [performed, asked]
    cases statement : w.statement with
    | error f =>
      refine iff_of_false (fun both => both.2 (bad.refused statement graph threshold count)) ?_
      rintro ⟨v, s, found, accepted, -⟩
      cases found
      rw [statement] at accepted
      cases accepted
    | ok s =>
      obtain ⟨sent, exactly⟩ := bad.sent statement graph threshold count
      rw [exactly, and_iff_left (List.ne_nil_of_mem sent)]
      constructor
      · exact fun unreadable => ⟨w, s, rfl, statement, unreadable⟩
      · rintro ⟨v, t, found, accepted, unreadable⟩
        cases found
        cases statement.symm.trans accepted
        exact unreadable
  · refine iff_of_false (fun both => both.2 (silent graph threshold count)) ?_
    rintro ⟨w, s, found, -⟩
    rw [none] at found
    cases found

end Requests

/-- A request that gives a user another text about the user. -/
def editRequest : Request where
  method := "PATCH"
  path := "/api/users/me"
  body := "\x7b\"bio\":\"hi\"\x7d"
  contentType := some "application/json"

/-- A graph whose first row has a number in place of a name. -/
def misnaming : Graph :=
  .ofReplies [.rows [[("user_id", .text "me"), ("username", .int 7)]]]

theorem badRequest_after_sending_iff_edit :
    Route.destination editRequest.method (Percent.decode editRequest.path) =
        .endpoint .editUser ["me"] ∧
      Endpoint.editUser ∈ Write.endpoints ∧
      ((((handle .standard editRequest).run misnaming .info 0).status? = some 400 ∧
          ((handle .standard editRequest).run misnaming .info 0).statements ≠ []) ↔
        ∃ w s, Write.ofRequest? editRequest .editUser ["me"] = some w ∧ w.statement = .ok s ∧
          w.Unreadable (misnaming 0 s)) := by
  have routed : Route.destination editRequest.method (Percent.decode editRequest.path) =
      .endpoint .editUser ["me"] := by
    decide +kernel
  have writes : Endpoint.editUser ∈ Write.endpoints := by decide
  exact ⟨routed, writes,
    badRequest_after_sending_iff editRequest .standard routed writes misnaming .info 0⟩

/-- The update is written, and then its row is answered as a bad request. -/
theorem badRequest_after_edit :
    ((handle .standard editRequest).run misnaming .info 0).status? = some 400 ∧
      ((handle .standard editRequest).run misnaming .info 0).statements ≠ [] := by
  constructor
  · decide +kernel
  · apply List.ne_nil_of_length_pos
    decide +kernel

end Api

end MusicianGraph
