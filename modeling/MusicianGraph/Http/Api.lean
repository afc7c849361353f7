import MusicianGraph.Http.Exchange
import MusicianGraph.Http.Route
import MusicianGraph.Model.ProfileUpdate
import MusicianGraph.Service.Profiles
import MusicianGraph.Service.Discovery
import MusicianGraph.Service.Follows
import MusicianGraph.Service.Posts
import MusicianGraph.Service.Events
import MusicianGraph.Service.Messages
import MusicianGraph.Service.Search

/-! # The endpoints

Each endpoint reads what it needs from the request and holds a conversation that ends with a
response. A request with wrong data is answered before anything is sent. -/

namespace MusicianGraph.Api

open Conversation

variable {α : Type}

/-- Go on with what was read from a request, or answer what is wrong with it. -/
def withReading (r : Reading α) (next : α → Conversation Response) : Conversation Response :=
  match r with
  | .accepted a => next a
  | .rejected problems => pure (.invalid problems)
  | .stopped kind => failed (.notIterable kind)

/-- The answer to a body that cannot be taken apart. -/
def unreadableBody : Response := .detail 400 (.text "There was an error parsing the body")

/-- Go on with what was read from the body of a request, or answer what is wrong with it. -/
def withBody (schema : Schema α) (request : Request) (next : α → Conversation Response) :
    Conversation Response :=
  match request.readBody? schema with
  | none => pure unreadableBody
  | some r => withReading r next

/-- Answer a failure about a bad value as a bad request. -/
def refusingBadValues (c : Conversation Response) : Conversation Response :=
  c.recover fun f => if f.isBadValue then some (pure (.badRequest f)) else none

def noUser (userId : String) : Response := .notFound ("User " ++ userId ++ " not found")

/-- Go on with the profile of a user, if there is one. -/
def withUser (userId : String) (next : UserProfile → Conversation Response) :
    Conversation Response := do
  match ← Profiles.get (.text userId) with
  | none => pure (noUser userId)
  | some user => next user

def readUser (userId : String) : Conversation Response :=
  withUser userId fun user => pure (.ok user.dump)

/-- Write an update and answer the profile. -/
def editUser (userId : String) (update : ProfileUpdate) : Conversation Response :=
  refusingBadValues do
    match ← Profiles.update (.text userId) update.changes with
    | none => pure (noUser userId)
    | some user => pure (.ok user.dump)

structure SuggestionQuery where
  strategy : Strategy
  k : Option Int
  limit : Option Int
deriving DecidableEq, Repr

def readStrategy (v : Value) : Reading Strategy :=
  match Strategy.ofValue v with
  | .ok strategy => .accepted strategy
  | .error _ => .reject (.notChoice (Strategy.all.map Strategy.name)) v

def SuggestionQuery.read (q : Query) : Reading SuggestionQuery :=
  SuggestionQuery.mk
    <$> q.defaulted "strategy" .genres readStrategy
    <*> q.defaulted "k" none (fun v => (Query.intBetween 0 (some 100) v).map some)
    <*> q.defaulted "limit" none (fun v => (Query.intBetween 1 (some 500) v).map some)

/-- The answer when the graph fails while candidates are fetched. -/
def noCandidates (userId : String) (f : Failure) : Option (Conversation Response) :=
  match f with
  | .graph fault message =>
      if fault.isOfGraph then
        some do
          log .error ("Candidate fetch failed for " ++ userId ++ ": " ++ message)
          pure (.detail 503 (.text "Could not fetch follow candidates"))
      else none
  | _ => none

def suggestTo (settings : Settings) (userId : String) (strategy : Strategy) (limit k : Int) :
    Conversation Response :=
  withUser userId fun user =>
    recover (noCandidates userId) do
      let ranked ← Discovery.suggest settings user (.text strategy.name) (.int limit) (.int k)
      pure (.ok (Suggestions.dump ⟨user, strategy.name, ranked⟩))

/-- Suggest users to a user; numbers that are not asked for are those of the settings. -/
def suggestions (settings : Settings) (userId : String) (q : SuggestionQuery) :
    Conversation Response :=
  suggestTo settings userId q.strategy (q.limit.getD settings.candidateLimit)
    (q.k.getD settings.suggestionCount)

/-- The suggestions at the end of onboarding: a smaller sample, ranked by genres. -/
def onboarding (settings : Settings) (userId : String) : Conversation Response :=
  suggestTo settings userId .genres settings.onboardingLimit settings.suggestionCount

/-- Answer the relation between two users. -/
def followState (userId targetId : String) : Conversation Response := do
  let state ← Follows.state userId targetId
  pure (.ok state.dump)

/-- Make a user follow another. -/
def follow (userId targetId : String) : Conversation Response := do
  match ← attempt (Follows.follow (.text userId) (.text targetId)) with
  | .error f => if f.isBadValue then pure (.badRequest f) else failed f
  | .ok none => pure (.notFound "User not found")
  | .ok (some _) => followState userId targetId

/-- Make a user no longer follow another. -/
def unfollow (userId targetId : String) : Conversation Response := do
  let _ ← Follows.unfollow (.text userId) (.text targetId)
  followState userId targetId

def readPage (q : Query) : Reading Page :=
  Page.mk
    <$> q.defaulted "page" (.int 0) (fun v => (Query.intBetween 0 none v).map .int)
    <*> q.defaulted "limit" (.int 20) (fun v => (Query.intBetween 1 (some 100) v).map .int)

def posts (c : Conversation (List Post)) : Conversation Response := do
  let found ← c
  pure (.ok (.list (found.map Post.dump)))

def createPost (draft : PostDraft) : Conversation Response :=
  refusingBadValues do
    match ← Posts.create (.ofDraft draft) with
    | none => pure (noUser draft.userId)
    | some post => pure (.created post.dump)

def like (postId userId : String) : Conversation Response := do
  match ← Posts.like (.text postId) (.text userId) with
  | none => pure (.notFound "Post or user not found")
  | some likesCount => pure (.ok (LikeState.dump { postId, userId, likesCount }))

/-- Take a like back. -/
def unlike (postId userId : String) : Conversation Response := do
  match ← Posts.unlike (.text postId) (.text userId) with
  | none => pure (.notFound "Post not found")
  | some likesCount => pure (.ok (LikeState.dump { postId, userId, likesCount }))

def listEvents (page : Page) : Conversation Response := do
  let found ← Events.list page
  pure (.ok (.list (found.map Event.dump)))

def createEvent (draft : EventDraft) : Conversation Response :=
  refusingBadValues do
    match ← Events.create (.ofDraft draft) with
    | none => pure (noUser draft.hostId)
    | some event => pure (.created event.dump)

/-- Answer the messages between two users. -/
def conversation (userId otherId : String) : Conversation Response := do
  let found ← Messages.between (.text userId) (.text otherId)
  pure (.ok (.list (found.map Message.dump)))

def sendMessage (draft : MessageDraft) : Conversation Response :=
  refusingBadValues do
    match ← Messages.send (.text draft.senderId) (.text draft.receiverId) (.text draft.text) with
    | none => pure (.notFound "Sender or receiver not found")
    | some message => pure (.created message.dump)

/-- Read what is searched for, and how many of each kind are wanted. -/
def readSearch (q : Query) : Reading (String × Int) :=
  Prod.mk
    <$> q.required "q" Schema.text
    <*> q.defaulted "limit" 20 (Query.intBetween 1 (some 100))

def search (text : String) (limit : Int) : Conversation Response := do
  let found ← Search.search (.text text) (.int limit)
  pure (.ok (.list (found.map SearchResult.dump)))

/-- The answer that the service is up. -/
def health : Response := .ok (.object [("status", .text "ok")])

def nothing : Response := .notFound "Not Found"

/-- Answer a request to an endpoint with the parameters of its path. -/
def answer (settings : Settings) (request : Request) :
    Endpoint → List String → Conversation Response
  | .readUser, [userId] => readUser userId
  | .editUser, [userId] => withBody ProfileUpdate.schema request (editUser userId)
  | .suggestions, [userId] =>
      withReading (request.readQuery SuggestionQuery.read) (suggestions settings userId)
  | .onboarding, [userId] => onboarding settings userId
  | .follow, [userId, targetId] => follow userId targetId
  | .unfollow, [userId, targetId] => unfollow userId targetId
  | .feed, [userId] =>
      withReading (request.readQuery readPage) fun page => posts (Posts.feed (.text userId) page)
  | .userPosts, [userId] =>
      withReading (request.readQuery readPage) fun page => posts (Posts.byUser (.text userId) page)
  | .createPost, [] => withBody PostDraft.schema request createPost
  | .like, [postId, userId] => like postId userId
  | .unlike, [postId, userId] => unlike postId userId
  | .listEvents, [] => withReading (request.readQuery readPage) listEvents
  | .createEvent, [] => withBody EventDraft.schema request createEvent
  | .conversation, [userId, otherId] => conversation userId otherId
  | .sendMessage, [] => withBody MessageDraft.schema request sendMessage
  | .search, [] =>
      withReading (request.readQuery readSearch) fun (text, limit) => search text limit
  | .health, [] => pure health
  | _, _ => pure nothing

/-- The answer that another path is to be asked for at the same place. -/
def redirection (request : Request) (path : String) : Response where
  status := 307
  content := .text ""
  location := some (Percent.encode
    (request.origin ++ path ++ (if request.query.isEmpty then "" else "?" ++ request.query)))

/-- Answer a request. A failure that no endpoint handles is an internal error. -/
def handle (settings : Settings) (request : Request) : Conversation Response :=
  match Route.destination request.method (Percent.decode request.path) with
  | .endpoint e parameters =>
      (answer settings request e parameters).recover fun f => some (pure (.failed f))
  | .wrongMethod allowed =>
      pure { Response.detail 405 (.text "Method Not Allowed") with allow := some allowed }
  | .elsewhere path => pure (redirection request path)
  | .nowhere => pure nothing

end MusicianGraph.Api
