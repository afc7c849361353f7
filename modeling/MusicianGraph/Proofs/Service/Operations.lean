import MusicianGraph.Proofs.Graph.Scripts
import MusicianGraph.Proofs.Service.Writes
import MusicianGraph.Service.Discovery
import MusicianGraph.Service.Search

/-! # The texts of the statements of an operation

All operations of the service that talk to the graph, with what they are called with. Each has a
script, which is fixed before anything is known of its arguments; only an update of a profile has
two of them, one for each answer to the question whether the location is changed. So no argument and
no reply ever gets into the text of a statement. -/

namespace MusicianGraph

open Conversation

/-- The operations of the service. -/
inductive Operation where
  | lookUpUser
  | fetchCandidates
  | suggestUsers
  | updateProfile
  | followUser
  | unfollowUser
  | checkFollowing
  | countFollows
  | readFeed
  | readPosts
  | createPost
  | likePost
  | unlikePost
  | listEvents
  | createEvent
  | readMessages
  | sendMessage
  | search
deriving DecidableEq, Repr

namespace Operation

abbrev Arguments : Operation → Type
  | lookUpUser => Value
  | fetchCandidates => Value × Value × Value
  | suggestUsers => UserProfile × Value × Value × Value
  | updateProfile => Value × Record
  | followUser => Value × Value
  | unfollowUser => Value × Value
  | checkFollowing => Value × Value
  | countFollows => Value
  | readFeed => Value × Page
  | readPosts => Value × Page
  | createPost => Posts.NewPost
  | likePost => Value × Value
  | unlikePost => Value × Value
  | listEvents => Page
  | createEvent => Events.NewEvent
  | readMessages => Value × Value
  | sendMessage => Value × Value × Value
  | search => Value × Value

abbrev Result : Operation → Type
  | lookUpUser => Option UserProfile
  | fetchCandidates => List UserProfile
  | suggestUsers => List CandidateScore
  | updateProfile => Option UserProfile
  | followUser => Option FollowEdge
  | unfollowUser => Bool
  | checkFollowing => Bool
  | countFollows => Int × Int
  | readFeed => List Post
  | readPosts => List Post
  | createPost => Option Post
  | likePost => Option Int
  | unlikePost => Option Int
  | listEvents => List Event
  | createEvent => Option Event
  | readMessages => List Message
  | sendMessage => Option Message
  | search => List SearchResult

def call (settings : Settings) : (o : Operation) → o.Arguments → Conversation o.Result
  | lookUpUser, userId => Profiles.get userId
  | fetchCandidates, (userId, limit, excludeFollowed) =>
      Discovery.fetchCandidates userId limit excludeFollowed
  | suggestUsers, (user, strategy, limit, k) => Discovery.suggest settings user strategy limit k
  | updateProfile, (userId, changes) => Profiles.update userId changes
  | followUser, (followerId, followedId) => Follows.follow followerId followedId
  | unfollowUser, (followerId, followedId) => Follows.unfollow followerId followedId
  | checkFollowing, (followerId, followedId) => Follows.isFollowing followerId followedId
  | countFollows, userId => Follows.counts userId
  | readFeed, (userId, page) => Posts.feed userId page
  | readPosts, (userId, page) => Posts.byUser userId page
  | createPost, post => Posts.create post
  | likePost, (postId, userId) => Posts.like postId userId
  | unlikePost, (postId, userId) => Posts.unlike postId userId
  | listEvents, page => Events.list page
  | createEvent, event => Events.create event
  | readMessages, (userA, userB) => Messages.between userA userB
  | sendMessage, (senderId, receiverId, text) => Messages.send senderId receiverId text
  | search, (text, limit) => Search.search text limit

/-- Does a call change a location? Only updates of profiles name what they change. -/
def changesLocation : (o : Operation) → o.Arguments → Bool
  | updateProfile, (_, changes) => (Record.get? changes "location").isSome
  | _, _ => false

/-- The texts that an operation can send, given whether it changes a location. The arguments in
these statements are the same for all calls: they only serve to name the texts. -/
def script (changesLocation : Bool) : Operation → List String
  | lookUpUser => [(Profiles.lookupStatement .null).text]
  | fetchCandidates => [(Discovery.candidatesStatement .null .null .null).text]
  | suggestUsers => [(Discovery.candidatesStatement .null .null .null).text]
  | updateProfile => [Profiles.updateText changesLocation]
  | followUser => [(Follows.followStatement .null .null).text]
  | unfollowUser => [(Follows.unfollowStatement .null .null).text]
  | checkFollowing => [(Follows.followingStatement .null .null).text]
  | countFollows => [(Follows.countsStatement .null).text]
  | readFeed => [Posts.listText Posts.feedPattern]
  | readPosts => [Posts.listText Posts.authorPattern]
  | createPost => [Posts.createText]
  | likePost => [(Posts.likeStatement .null .null).text]
  | unlikePost => [(Posts.unlikeStatement .null .null).text]
  | listEvents => [Events.listText]
  | createEvent => [Events.createText]
  | readMessages => [(Messages.conversationStatement .null .null).text]
  | sendMessage => [Messages.sendText]
  | search =>
      [(Search.usersStatement "" .null).text, (Search.eventsStatement "" .null).text,
        (Search.postsStatement "" .null).text]

end Operation

section Texts

variable {s : Statement}

theorem Posts.text_of_listed {pattern : String} {userId : Value} {page : Page}
    (listed : Posts.listStatement pattern userId page = .ok s) :
    s.text = Posts.listText pattern := by
  rw [Posts.listStatement, bind_ok_iff] at listed
  obtain ⟨params, -, same⟩ := listed
  cases same
  rfl

theorem Events.text_of_listed {page : Page} (listed : Events.listStatement page = .ok s) :
    s.text = Events.listText := by
  rw [Events.listStatement, bind_ok_iff] at listed
  obtain ⟨params, -, same⟩ := listed
  cases same
  rfl

theorem Posts.text_of_created {p : Posts.NewPost} (created : Posts.createStatement p = .ok s) :
    s.text = Posts.createText := by
  obtain ⟨_, _, _, -, -, -, rfl⟩ := Posts.createStatement_ok created
  rfl

theorem Events.text_of_created {e : Events.NewEvent} (created : Events.createStatement e = .ok s) :
    s.text = Events.createText := by
  obtain ⟨_, _, -, -, -, rfl⟩ := Events.createStatement_ok created
  rfl

theorem Messages.text_of_sent {senderId receiverId text : Value}
    (sent : Messages.sendStatement senderId receiverId text = .ok s) :
    s.text = Messages.sendText := by
  obtain ⟨_, -, -, rfl⟩ := Messages.sendStatement_ok sent
  rfl

theorem Profiles.text_of_updated {userId : Value} {changes : Record}
    (updated : Profiles.updateStatement userId changes = .ok s) :
    s.text = Profiles.updateText (Record.get? changes "location").isSome := by
  obtain ⟨props, location, -, written, rfl⟩ := Profiles.updateStatement_ok updated
  rw [Profiles.isSome_of_written written]

end Texts

section Scripts

/-- Candidates are asked for if there is room for one. -/
theorem Discovery.fetchCandidates_recites (userId limit excludeFollowed : Value) :
    ∃ said, said <+: Operation.script false .fetchCandidates ∧
      Recites said (fetchCandidates userId limit excludeFollowed) := by
  rw [fetchCandidates]
  cases limit.against .atMost with
  | error f => exact ⟨[], List.nil_prefix, trivial⟩
  | ok nobody =>
    cases nobody with
    | true => exact ⟨[], List.nil_prefix, rfl⟩
    | false => exact ⟨_, List.prefix_rfl, Recites.queryRows _ _⟩

/-- What is done with the candidates needs no statement. -/
theorem Discovery.suggest_recites (settings : Settings) (user : UserProfile)
    (strategy limit k : Value) :
    ∃ said, said <+: Operation.script false .suggestUsers ∧
      Recites said (suggest settings user strategy limit k) := by
  obtain ⟨said, part, recites⟩ := fetchCandidates_recites (.text user.userId)
    (limit.orDefault (.int settings.candidateLimit)) (.bool true)
  refine ⟨said, part, ?_⟩
  rw [← List.append_nil said]
  refine recites.bind fun candidates => ?_
  cases candidates with
  | nil => rfl
  | cons first rest => exact Recites.ofExcept _

theorem Search.group_recites {α : Type} (s : Statement) (read : Record → Readout α)
    (result : α → SearchResult) : Recites [s.text] (group s read result) :=
  (Recites.query s).bind fun rows => (Recites.readRows read rows).bind fun _ => rfl

/-- A search that is for something at all asks for users, for events and for posts. -/
theorem Search.search_recites (text limit : Value) :
    ∃ said, said <+: Operation.script false .search ∧ Recites said (search text limit) := by
  rw [search]
  cases beginning text with
  | error f => exact ⟨[], List.nil_prefix, trivial⟩
  | ok sought =>
    change ∃ said, said <+: _ ∧ Recites said (if sought.isEmpty then pure [] else _)
    cases sought.isEmpty with
    | true => exact ⟨[], List.nil_prefix, rfl⟩
    | false =>
      refine ⟨_, List.prefix_rfl, ?_⟩
      exact (group_recites (usersStatement sought limit) _ _).bind fun users =>
        (group_recites (eventsStatement sought limit) _ _).bind fun events =>
          (group_recites (postsStatement sought limit) _ _).bind fun posts => rfl

/-- A page is read off one statement. -/
theorem Posts.list_recites (pattern : String) (userId : Value) (page : Page) :
    Recites [listText pattern] (list pattern userId page) :=
  Recites.ofStatement Posts.text_of_listed fun s => Recites.queryRows s _

/-- The likes are counted by one statement. -/
theorem Posts.likesCount_recites (s : Statement) : Recites [s.text] (likesCount s) :=
  Recites.queryFirst s rfl fun _ => Recites.ofExcept _

/-- Nobody follows themselves; otherwise one statement is sent. -/
theorem Follows.follow_recites (followerId followedId : Value) :
    ∃ said, said <+: Operation.script false .followUser ∧
      Recites said (follow followerId followedId) := by
  rw [follow]
  cases followerId.same followedId with
  | true => exact ⟨[], List.nil_prefix, trivial⟩
  | false => exact ⟨_, List.prefix_rfl, Recites.queryFirst _ rfl fun _ => Recites.ofExcept _⟩

/-- Every call keeps to the script of its operation. -/
theorem Operation.call_recites (settings : Settings) (o : Operation) (arguments : o.Arguments) :
    ∃ said, said <+: o.script (o.changesLocation arguments) ∧
      Recites said (o.call settings arguments) := by
  cases o with
  | lookUpUser =>
    exact ⟨_, List.prefix_rfl,
      Recites.queryFirst _ rfl fun row => (Recites.ofReadout (Stored.profile row)).map some⟩
  | fetchCandidates => exact Discovery.fetchCandidates_recites _ _ _
  | suggestUsers => exact Discovery.suggest_recites settings _ _ _ _
  | updateProfile =>
    refine ⟨_, List.prefix_rfl, Recites.ofStatement Profiles.text_of_updated fun s => ?_⟩
    exact Recites.queryFirst s rfl fun row => (Recites.ofReadout (Stored.profile row)).map some
  | followUser => exact Follows.follow_recites _ _
  | unfollowUser =>
    exact ⟨_, List.prefix_rfl, Recites.queryFirst _ rfl fun _ => Recites.ofExcept _⟩
  | checkFollowing =>
    exact ⟨_, List.prefix_rfl, Recites.queryFirst _ rfl fun _ => Recites.ofExcept _⟩
  | countFollows =>
    exact ⟨_, List.prefix_rfl, Recites.queryFirst _ rfl fun _ => Recites.ofExcept _⟩
  | readFeed => exact ⟨_, List.prefix_rfl, Posts.list_recites _ _ _⟩
  | readPosts => exact ⟨_, List.prefix_rfl, Posts.list_recites _ _ _⟩
  | createPost =>
    refine ⟨_, List.prefix_rfl, Recites.ofStatement Posts.text_of_created fun s => ?_⟩
    exact Recites.queryFirst s rfl fun row => (Recites.ofExcept (Record.column row "post_id")).bind
      fun _ => (Recites.ofReadout (Stored.post row)).map some
  | likePost => exact ⟨_, List.prefix_rfl, Posts.likesCount_recites _⟩
  | unlikePost => exact ⟨_, List.prefix_rfl, Posts.likesCount_recites _⟩
  | listEvents =>
    exact ⟨_, List.prefix_rfl,
      Recites.ofStatement Events.text_of_listed fun s => Recites.queryRows s _⟩
  | createEvent =>
    refine ⟨_, List.prefix_rfl, Recites.ofStatement Events.text_of_created fun s => ?_⟩
    exact Recites.queryFirst s rfl fun row => (Recites.ofExcept (Record.column row "event_id")).bind
      fun _ => (Recites.ofReadout (Stored.event row)).map some
  | readMessages => exact ⟨_, List.prefix_rfl, Recites.queryRows _ _⟩
  | sendMessage =>
    refine ⟨_, List.prefix_rfl, Recites.ofStatement Messages.text_of_sent fun s => ?_⟩
    exact Recites.queryFirst s rfl fun row => (Recites.ofReadout (Stored.message row)).map some
  | search => exact Search.search_recites _ _

end Scripts

/-- The statements of a call have the texts of the script at their places. -/
theorem Operation.script_getElem? (settings : Settings) (o : Operation) (arguments : o.Arguments)
    (graph : Graph) (threshold : LogLevel) (count : Nat) {i : Nat} {s : Statement}
    (sent : ((o.call settings arguments).run graph threshold count).statements[i]? = some s) :
    (o.script (o.changesLocation arguments))[i]? = some s.text := by
  obtain ⟨said, part, recites⟩ := o.call_recites settings arguments
  obtain ⟨rest, whole⟩ := (recites.texts_isPrefix graph threshold count).trans part
  have text := congrArg (Option.map Statement.text) sent
  rw [← List.getElem?_map] at text
  obtain ⟨there, -⟩ := List.getElem?_eq_some_iff.mp text
  rw [← whole, List.getElem?_append_left there]
  exact text

/-- An update has one text with the location and another one without it. -/
theorem Profiles.updateText_eq_iff (b c : Bool) : updateText b = updateText c ↔ b = c := by
  revert b c
  decide +kernel

/-- Two calls of one operation, whatever their arguments are and whatever they are told: their
statements have the same texts at the same places. Only an update of a profile has another text when
it changes the location than when it does not. -/
theorem Operation.texts_agree (o : Operation) (settings settings' : Settings)
    (arguments arguments' : o.Arguments) (graph graph' : Graph) (threshold threshold' : LogLevel)
    (count count' i : Nat) (s t : Statement)
    (sent : ((o.call settings arguments).run graph threshold count).statements[i]? = some s)
    (sent' : ((o.call settings' arguments').run graph' threshold' count').statements[i]? =
      some t) :
    (o ≠ .updateProfile → s.text = t.text) ∧
      (s.text = t.text ↔ o.changesLocation arguments = o.changesLocation arguments') := by
  have text := o.script_getElem? settings arguments graph threshold count sent
  have text' := o.script_getElem? settings' arguments' graph' threshold' count' sent'
  by_cases update : o = .updateProfile
  · subst update
    refine ⟨fun other => absurd rfl other, ?_⟩
    -- There is one statement at most, so both are the first one.
    cases i with
    | zero =>
      rw [← Option.some.inj text, ← Option.some.inj text']
      exact Profiles.updateText_eq_iff _ _
    | succ i => cases text
  · have unchanged : ∀ given : o.Arguments, o.changesLocation given = false := by
      intro given
      cases o <;> first | rfl | exact absurd rfl update
    rw [unchanged, unchanged] at *
    have same : s.text = t.text := Option.some.inj (text.symm.trans text')
    exact ⟨fun _ => same, iff_of_true same rfl⟩

section Samples

private def emptyGraph : Graph := .ofReplies []

/-- The third statements of two searches, one of which is for a text with quotes and a comment. -/
theorem Operation.texts_agree_searches :
    ∃ s t : Statement,
      ((call .standard .search (.text "Jazz", .int 20)).run emptyGraph .info 0).statements[2]? =
          some s ∧
        ((call .standard .search (.text "' RETURN u //", .int 5)).run emptyGraph .info
          7).statements[2]? = some t ∧
        s.params.get? "prefix" = some (.text "jazz") ∧
        t.params.get? "prefix" = some (.text "' return u //") ∧ s.text = t.text := by
  have sent : ((call .standard .search (.text "Jazz", .int 20)).run emptyGraph .info
      0).statements[2]? = some (Search.postsStatement "jazz" (.int 20)) := rfl
  have sent' : ((call .standard .search (.text "' RETURN u //", .int 5)).run emptyGraph .info
      7).statements[2]? = some (Search.postsStatement "' return u //" (.int 5)) := rfl
  obtain ⟨same, -⟩ := texts_agree .search .standard .standard (.text "Jazz", .int 20)
    (.text "' RETURN u //", .int 5) emptyGraph emptyGraph .info .info 0 7 2 _ _ sent sent'
  exact ⟨_, _, sent, sent', rfl, rfl, same (by decide)⟩

end Samples

end MusicianGraph
