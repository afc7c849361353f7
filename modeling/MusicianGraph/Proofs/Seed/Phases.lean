import MusicianGraph.Proofs.Seed.Sequence

/-! # The statements of one phase

The statements of a phase are known by a parameter that no other phase has. Of what a seeding sends,
those are a beginning of the phase, and all of it if the seeding ends well. Files that cannot be
loaded have none. -/

namespace MusicianGraph

namespace Plan

variable {kind : Statement → Bool} {before phase after : Plan} {sent : List Statement}

/-- If only one part of a plan has statements of a kind, then those of what is sent are a
beginning of that part. -/
theorem filter_isPrefix (own : ∀ s, .ok s ∈ phase → kind s = true)
    (others : ∀ s, .ok s ∈ before ++ after → kind s = false)
    (planned : sent.map .ok <+: before ++ (phase ++ after)) :
    (sent.filter kind).map .ok <+: phase := by
  induction before generalizing sent with
  | cons item rest ih =>
    cases sent with
    | nil => exact List.nil_prefix
    | cons s later =>
      rw [List.map_cons, List.cons_append, List.cons_prefix_cons] at planned
      have other : kind s = false := by
        apply others
        rw [planned.1]
        exact List.mem_cons_self
      rw [List.filter_cons_of_neg (Bool.eq_false_iff.mp other)]
      exact ih (fun s listed => others s (List.mem_cons_of_mem _ listed)) planned.2
  | nil =>
    induction phase generalizing sent with
    | nil =>
      have none : sent.filter kind = [] := by
        apply List.filter_eq_nil_iff.mpr
        intro s listed
        rw [others s (planned.subset (List.mem_map_of_mem listed))]
        exact Bool.false_ne_true
      rw [none]
      exact List.nil_prefix
    | cons item rest ih =>
      cases sent with
      | nil => exact List.nil_prefix
      | cons s later =>
        rw [List.map_cons, List.nil_append, List.cons_append, List.cons_prefix_cons] at planned
        obtain ⟨rfl, later'⟩ := planned
        rw [List.filter_cons_of_pos (own s List.mem_cons_self), List.map_cons,
          List.prefix_cons_inj]
        exact ih (fun s listed => own s (List.mem_cons_of_mem _ listed)) later'

/-- If all of the plan is sent, all of that part is. -/
theorem filter_eq (own : ∀ s, .ok s ∈ phase → kind s = true)
    (others : ∀ s, .ok s ∈ before ++ after → kind s = false)
    (whole : sent.map .ok = before ++ (phase ++ after)) :
    (sent.filter kind).map .ok = phase := by
  obtain ⟨first, tail, rfl, rfl, tail'⟩ := List.map_eq_append_iff.mp whole
  obtain ⟨middle, last, rfl, rfl, rfl⟩ := List.map_eq_append_iff.mp tail'
  have none : ∀ part : List Statement, (∀ s ∈ part, kind s = false) → part.filter kind = [] := by
    intro part absent
    apply List.filter_eq_nil_iff.mpr
    intro s listed
    rw [absent s listed]
    exact Bool.false_ne_true
  rw [List.filter_append, List.filter_append,
    none first fun s listed => others s (List.mem_append_left _ (List.mem_map_of_mem listed)),
    none last fun s listed => others s (List.mem_append_right _ (List.mem_map_of_mem listed)),
    List.filter_eq_self.mpr fun s listed => own s (List.mem_map_of_mem listed), List.nil_append,
    List.append_nil]

end Plan

namespace Seed

section Kinds

def hasParam (name : String) (s : Statement) : Bool := s.params.names.contains name

/-- The statements with a parameter of this name that were sent. -/
def sentWith (name : String) (r : Run Unit) : List Statement := r.statements.filter (hasParam name)

variable {row : Record} {s : Statement}

theorem names_userStatement (made : userStatement row = .ok s) : s.params.names =
    ["id", "username", "name", "bio", "avatar_url", "genres", "instruments", "latitude",
      "longitude"] := by
  simp only [userStatement, bind_ok_iff] at made
  obtain ⟨_, -, _, -, _, -, _, -, _, -, _, -, same⟩ := made
  cases same
  rfl

theorem names_followStatement (made : followStatement row = .ok s) :
    s.params.names = ["src", "dst"] := by
  simp only [followStatement, bind_ok_iff] at made
  obtain ⟨_, -, _, -, same⟩ := made
  cases same
  rfl

theorem names_postStatement (made : postStatement row = .ok s) : s.params.names =
    ["id", "user_id", "title", "caption", "media_url", "media_type", "genre_filters",
      "created_at"] := by
  simp only [postStatement, bind_ok_iff] at made
  obtain ⟨_, -, _, -, _, -, same⟩ := made
  cases same
  rfl

theorem names_eventStatement (made : eventStatement row = .ok s) : s.params.names =
    ["id", "host_id", "name", "description", "image_url", "date", "latitude", "longitude",
      "created_at"] := by
  simp only [eventStatement, bind_ok_iff] at made
  obtain ⟨_, -, _, -, _, -, _, -, _, -, same⟩ := made
  cases same
  rfl

end Kinds

section Parts

variable {tables : Tables} {s : Statement}

/-- What is to be sent before the first row. -/
def front : Plan := .ok testStatement :: constraints.map .ok

/-- What is to be sent after the last row. -/
def back : Plan := [.ok countUsers, .ok countFollows]

theorem hasParam_front (name : String) (listed : .ok s ∈ front) : hasParam name s = false := by
  have silent : s.params = [] := by
    rcases List.mem_cons.mp listed with here | later
    · cases here
      rfl
    · obtain ⟨t, among, same⟩ := List.mem_map.mp later
      cases same
      obtain ⟨node, -, rfl⟩ := List.mem_map.mp among
      rfl
  rw [hasParam, silent]
  rfl

theorem hasParam_back (name : String) (listed : .ok s ∈ back) : hasParam name s = false := by
  simp only [back, List.mem_cons, List.not_mem_nil, or_false, Except.ok.injEq] at listed
  rcases listed with rfl | rfl <;> rfl

theorem hasParam_user {name : String} (listed : .ok s ∈ (phases tables).users) :
    hasParam name s = ["id", "username", "name", "bio", "avatar_url", "genres", "instruments",
      "latitude", "longitude"].contains name := by
  obtain ⟨row, -, made⟩ := List.mem_map.mp listed
  rw [hasParam, names_userStatement made]

theorem hasParam_follow {name : String} (listed : .ok s ∈ (phases tables).follows) :
    hasParam name s = ["src", "dst"].contains name := by
  obtain ⟨row, -, made⟩ := List.mem_map.mp listed
  rw [hasParam, names_followStatement made]

theorem hasParam_post {name : String} (listed : .ok s ∈ (phases tables).posts.getD []) :
    hasParam name s = ["id", "user_id", "title", "caption", "media_url", "media_type",
      "genre_filters", "created_at"].contains name := by
  obtain ⟨row, made⟩ := mem_optional listed
  rw [hasParam, names_postStatement made]

theorem hasParam_event {name : String} (listed : .ok s ∈ (phases tables).events.getD []) :
    hasParam name s = ["id", "host_id", "name", "description", "image_url", "date", "latitude",
      "longitude", "created_at"].contains name := by
  obtain ⟨row, made⟩ := mem_optional listed
  rw [hasParam, names_eventStatement made]

end Parts

section Runs

/-- What is sent with a parameter keeps to a phase. -/
structure SendsPhase (name : String) (phase : Plan) (r : Run Unit) : Prop where
  /-- A beginning of it is sent. -/
  isPrefix : (sentWith name r).map .ok <+: phase
  /-- All of it is sent if the seeding ends well. -/
  whole : r.outcome = .ok () → (sentWith name r).map .ok = phase

/-- With files that cannot be loaded the seeding fails before any phase. -/
theorem sendsPhase_of_unloaded (settings : Settings) {files : Files} {e : Failure}
    (unloaded : load files = .error e) (name : String) (phase : Plan) (graph : Graph)
    (threshold : LogLevel) (count : Nat) :
    SendsPhase name phase ((run settings files).run graph threshold count) := by
  obtain ⟨sent, f, failed⟩ := run_unloaded settings unloaded graph threshold count
  have none : sentWith name ((run settings files).run graph threshold count) = [] := by
    rw [sentWith, sent]
    rfl
  constructor
  case isPrefix =>
    rw [none]
    exact List.nil_prefix
  case whole =>
    intro ends
    rw [failed] at ends
    cases ends

variable {files : Files} {tables : Tables} (loaded : load files = .ok tables)
  (settings : Settings) (graph : Graph) (threshold : LogLevel) (count : Nat)

include loaded

theorem sendsPhase_of_split {name : String} {before phase after : Plan}
    (split : (phases tables).sequence = before ++ (phase ++ after))
    (own : ∀ s, .ok s ∈ phase → hasParam name s = true)
    (others : ∀ s, .ok s ∈ before ++ after → hasParam name s = false) :
    SendsPhase name phase ((run settings files).run graph threshold count) := by
  obtain ⟨isPrefix, -, -, whole_of_ok, -⟩ :=
    keepsToPlan_of_load loaded settings graph threshold count
  rw [split] at isPrefix whole_of_ok
  constructor
  case isPrefix => exact Plan.filter_isPrefix own others isPrefix
  case whole =>
    intro ends
    exact Plan.filter_eq own others (whole_of_ok ends)

/-- The statements of the users are those with a username. -/
theorem sendsUsers :
    SendsPhase "username" (tables.musicians.rows.map userStatement)
      ((run settings files).run graph threshold count) := by
  have split : (phases tables).sequence = front ++ ((phases tables).users ++
      ((phases tables).follows ++ (phases tables).posts.getD [] ++
        (phases tables).events.getD [] ++ back)) := by
    simp only [Phases.sequence, Phases.opening, Phases.writes, front, back, List.cons_append,
      List.append_assoc]
  apply sendsPhase_of_split loaded settings graph threshold count split
  · intro s user
    exact hasParam_user user
  · intro s listed
    simp only [List.mem_append, or_assoc] at listed
    rcases listed with first | follow | post | event | last
    · exact hasParam_front _ first
    · exact hasParam_follow follow
    · exact hasParam_post post
    · exact hasParam_event event
    · exact hasParam_back _ last

/-- The statements of the follows are those with a source. -/
theorem sendsFollows :
    SendsPhase "src" (tables.follows.rows.map followStatement)
      ((run settings files).run graph threshold count) := by
  have split : (phases tables).sequence = (front ++ (phases tables).users) ++
      ((phases tables).follows ++
        ((phases tables).posts.getD [] ++ (phases tables).events.getD [] ++ back)) := by
    simp only [Phases.sequence, Phases.opening, Phases.writes, front, back, List.cons_append,
      List.append_assoc]
  apply sendsPhase_of_split loaded settings graph threshold count split
  · intro s follow
    exact hasParam_follow follow
  · intro s listed
    simp only [List.mem_append, or_assoc] at listed
    rcases listed with first | user | post | event | last
    · exact hasParam_front _ first
    · exact hasParam_user user
    · exact hasParam_post post
    · exact hasParam_event event
    · exact hasParam_back _ last

/-- The statements of the events are those with a host. -/
theorem sendsEvents :
    SendsPhase "host_id" ((phases tables).events.getD [])
      ((run settings files).run graph threshold count) := by
  have split : (phases tables).sequence =
      (front ++ (phases tables).users ++ (phases tables).follows ++ (phases tables).posts.getD []) ++
        ((phases tables).events.getD [] ++ back) := by
    simp only [Phases.sequence, Phases.opening, Phases.writes, front, back, List.cons_append,
      List.append_assoc]
  apply sendsPhase_of_split loaded settings graph threshold count split
  · intro s event
    exact hasParam_event event
  · intro s listed
    simp only [List.mem_append, or_assoc] at listed
    rcases listed with first | user | follow | post | last
    · exact hasParam_front _ first
    · exact hasParam_user user
    · exact hasParam_follow follow
    · exact hasParam_post post
    · exact hasParam_back _ last

omit loaded in
/-- So it is with the rows of any file of musicians that can be loaded, whatever the other files
are. -/
theorem sendsUsers_of_musicians {t : Table} (musicians : loadMusicians files = .ok t) :
    SendsPhase "username" (t.rows.map userStatement)
      ((run settings files).run graph threshold count) := by
  cases result : load files with
  | error e => exact sendsPhase_of_unloaded settings result _ _ graph threshold count
  | ok tables =>
    cases musicians.symm.trans (load_ok result).1
    exact sendsUsers result settings graph threshold count

omit loaded in
/-- What is sent for a row of the musicians' file is the statement of the row with its tags taken
apart. -/
theorem userStatement_of_sent {text : String} {raw : Table} {i : Nat} {row : Record}
    {s : Statement} (given : files "musicians.csv" = some text)
    (parsed : Table.ofText (· == "id") text = .ok raw) (found : raw.rows[i]? = some row)
    (sent : (sentWith "username" ((run settings files).run graph threshold count))[i]? = some s) :
    userStatement (withTags "instruments" (withTags "genres" row)) = .ok s := by
  cases result : load files with
  | error e =>
    have none := (sendsPhase_of_unloaded settings result "username" [] graph threshold count).1
    rw [List.prefix_nil, List.map_eq_nil_iff] at none
    rw [none] at sent
    cases sent
  | ok tables =>
    have planned := (sendsUsers result settings graph threshold count).isPrefix
    rw [loadMusicians_ok given parsed (load_ok result).1, List.map_map] at planned
    obtain ⟨inside, same⟩ := List.getElem?_eq_some_iff.mp sent
    have here := List.prefix_iff_getElem?.mp planned i (by rwa [List.length_map])
    rw [List.getElem?_map, found, List.getElem_map, same] at here
    exact Option.some.inj here

end Runs

end Seed

end MusicianGraph
