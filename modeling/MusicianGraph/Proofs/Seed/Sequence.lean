import Mathlib.Algebra.Order.Ring.Nat
import Mathlib.Data.Nat.Basic
import Mathlib.Data.List.Infix
import MusicianGraph.Proofs.Graph.Plans
import MusicianGraph.Proofs.Seed.Loading

/-! # What a seeding sends and says

The loaded rows determine a plan: the test of the connection, the constraints, a statement for each
user, follow, post and event, and the two counts. Whatever the graph answers, a seeding sends a
beginning of it. If all of it is sent, the lines that were printed have the lengths of the phases in
them, and tell of every thousandth user and every ten thousandth follow. -/

namespace MusicianGraph

namespace Seed

open Conversation

section Plans

/-- What is to be sent for the rows of the tables; those of posts and of events may be left out. -/
structure Phases where
  users : Plan
  follows : Plan
  posts : Option Plan
  events : Option Plan

namespace Phases

/-- What is to be sent in the session of the writes. -/
def writes (p : Phases) : Plan :=
  constraints.map .ok ++ p.users ++ p.follows ++ p.posts.getD [] ++ p.events.getD []

/-- What is to be sent before the counts. -/
def opening (p : Phases) : Plan := .ok testStatement :: p.writes

/-- All that is to be sent, in order. -/
def sequence (p : Phases) : Plan := p.opening ++ [.ok countUsers, .ok countFollows]

end Phases

/-- A statement for each row, or the failure to make it. -/
def phases (tables : Tables) : Phases where
  users := tables.musicians.rows.map userStatement
  follows := tables.follows.rows.map followStatement
  posts := tables.posts.map fun t => t.rows.map postStatement
  events := tables.events.map fun t => t.rows.map eventStatement

end Plans

section Lines

/-- The lines that tell how far it is: one for every so many rows. -/
def progress (step : Nat) (things : String) (count : Nat) : List String :=
  (List.range (count / step)).map fun i =>
    "Created " ++ toString ((i + 1) * step) ++ " " ++ things ++ "..."

def loadedLine (musicians follows posts events : Nat) : String :=
  "Loaded: " ++ toString musicians ++ " musicians, " ++ toString follows ++ " follows, "
    ++ toString posts ++ " posts, " ++ toString events ++ " events"

def createdLine (things : String) (count : Nat) : String := "✓ Created " ++ toString count ++ things

def written (p : Phases) : List String :=
  ["✓ Constraints created"] ++ progress 1000 "users" p.users.length ++
    [createdLine " User nodes" p.users.length] ++
    progress 10000 "relationships" p.follows.length ++
    [createdLine " FOLLOWS relationships" p.follows.length] ++
    p.posts.toList.map (fun posts => createdLine " Post nodes" posts.length) ++
    p.events.toList.map fun events => createdLine " Event nodes" events.length

/-- The lines before the counts. -/
def report (settings : Settings) (p : Phases) : List String :=
  ["Connecting to Neo4j at: " ++ settings.graphUri, "✓ Connection successful",
    loadedLine p.users.length p.follows.length (p.posts.getD []).length (p.events.getD []).length] ++
    written p

/-- The counts that are read off a graph that has already answered `count` statements. -/
def countsAt (graph : Graph) (count : Nat) : Except Failure (String × String) := do
  let users ← (graph count countUsers).result
  let edges ← (graph (count + 1) countFollows).result
  let users ← countIn users.head?
  let edges ← countIn edges.head?
  .ok (users, edges)

/-- The lines of the counts. Without them there are none. -/
def farewell : Except Failure (String × String) → List String
  | .error _ => []
  | .ok (users, edges) =>
      ["Verification: " ++ users ++ " users, " ++ edges ++ " FOLLOWS relationships",
        "✓ ETL completed successfully"]

/-- One line for every row whose number is a multiple. -/
theorem filterMap_every (step : Nat) (things : String) (count : Nat) :
    (List.range' 1 count).filterMap (every step things) = progress step things count := by
  rw [progress]
  induction count with
  | zero =>
    rw [Nat.zero_div]
    rfl
  | succ count ih =>
    rw [List.range'_1_concat, List.filterMap_append, ih, Nat.succ_div, Nat.add_comm 1 count]
    by_cases whole : step ∣ count + 1
    · have last : (count / step + 1) * step = count + 1 := by
        rw [← Nat.div_mul_cancel whole, Nat.succ_div, if_pos whole]
      have told : every step things (count + 1) =
          some ("Created " ++ toString (count + 1) ++ " " ++ things ++ "...") :=
        if_pos (Nat.mod_eq_zero_of_dvd whole)
      rw [if_pos whole, List.range_succ, List.map_append, List.map_singleton, last,
        List.filterMap_cons, told, List.filterMap_nil]
    · have silent : every step things (count + 1) = none :=
        if_neg fun zero => whole (Nat.dvd_of_mod_eq_zero zero)
      rw [if_neg whole, List.filterMap_cons, silent, List.filterMap_nil, List.append_nil]
      rfl

example : progress 1000 "users" 2500 = ["Created 1000 users...", "Created 2000 users..."] := by rfl

end Lines

section Writes

theorem run_send (s : Statement) (graph : Graph) (threshold : LogLevel) (count : Nat) :
    (send s).run graph threshold count =
      ⟨(graph count s).result.map fun _ => (), [.sent s]⟩ := by
  change Run.after _ ((Conversation.ofExcept (graph count s).result >>= fun _ => pure ()).run
    graph threshold (count + 1)) = _
  cases (graph count s).result <;> rfl

theorem carries_send (s : Statement) : Carries (send s) [.ok s] [] := by
  constructor
  case run =>
    intro graph threshold count
    rw [run_send, Plan.sent, Plan.outcome]
    cases graph count s <;> exact ⟨rfl, rfl⟩
  case printed =>
    intro graph threshold count ends
    rw [run_send]
    rfl

theorem carries_made (item : Except Failure Statement) :
    Carries (Conversation.ofExcept item >>= send) [item] [] := by
  cases item with
  | error e => exact .failed e []
  | ok s => exact carries_send s

theorem carries_forM (list : List Statement) : Carries (list.forM send) (list.map .ok) [] := by
  induction list with
  | nil => exact .done
  | cons s rest ih => exact (carries_send s).bind ih

section Rows

variable (statement : Record → Except Failure Statement) (tell : Nat → Option String) (count : Nat)
  (rows : List Record)

/-- The rows are counted as they are sent: what comes after them is told their number. -/
theorem sendRows_bind (next : Nat → Conversation Unit) :
    sendRows statement tell count rows >>= next =
      sendRows statement tell count rows >>= fun _ => next (count + rows.length) := by
  induction rows generalizing count with
  | nil => rfl
  | cons row rest ih =>
    have later := ih (count + 1)
    rw [Nat.add_right_comm, Nat.add_assoc, ← List.length_cons (a := row)] at later
    rw [sendRows]
    simp only [bind_assoc]
    refine bind_congr fun s => bind_congr fun _ => ?_
    cases tell (count + 1) with
    | none => exact later
    | some line => exact bind_congr (x := say line) fun _ => later

/-- Rows are sent in order, their numbers go on from the count, and then the rest follows. -/
theorem carries_sendRows {next : Nat → Conversation Unit} {p : Plan} {texts : List String}
    (rest : Carries (next (count + rows.length)) p texts) :
    Carries (sendRows statement tell count rows >>= next) (rows.map statement ++ p)
      (((List.range' (count + 1) rows.length).filterMap tell).map (lineMark ++ ·) ++ texts) := by
  rw [sendRows_bind]
  generalize next (count + rows.length) = after at rest
  induction rows generalizing count with
  | nil => exact rest
  | cons row others ih =>
    rw [sendRows, List.length_cons, List.range'_succ, List.filterMap_cons]
    simp only [bind_assoc]
    rw [← bind_assoc]
    cases tell (count + 1) with
    | none => exact (carries_made (statement row)).bind (ih (count + 1))
    | some line =>
      exact (carries_made (statement row)).bind ((Carries.print _).bind (ih (count + 1)))

end Rows

/-- The phase of a table that may be left out, and what comes after it. -/
theorem carries_optional (statement : Record → Except Failure Statement) (things : String)
    (table : Option Table) {c : Conversation Unit} {p : Plan} {texts : List String}
    (rest : Carries c p texts) :
    Carries (match table with
      | none => c
      | some t => do
          let _ ← sendRows statement never 0 t.rows
          say (createdLine things t.rows.length)
          c)
      ((table.map fun t => t.rows.map statement).getD [] ++ p)
      ((table.map fun t => t.rows.map statement).toList.map
        (fun made => lineMark ++ createdLine things made.length) ++ texts) := by
  cases table with
  | none => exact rest
  | some t =>
    have last : Carries (say (createdLine things t.rows.length) >>= fun _ => c) _ _ :=
      (Carries.print (lineMark ++ createdLine things t.rows.length)).bind rest
    have phase := @carries_sendRows statement never 0 t.rows (fun _ => _) _ _ last
    have silent : (List.range' 1 t.rows.length).filterMap never = [] :=
      List.filterMap_eq_nil_iff.mpr fun _ _ => rfl
    rw [silent] at phase
    rw [Option.map_some, Option.toList_some, List.map_singleton, List.length_map]
    exact phase

/-- A counted phase, the line that tells how many rows it had, and what comes after it. -/
theorem carries_counted (statement : Record → Except Failure Statement)
    (tell : Nat → Option String) (things : String) (rows : List Record) {c : Conversation Unit}
    {p : Plan} {texts : List String} (rest : Carries c p texts) :
    Carries (do
        let sent ← sendRows statement tell 0 rows
        say (createdLine things sent)
        c)
      (rows.map statement ++ p)
      (((List.range' 1 rows.length).filterMap tell).map (lineMark ++ ·) ++
        (lineMark ++ createdLine things rows.length) :: texts) := by
  refine carries_sendRows statement tell 0 rows ?_
  rw [Nat.zero_add]
  exact (Carries.print _).bind rest

theorem carries_write (tables : Tables) :
    Carries (write tables) (phases tables).writes
      ((written (phases tables)).map (lineMark ++ ·)) := by
  have optional := carries_optional postStatement " Post nodes" tables.posts
    (carries_optional eventStatement " Event nodes" tables.events .done)
  have follows := carries_counted followStatement (every 10000 "relationships")
    " FOLLOWS relationships" tables.follows.rows optional
  have users := carries_counted userStatement (every 1000 "users") " User nodes"
    tables.musicians.rows follows
  have whole : Carries (write tables) _ _ := (carries_forM constraints).bind
    ((Carries.print (lineMark ++ "✓ Constraints created")).bind users)
  rw [filterMap_every, filterMap_every] at whole
  simpa only [Phases.writes, written, phases, List.map_append, List.map_cons, List.map_nil,
    List.map_map, Function.comp_def, List.length_map, List.append_assoc, List.nil_append,
    List.append_nil, List.cons_append] using whole

end Writes

section Sessions

variable {c : Conversation Unit} {p : Plan} {texts : List String}

theorem carries_inSession (driver : Nat) (work : Carries c p texts) :
    Carries (inSession driver c) p texts := by
  have whole := (work.attempt (.sessionClosed driver)).note (.sessionOpened driver)
  have same : inSession driver c = .note (.sessionOpened driver)
      (c.attempt >>= fun result => .note (.sessionClosed driver) (ofExcept result)) :=
    congrArg (Conversation.note (.sessionOpened driver)) (bind_assoc c.attempt
      (fun result => .note (.sessionClosed driver) (pure result)) ofExcept)
  rw [same]
  simpa only [Note.text?, Option.toList_none, List.nil_append, List.append_nil] using whole

/-- A seeding up to the loading, and what comes after it. -/
def opened (settings : Settings) (rest : Conversation Unit) : Conversation Unit :=
  say ("Connecting to Neo4j at: " ++ settings.graphUri) >>= fun _ =>
  .note (.connecting settings.graphUri settings.graphUser settings.graphPassword) <|
  .note (.connected 0) <|
  inSession 0 (send testStatement) >>= fun _ =>
  say "✓ Connection successful" >>= fun _ => rest

theorem carries_opened (settings : Settings) (rest : Carries c p texts) :
    Carries (opened settings c) (.ok testStatement :: p)
      ((lineMark ++ ("Connecting to Neo4j at: " ++ settings.graphUri)) ::
        (lineMark ++ "✓ Connection successful") :: texts) := by
  have tested := (carries_inSession 0 (carries_send testStatement)).bind
    ((Carries.print (lineMark ++ "✓ Connection successful")).bind rest)
  exact (Carries.print _).bind ((tested.note _).note _)

theorem opened_bind (settings : Settings) (c d : Conversation Unit) :
    opened settings (c >>= fun _ => d) = opened settings c >>= fun _ => d :=
  congrArg (fun rest => say ("Connecting to Neo4j at: " ++ settings.graphUri) >>= fun _ =>
      .note (.connecting settings.graphUri settings.graphUser settings.graphPassword) <|
      .note (.connected 0) rest)
    (bind_assoc (inSession 0 (send testStatement))
      (fun _ => say "✓ Connection successful" >>= fun _ => c) fun _ => d).symm

/-- What comes after the loading, up to the counts. -/
def filled (tables : Tables) : Conversation Unit := do
  say (loadedLine tables.musicians.rows.length tables.follows.rows.length (size tables.posts)
    (size tables.events))
  inSession 0 (write tables)

/-- The counts, and the end. -/
def closing : Conversation Unit := do
  inSession 0 verify
  Conversation.note (.disconnected 0) (pure ())
  say "✓ ETL completed successfully"

theorem run_eq (settings : Settings) (files : Files) :
    run settings files = opened settings (Conversation.ofExcept (load files) >>= fun tables =>
      filled tables >>= fun _ => closing) := rfl

theorem size_eq (statement : Record → Except Failure Statement) (table : Option Table) :
    size table = ((table.map fun t => t.rows.map statement).getD []).length := by
  cases table with
  | none => rfl
  | some t => exact (List.length_map statement).symm

/-- A seeding of loaded tables follows the plan up to the counts. -/
theorem carries_opening (settings : Settings) (tables : Tables) :
    Carries (opened settings (filled tables)) (phases tables).opening
      ((report settings (phases tables)).map (lineMark ++ ·)) := by
  have sizes : loadedLine (phases tables).users.length (phases tables).follows.length
      ((phases tables).posts.getD []).length ((phases tables).events.getD []).length =
        loadedLine tables.musicians.rows.length tables.follows.rows.length (size tables.posts)
          (size tables.events) := by
    rw [phases, ← size_eq, ← size_eq, List.length_map, List.length_map]
  rw [report, sizes]
  exact carries_opened settings ((Carries.print (lineMark ++ loadedLine ..)).bind
    (carries_inSession 0 (carries_write tables)))

/-- A seeding of files that cannot be loaded ends after the test. -/
theorem run_unloaded (settings : Settings) {files : Files} {e : Failure}
    (unloaded : load files = .error e) (graph : Graph) (threshold : LogLevel) (count : Nat) :
    ((run settings files).run graph threshold count).statements = [testStatement] ∧
      ∃ f, ((run settings files).run graph threshold count).outcome = .error f := by
  have whole := carries_opened settings (Carries.failed e [])
  obtain ⟨sent, result⟩ := whole.run graph threshold count
  have same : run settings files = opened settings (.failed e) := by
    rw [run_eq, unloaded]
    rfl
  rw [same, sent, result, Plan.sent, Plan.outcome]
  cases graph count testStatement with
  | rows rows => exact ⟨rfl, e, rfl⟩
  | fault kind message => exact ⟨rfl, _, rfl⟩

/-- What the counts send and say, and how they end. -/
theorem run_closing (graph : Graph) (threshold : LogLevel) (count : Nat) :
    (closing.run graph threshold count).statements =
        Plan.sent graph count [.ok countUsers, .ok countFollows] ∧
      (closing.run graph threshold count).outcome = (countsAt graph count).map (fun _ => ()) ∧
      (closing.run graph threshold count).printedTexts =
        (farewell (countsAt graph count)).map (lineMark ++ ·) := by
  rw [Plan.sent, Plan.sent, countsAt, closing, inSession, Pool.inSession, verify, queryFirst,
    queryFirst, query, query]
  -- How it goes on depends on each reply, so the replies are gone through in turn.
  simp only [Bind.bind, Conversation.bind, attempt, Conversation.run]
  cases graph count countUsers with
  | fault kind message => exact ⟨rfl, rfl, rfl⟩
  | rows users =>
    simp only [Reply.result, Conversation.ofExcept, Conversation.bind, attempt, Conversation.run,
      pure]
    cases graph (count + 1) countFollows with
    | fault kind message => exact ⟨rfl, rfl, rfl⟩
    | rows edges =>
      simp only [Conversation.bind, Except.bind]
      cases countIn users.head? with
      | error e => exact ⟨rfl, rfl, rfl⟩
      | ok shown => cases countIn edges.head? <;> exact ⟨rfl, rfl, rfl⟩

end Sessions

section Order

/-- The statement writes a user. -/
def WritesUser (s : Statement) : Prop := ∃ row, userStatement row = .ok s

/-- The statement is for users that have been written: of a follow, a post or an event. -/
def NeedsUsers (s : Statement) : Prop :=
  ∃ row, followStatement row = .ok s ∨ postStatement row = .ok s ∨ eventStatement row = .ok s

/-- A text of clauses begins with the first one. -/
theorem isPrefix_clauses (first : String) (rest : List String) :
    first.toList <+: (Projection.clauses (first :: rest)).toList := by
  rw [Projection.clauses, String.toList_intercalate, List.map_cons]
  cases rest with
  | nil => simp
  | cons second rest =>
    rw [List.map_cons, List.intercalate_cons_cons, List.append_assoc]
    exact List.prefix_append _ _

theorem WritesUser.merges {s : Statement} (writes : WritesUser s) :
    "MERGE".toList <+: s.text.toList := by
  obtain ⟨row, success⟩ := writes
  simp only [userStatement, bind_ok_iff] at success
  obtain ⟨_, -, _, -, _, -, _, -, _, -, _, -, same⟩ := success
  cases same
  exact isPrefix_clauses _ _

theorem NeedsUsers.matches {s : Statement} (needs : NeedsUsers s) :
    "MATCH".toList <+: s.text.toList := by
  rcases needs with ⟨row, success | success | success⟩
  · simp only [followStatement, bind_ok_iff] at success
    obtain ⟨_, -, _, -, same⟩ := success
    cases same
    exact isPrefix_clauses _ _
  · simp only [postStatement, bind_ok_iff] at success
    obtain ⟨_, -, _, -, _, -, same⟩ := success
    cases same
    exact isPrefix_clauses _ _
  · simp only [eventStatement, bind_ok_iff] at success
    obtain ⟨_, -, _, -, _, -, _, -, _, -, same⟩ := success
    cases same
    exact isPrefix_clauses _ _

theorem WritesUser.not_needsUsers {s : Statement} (writes : WritesUser s) : ¬ NeedsUsers s := by
  intro needs
  have same := List.prefix_of_prefix_length_le writes.merges needs.matches (by decide)
  exact absurd same (by decide)

/-- What is to be sent up to the last user needs none. -/
theorem not_needsUsers {tables : Tables} {s : Statement}
    (listed : .ok s ∈ Except.ok testStatement :: (constraints.map .ok ++ (phases tables).users)) :
    ¬ NeedsUsers s := by
  intro needs
  have begins := needs.matches
  rcases List.mem_cons.mp listed with here | later
  · cases here
    exact absurd begins (by decide)
  · rcases List.mem_append.mp later with constraint | user
    · obtain ⟨t, among, same⟩ := List.mem_map.mp constraint
      cases same
      have others : ∀ t ∈ constraints, ¬ "MATCH".toList <+: t.text.toList := by decide +kernel
      exact others s among begins
    · obtain ⟨row, -, made⟩ := List.mem_map.mp user
      exact WritesUser.not_needsUsers ⟨row, made⟩ needs

theorem mem_optional {statement : Record → Except Failure Statement} {table : Option Table}
    {item : Except Failure Statement}
    (listed : item ∈ (table.map fun t => t.rows.map statement).getD []) :
    ∃ row, statement row = item := by
  cases table with
  | none => cases listed
  | some t =>
    obtain ⟨row, -, made⟩ := List.mem_map.mp listed
    exact ⟨row, made⟩

/-- What is to be sent after the last user writes none. -/
theorem not_writesUser {tables : Tables} {s : Statement}
    (listed : .ok s ∈ (phases tables).follows ++ (phases tables).posts.getD [] ++
      (phases tables).events.getD [] ++ [.ok countUsers, .ok countFollows]) :
    ¬ WritesUser s := by
  intro writes
  simp only [List.mem_append, List.mem_cons, List.not_mem_nil, or_false, Except.ok.injEq,
    or_assoc] at listed
  rcases listed with follow | post | event | rfl | rfl
  · obtain ⟨row, -, made⟩ := List.mem_map.mp follow
    exact writes.not_needsUsers ⟨row, .inl made⟩
  · obtain ⟨row, made⟩ := mem_optional post
    exact writes.not_needsUsers ⟨row, .inr (.inl made)⟩
  · obtain ⟨row, made⟩ := mem_optional event
    exact writes.not_needsUsers ⟨row, .inr (.inr made)⟩
  · exact absurd writes.merges (by decide)
  · exact absurd writes.merges (by decide)

/-- In the plan no follow, post or event stands before a user. -/
theorem pairwise_sequence (tables : Tables) :
    (phases tables).sequence.Pairwise fun earlier later => ∀ s t, earlier = .ok s → later = .ok t →
      WritesUser t → ¬ NeedsUsers s := by
  have split : (phases tables).sequence =
      (.ok testStatement :: (constraints.map .ok ++ (phases tables).users)) ++
        ((phases tables).follows ++ (phases tables).posts.getD [] ++
          (phases tables).events.getD [] ++ [.ok countUsers, .ok countFollows]) := by
    simp only [Phases.sequence, Phases.opening, Phases.writes, List.cons_append, List.append_assoc]
  rw [split, List.pairwise_append]
  refine ⟨?_, ?_, ?_⟩
  · apply List.pairwise_of_forall_mem_list
    rintro _ here _ - s t rfl - -
    exact not_needsUsers here
  · apply List.pairwise_of_forall_mem_list
    rintro _ - _ there s t - rfl writes
    exact absurd writes (not_writesUser there)
  · rintro _ here _ - s t rfl - -
    exact not_needsUsers here

/-- Of what is sent as planned, no follow, post or event comes before a user. -/
theorem pairwise_of_isPrefix {tables : Tables} {sent : List Statement}
    (planned : sent.map .ok <+: (phases tables).sequence) :
    sent.Pairwise fun earlier later => WritesUser later → ¬ NeedsUsers earlier := by
  have whole := (pairwise_sequence tables).sublist planned.sublist
  rw [List.pairwise_map] at whole
  exact whole.imp fun apart => apart _ _ rfl rfl

end Order

section Runs

theorem dropLast_sequence (p : Phases) : p.sequence.dropLast = p.opening ++ [.ok countUsers] := by
  rw [Phases.sequence, ← List.singleton_append, ← List.append_assoc]
  exact List.dropLast_concat

variable {files : Files} {tables : Tables} (loaded : load files = .ok tables)
  (settings : Settings) (graph : Graph) (threshold : LogLevel) (count : Nat)

include loaded

theorem run_eq_of_load :
    run settings files = opened settings (filled tables) >>= fun _ => closing := by
  rw [run_eq, loaded]
  exact opened_bind settings (filled tables) closing

/-- After the writes have come to their end the counts follow. -/
theorem run_of_opening_ok
    (ends : Plan.outcome graph count (phases tables).opening = .ok ()) :
    ((run settings files).run graph threshold count).statements =
        Plan.sent graph count (phases tables).sequence ∧
      ((run settings files).run graph threshold count).outcome =
        (countsAt graph (count + (phases tables).opening.length)).map (fun _ => ()) ∧
      ((run settings files).run graph threshold count).printedTexts =
        (report settings (phases tables) ++
          farewell (countsAt graph (count + (phases tables).opening.length))).map
            (lineMark ++ ·) := by
  have front := carries_opening settings tables
  obtain ⟨sent, result⟩ := front.run graph threshold count
  have size := Plan.length_sent_of_ok ends
  obtain ⟨last, all⟩ := run_bind_ok graph threshold (result.trans ends) fun _ => closing
  have texts := printedTexts_bind graph threshold (result.trans ends) fun _ => closing
  obtain ⟨sent', result', texts'⟩ := run_closing graph threshold
    (count + (phases tables).opening.length)
  rw [sent, size] at last all texts
  rw [run_eq_of_load loaded, last, all, texts, sent', result', texts',
    front.printed graph threshold count ends, List.map_append, Phases.sequence,
    (Plan.append_of_ok ends _).1]
  exact ⟨rfl, rfl, rfl⟩

/-- If they have not, nothing follows. -/
theorem run_of_opening_error {e : Failure}
    (ends : Plan.outcome graph count (phases tables).opening = .error e) :
    ((run settings files).run graph threshold count).statements =
        Plan.sent graph count (phases tables).sequence ∧
      ((run settings files).run graph threshold count).outcome = .error e := by
  obtain ⟨sent, result⟩ := (carries_opening settings tables).run graph threshold count
  obtain ⟨last, all⟩ := run_bind_error graph threshold (result.trans ends) fun _ => closing
  rw [run_eq_of_load loaded, last, all, sent, Phases.sequence, (Plan.append_of_error ends _).1]
  exact ⟨rfl, rfl⟩

/-- Whatever the graph answers, what is sent is what the plan comes to. -/
theorem statements_eq : ((run settings files).run graph threshold count).statements =
    Plan.sent graph count (phases tables).sequence := by
  cases ends : Plan.outcome graph count (phases tables).opening with
  | ok _ => exact (run_of_opening_ok loaded settings graph threshold count ends).1
  | error e => exact (run_of_opening_error loaded settings graph threshold count ends).1

/-- All of the plan is sent exactly if everything before its last statement succeeds. -/
theorem whole_iff : ((run settings files).run graph threshold count).statements.map .ok =
    (phases tables).sequence ↔ Plan.Succeeds graph count (phases tables).sequence.dropLast := by
  have concat : (phases tables).sequence =
      ((phases tables).opening ++ [.ok countUsers]) ++ [.ok countFollows] := by
    rw [Phases.sequence, List.append_assoc, List.singleton_append]
  rw [statements_eq loaded, dropLast_sequence, concat]
  exact Plan.map_sent_concat_iff countFollows

omit loaded in
/-- If so, the writes have come to their end. -/
theorem opening_ok_of_whole
    (whole : Plan.Succeeds graph count (phases tables).sequence.dropLast) :
    Plan.outcome graph count (phases tables).opening = .ok () := by
  rw [dropLast_sequence, ← Plan.outcome_eq_ok_iff] at whole
  cases ends : Plan.outcome graph count (phases tables).opening with
  | ok _ => rfl
  | error e =>
    rw [(Plan.append_of_error ends _).2] at whole
    cases whole

/-- A run that ends well has counted the users, so all before the last statement has succeeded. -/
theorem succeeds_of_ok (ends : ((run settings files).run graph threshold count).outcome = .ok ()) :
    Plan.Succeeds graph count (phases tables).sequence.dropLast := by
  rw [dropLast_sequence, ← Plan.outcome_eq_ok_iff]
  cases opening : Plan.outcome graph count (phases tables).opening with
  | error e =>
    rw [(run_of_opening_error loaded settings graph threshold count opening).2] at ends
    cases ends
  | ok _ =>
    rw [(run_of_opening_ok loaded settings graph threshold count opening).2.1] at ends
    obtain ⟨counts, success, -⟩ := map_ok_iff.mp ends
    rw [countsAt, bind_ok_iff] at success
    obtain ⟨users, answered, -⟩ := success
    rw [(Plan.append_of_ok opening _).2, Plan.outcome]
    cases answer : graph (count + (phases tables).opening.length) countUsers with
    | rows rows => rfl
    | fault kind message =>
      rw [answer] at answered
      cases answered

end Runs

/-- A run keeps to the plan of the tables, and what it says of it is right. -/
structure KeepsToPlan (settings : Settings) (tables : Tables) (graph : Graph) (count : Nat)
    (r : Run Unit) : Prop where
  /-- A beginning of the plan is sent. -/
  isPrefix : r.statements.map .ok <+: (phases tables).sequence
  /-- All of it is sent exactly if everything before the last statement succeeds. -/
  whole_iff : r.statements.map .ok = (phases tables).sequence ↔
    Plan.Succeeds graph count (phases tables).sequence.dropLast
  /-- No follow, post or event is sent before a user. -/
  usersFirst : r.statements.Pairwise fun earlier later => WritesUser later → ¬ NeedsUsers earlier
  /-- A run that ends well has sent all of it. -/
  whole_of_ok : r.outcome = .ok () → r.statements.map .ok = (phases tables).sequence
  /-- If all of it is sent, the lengths of its phases are printed, and then the counts. -/
  printed : r.statements.map .ok = (phases tables).sequence →
    ∃ counts, r.outcome = counts.map (fun _ => ()) ∧
      r.printedLines = ((report settings (phases tables) ++ farewell counts).map
        (lineMark ++ ·)).flatMap textLines

/-- A seeding of loaded tables keeps to their plan. -/
theorem keepsToPlan_of_load {files : Files} {tables : Tables} (loaded : load files = .ok tables)
    (settings : Settings) (graph : Graph) (threshold : LogLevel) (count : Nat) :
    KeepsToPlan settings tables graph count ((run settings files).run graph threshold count) := by
  have planned : ((run settings files).run graph threshold count).statements.map .ok <+:
      (phases tables).sequence := by
    rw [statements_eq loaded]
    exact Plan.map_sent_isPrefix graph count _
  have whole_iff := whole_iff loaded settings graph threshold count
  constructor
  case isPrefix => exact planned
  case whole_iff => exact whole_iff
  case usersFirst => exact pairwise_of_isPrefix planned
  case whole_of_ok =>
    intro ends
    exact whole_iff.mpr (succeeds_of_ok loaded settings graph threshold count ends)
  case printed =>
    intro whole
    have opening := opening_ok_of_whole graph count (whole_iff.mp whole)
    obtain ⟨-, result, texts⟩ := run_of_opening_ok loaded settings graph threshold count opening
    exact ⟨_, result, by rw [Run.printedLines_eq, texts]⟩

/-- Files without what is needed are not loaded, and then nothing is sent after the test of the
connection. A seeding of loaded tables keeps to their plan. -/
theorem run_keepsToPlan (settings : Settings) (files : Files) (graph : Graph)
    (threshold : LogLevel) (count : Nat) :
    ((∃ name ∈ neededFiles, files name = none) ∨
        (∃ entry ∈ neededColumns, ¬ HasColumns files entry.1 entry.2) →
      ∃ e, load files = .error e) ∧
    match load files with
    | .error _ =>
        ((run settings files).run graph threshold count).statements = [testStatement] ∧
          ∃ f, ((run settings files).run graph threshold count).outcome = .error f
    | .ok tables =>
        KeepsToPlan settings tables graph count ((run settings files).run graph threshold count) := by
  constructor
  · intro lacking
    cases result : load files with
    | error e => exact ⟨e, rfl⟩
    | ok tables =>
      obtain ⟨there, columns⟩ := needs_of_load result
      rcases lacking with ⟨name, needed, missing⟩ | ⟨entry, needed, missing⟩
      · exact absurd missing (there name needed)
      · exact absurd (columns entry needed) missing
  cases result : load files with
  | error e => exact run_unloaded settings result graph threshold count
  | ok tables => exact keepsToPlan_of_load result settings graph threshold count

section Samples

/-- The required files with no rows in them. -/
private def headers : Files := fun name =>
  if name = "musicians.csv" then
    some "id,username,name,bio,genres,instruments,latitude,longitude,avatar_url\n"
  else if name = "follows.csv" then some "follower,followed\n" else none

/-- A graph that is down when it is asked for the number of follows. -/
private def down : Graph := fun count _ =>
  if count = 5 then .fault .serviceUnavailable "down" else .rows []

/-- All of the plan is sent also if its last statement fails. -/
theorem sequence_sent_of_fault :
    ∃ tables, load headers = .ok tables ∧
      ((run .standard headers).run down .info 0).statements.map .ok = (phases tables).sequence ∧
      ¬ Plan.Succeeds down 0 (phases tables).sequence := by
  have loaded : load headers = .ok ⟨⟨["id", "username", "name", "bio", "genres", "instruments",
      "latitude", "longitude", "avatar_url"], []⟩, ⟨["follower", "followed"], []⟩, none, none⟩ := by
    rfl
  refine ⟨_, loaded, ?_, ?_⟩
  · rw [(keepsToPlan_of_load loaded .standard down .info 0).whole_iff]
    intro i item found
    rcases i with _ | _ | _ | _ | _ | i
    case succ.succ.succ.succ.succ => cases found
    all_goals
      cases found
      exact ⟨_, [], rfl, rfl⟩
  · intro all
    obtain ⟨s, rows, made, answered⟩ := all 5 _ rfl
    cases answered

end Samples

end Seed

end MusicianGraph
