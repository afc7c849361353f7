import MusicianGraph.Proofs.Graph.Thresholds
import MusicianGraph.Proofs.Service.PrefixSearch
import MusicianGraph.Proofs.Text.Trimmed

/-! # What a search answers

A search that is not blank asks three times with the same parameters and puts together what is read
off the rows: users, events, posts, each in the order of their rows. Its record is told where all
lines stay; at any other threshold only lines are missing. -/

namespace MusicianGraph

open Conversation

section Rows

variable {α : Type} {read : Record → Readout α} {rows : List Record} {found : List α}

def Readout.lines (r : Readout α) : List Note := r.warnings.map (.logged .warning)

/-- The warnings about all rows, row by row. -/
def linesAbout (read : Record → Readout α) (rows : List Record) : List Note :=
  rows.flatMap fun row => (read row).lines

/-- Each row is read as the item in its place. -/
def RowsRead (read : Record → Readout α) : List Record → List α → Prop :=
  List.Forall₂ fun row a => (read row).outcome = .ok a

theorem exists_rowsRead (readable : ∀ row ∈ rows, ∃ a, (read row).outcome = .ok a) :
    ∃ found, RowsRead read rows found := by
  induction rows with
  | nil => exact ⟨[], .nil⟩
  | cons row rest ih =>
    obtain ⟨a, first⟩ := readable row List.mem_cons_self
    obtain ⟨others, later⟩ := ih fun r listed => readable r (List.mem_cons_of_mem row listed)
    exact ⟨a :: others, .cons first later⟩

theorem eq_warning_of_mem_linesAbout {n : Note} (noted : n ∈ linesAbout read rows) :
    ∃ message, n = .logged .warning message := by
  obtain ⟨row, -, listed⟩ := List.mem_flatMap.mp noted
  obtain ⟨message, -, rfl⟩ := List.mem_map.mp listed
  exact ⟨message, rfl⟩

variable (graph : Graph) (count : Nat)

theorem run_ofReadout (r : Readout α) :
    (ofReadout r).run graph .debug count = ⟨r.outcome, r.lines.map .noted⟩ := by
  rw [ofReadout, Readout.lines]
  induction r.warnings with
  | nil => cases r.outcome <;> rfl
  | cons warning rest ih =>
    rw [List.foldr_cons, run, if_pos (Note.isKept_debug _), ih]
    rfl

/-- Where all lines stay, the rows are told one after the other by their warnings. -/
theorem run_readRows (readable : RowsRead read rows found) :
    (readRows read rows).run graph .debug count =
      ⟨.ok found, (linesAbout read rows).map .noted⟩ := by
  induction readable with
  | nil => rfl
  | @cons row a rest others first later ih =>
    have here : (ofReadout (read row)).run graph .debug count =
        ⟨.ok a, (read row).lines.map .noted⟩ := by
      rw [run_ofReadout, first]
    have tail : (readRows read rest >>= fun others => pure (a :: others)).run graph .debug count =
        ⟨.ok (a :: others), (linesAbout read rest).map .noted ++ []⟩ :=
      run_bind_eq graph .debug ih (Run.statements_noted ..) rfl
    have whole : (readRows read (row :: rest)).run graph .debug count =
        ⟨.ok (a :: others), (read row).lines.map .noted ++
          ((linesAbout read rest).map .noted ++ [])⟩ :=
      run_bind_eq graph .debug here (Run.statements_noted ..) tail
    rw [whole, List.append_nil, ← List.map_append]
    rfl

end Rows

namespace Search

section Group

variable {α : Type} {read : Record → Readout α} {rows : List Record} {found : List α}

/-- What the record of a group has: the statement and the warnings about its rows. -/
def groupEntries (s : Statement) (read : Record → Readout α) (rows : List Record) : List Entry :=
  .sent s :: (linesAbout read rows).map .noted

theorem run_group {graph : Graph} {count : Nat} {s : Statement}
    (replied : graph count s = .rows rows) (readable : RowsRead read rows found)
    (result : α → SearchResult) :
    (group s read result).run graph .debug count =
      ⟨.ok (found.map result), groupEntries s read rows⟩ := by
  have asked : (query s).run graph .debug count = ⟨.ok rows, [.sent s]⟩ := by
    change ((ofExcept (graph count s).result).run graph .debug (count + 1)).after (.sent s) = _
    rw [replied]
    rfl
  have told : (readRows read rows >>= fun found => pure (found.map result)).run graph .debug
      (count + 1) = ⟨.ok (found.map result), (linesAbout read rows).map .noted ++ []⟩ :=
    run_bind_eq graph .debug (run_readRows graph (count + 1) readable) (Run.statements_noted ..) rfl
  rw [List.append_nil] at told
  exact run_bind_eq graph .debug asked rfl told

theorem statements_groupEntries {β : Type} (outcome : Except Failure β) (s : Statement) :
    (Run.mk outcome (groupEntries s read rows)).statements = [s] :=
  congrArg (s :: ·) (Run.statements_noted outcome (linesAbout read rows))

theorem notes_groupEntries {β : Type} (outcome : Except Failure β) (s : Statement) :
    (Run.mk outcome (groupEntries s read rows)).notes = linesAbout read rows :=
  Run.notes_noted outcome (linesAbout read rows)

end Group

/-- The rows that the graph finds: for users, for events and for posts. -/
structure Rows where
  users : List Record
  events : List Record
  posts : List Record

/-- What is read off the rows. -/
structure Found where
  users : List UserProfile
  events : List Event
  posts : List Post

/-- All that was found, in the order in which it is answered. -/
def Found.results (found : Found) : List SearchResult :=
  found.users.map .user ++ found.events.map .event ++ found.posts.map .post

/-- The graph answers the three statements with the rows. -/
structure Replies (graph : Graph) (count : Nat) (sought : String) (limit : Value)
    (rows : Rows) : Prop where
  users : graph count (usersStatement sought limit) = .rows rows.users
  events : graph (count + 1) (eventsStatement sought limit) = .rows rows.events
  posts : graph (count + 2) (postsStatement sought limit) = .rows rows.posts

namespace Rows

/-- Every row can be read. -/
structure Readable (rows : Rows) : Prop where
  users : ∀ row ∈ rows.users, ∃ p, (Stored.profile row).outcome = .ok p
  events : ∀ row ∈ rows.events, ∃ e, (Stored.event row).outcome = .ok e
  posts : ∀ row ∈ rows.posts, ∃ p, (Stored.post row).outcome = .ok p

/-- Each row is read as the item in its place. -/
structure ReadAs (rows : Rows) (found : Found) : Prop where
  users : RowsRead Stored.profile rows.users found.users
  events : RowsRead Stored.event rows.events found.events
  posts : RowsRead Stored.post rows.posts found.posts

theorem Readable.exists_readAs {rows : Rows} (readable : rows.Readable) :
    ∃ found, rows.ReadAs found := by
  obtain ⟨users, usersRead⟩ := exists_rowsRead readable.users
  obtain ⟨events, eventsRead⟩ := exists_rowsRead readable.events
  obtain ⟨posts, postsRead⟩ := exists_rowsRead readable.posts
  exact ⟨⟨users, events, posts⟩, usersRead, eventsRead, postsRead⟩

/-- The warnings about the rows. -/
def lines (rows : Rows) : List Note :=
  linesAbout Stored.profile rows.users ++ linesAbout Stored.event rows.events ++
    linesAbout Stored.post rows.posts

/-- The warnings stay in the record unless only errors do. -/
theorem filter_lines (rows : Rows) (threshold : LogLevel) :
    rows.lines.filter (Note.isKept threshold) = if threshold = .error then [] else rows.lines := by
  have warning : ∀ n ∈ rows.lines, ∃ message, n = .logged .warning message := by
    intro n noted
    rw [lines, List.mem_append, List.mem_append] at noted
    rcases noted with (noted | noted) | noted <;> exact eq_warning_of_mem_linesAbout noted
  split
  · next only =>
    refine List.filter_eq_nil_iff.mpr fun n noted => ?_
    obtain ⟨message, rfl⟩ := warning n noted
    rw [only]
    exact Bool.false_ne_true
  · next others =>
    refine List.filter_eq_self.mpr fun n noted => ?_
    obtain ⟨message, rfl⟩ := warning n noted
    cases threshold with
    | error => exact absurd rfl others
    | _ => rfl

end Rows

/-- The line that tells the labels of what was found. Every result has one. -/
def foundLine (sought : String) (results : List SearchResult) : Note :=
  .logged .debug ("Search " ++ quoted sought ++ " matched: "
    ++ ", ".intercalate (results.map SearchResult.label))

variable {graph : Graph} {count : Nat} {sought : String} {limit : Value} {rows : Rows}
  {found : Found}

theorem run_searchFor (replies : Replies graph count sought limit rows)
    (readAs : rows.ReadAs found) :
    (searchFor sought limit).run graph .debug count = ⟨.ok found.results,
      groupEntries (usersStatement sought limit) Stored.profile rows.users ++
        (groupEntries (eventsStatement sought limit) Stored.event rows.events ++
          (groupEntries (postsStatement sought limit) Stored.post rows.posts ++
            [.noted (foundLine sought found.results)]))⟩ := by
  have users := run_group replies.users readAs.users .user
  have events := run_group replies.events readAs.events .event
  have posts := run_group replies.posts readAs.posts .post
  rw [searchFor]
  exact run_bind_eq graph .debug users (statements_groupEntries ..)
    (run_bind_eq graph .debug events (statements_groupEntries ..)
      (run_bind_eq graph .debug posts (statements_groupEntries ..) rfl))

theorem statements_searchFor (replies : Replies graph count sought limit rows)
    (readAs : rows.ReadAs found) (threshold : LogLevel) :
    ((searchFor sought limit).run graph threshold count).statements =
      [usersStatement sought limit, eventsStatement sought limit, postsStatement sought limit] := by
  rw [run_eq_cut, Run.statements_cut, run_searchFor replies readAs, Run.statements_append,
    Run.statements_append, Run.statements_append, statements_groupEntries, statements_groupEntries,
    statements_groupEntries]
  rfl

theorem notes_searchFor (replies : Replies graph count sought limit rows)
    (readAs : rows.ReadAs found) (threshold : LogLevel) :
    ((searchFor sought limit).run graph threshold count).notes =
      (if threshold = .error then [] else rows.lines) ++
        if threshold = .debug then [foundLine sought found.results] else [] := by
  have noted : ((searchFor sought limit).run graph .debug count).notes =
      rows.lines ++ [foundLine sought found.results] := by
    rw [run_searchFor replies readAs, Run.notes_append, Run.notes_append, Run.notes_append,
      notes_groupEntries, notes_groupEntries, notes_groupEntries, Rows.lines, List.append_assoc,
      List.append_assoc]
    rfl
  have line : [foundLine sought found.results].filter (Note.isKept threshold) =
      if threshold = .debug then [foundLine sought found.results] else [] := by
    cases threshold <;> rfl
  rw [run_eq_cut, Run.notes_cut, noted, List.filter_append, rows.filter_lines, line]

/-- A search that was held at every threshold and found something to ask for. It asks three times
with the same parameters and answers with all that was found. The lowest threshold adds the line
about it to the warnings about the rows, which all stay unless only errors do. -/
structure Answered (sought : String) (limit : Value) (rows : Rows) (found : Found)
    (held : LogLevel → Run (List SearchResult)) : Prop where
  statements : ∀ threshold, (held threshold).statements =
    [usersStatement sought limit, eventsStatement sought limit, postsStatement sought limit]
  alike : ∀ threshold, ∀ s ∈ (held threshold).statements,
    s.params = [("prefix", .text sought), ("limit", limit)]
  outcome : ∀ threshold, (held threshold).outcome = .ok found.results
  extra : (held .debug).notes = (held .info).notes ++ [foundLine sought found.results]
  warned : ∀ threshold, threshold ≠ .debug →
    (held threshold).notes = if threshold = .error then [] else rows.lines

theorem searchFor_answered (replies : Replies graph count sought limit rows)
    (readAs : rows.ReadAs found) :
    Answered sought limit rows found fun threshold =>
      (searchFor sought limit).run graph threshold count where
  statements := statements_searchFor replies readAs
  alike threshold s sent := by
    rw [statements_searchFor replies readAs] at sent
    simp only [List.mem_cons, List.not_mem_nil, or_false] at sent
    rcases sent with rfl | rfl | rfl <;> rfl
  outcome threshold := by
    rw [run_eq_cut, run_searchFor replies readAs, Run.cut]
  extra := by
    rw [notes_searchFor replies readAs, notes_searchFor replies readAs]
    simp
  warned threshold higher := by
    rw [notes_searchFor replies readAs, if_neg higher, List.append_nil]

/-- There is nothing to ask for if the text is blank. -/
theorem search_of_blank {text : String} (blank : ∀ c ∈ text.toList, isBlank c = true)
    (limit : Value) : search (.text text) limit = pure [] := by
  have empty : strip text = "" := String.isEmpty_iff.mp ((strip_isEmpty_iff text).mpr blank)
  have found : beginning (.text text) = .ok "" := congrArg (Except.ok ∘ lower) empty
  rw [search, found]
  rfl

/-- A user whose location is left out with a warning, an event, and a post without a title. -/
def jazzRows : Rows where
  users := [[("user_id", .text "u"), ("username", .text "jazzcat"),
    ("location", .point (.int 1) (.int 2) (.int 7203))]]
  events := [[("event_id", .text "e"), ("host_id", .text "u"), ("name", .text "Jazz brunch")]]
  posts := [[("post_id", .text "p"), ("user_id", .text "u"),
    ("genre_filters", .ofTexts ["jazz", "soul"])]]

def jazzGraph : Graph :=
  .ofReplies [.rows jazzRows.users, .rows jazzRows.events, .rows jazzRows.posts]

example : ((search (.text " JAZ ") (.int 5)).run jazzGraph .debug 0).logLines =
    ["WARNING Ignoring non WGS-84 location (srid=7203)",
      "DEBUG Search 'jaz' matched: @jazzcat, Event: Jazz brunch, Post: jazz, soul"] := by
  decide +kernel

end Search

end MusicianGraph
