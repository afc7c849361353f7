import MusicianGraph.Graph.Connection
import MusicianGraph.Proofs.Graph.Runs

/-! # The life cycle of the driver

The kept driver is asked for, closed, worked with and shut down, in any order and with refusals at
any time. What one use can do to the pool is said once. From this follows what is true after any
number of uses: every driver that was made is closed, save the kept one, which is the last that was
made, and every session is opened on the driver that is kept and closed again. -/

namespace MusicianGraph

/-- Does the note tell of a driver or a session? -/
def Note.isOfConnection : Note → Bool
  | .logged .. | .printed _ => false
  | _ => true

/-- The conversation leaves drivers and sessions alone. -/
def Conversation.IsWork {α : Type} : Conversation α → Prop
  | .done _ => True
  | .failed _ => True
  | .note n next => n.isOfConnection = false ∧ next.IsWork
  | .send _ next => ∀ reply, (next reply).IsWork

theorem Conversation.IsWork.notes_run {α : Type} {c : Conversation α} (work : c.IsWork)
    (graph : Graph) (threshold : LogLevel) (count : Nat) :
    ∀ n ∈ (c.run graph threshold count).notes, n.isOfConnection = false := by
  induction c generalizing count with
  | done a => exact fun _ absurd => nomatch absurd
  | failed f => exact fun _ absurd => nomatch absurd
  | note n next ih =>
    have rest := ih work.2 count
    rw [run]
    split
    · change ∀ m ∈ n :: (next.run graph threshold count).notes, m.isOfConnection = false
      exact List.forall_mem_cons.mpr ⟨work.1, rest⟩
    · exact rest
  | send s next ih => exact ih _ (work _) (count + 1)

namespace Pool

/-- A use of the pool: the driver is asked for, closed, worked with in a session, or the service
shuts down after what it served ended. Making and closing a driver may be refused. -/
inductive Use where
  | driver (refusal : Option Failure)
  | close (refusal : Option Failure)
  | session (refusal : Option Failure) (body : Conversation Unit) (work : body.IsWork)
  | shutdown (refusal : Option Failure) (served : Except Failure Unit)

/-- Something made of the result of work. -/
def mapResult {α β : Type} (f : α → β) (work : Managed α) : Managed β := fun pool => do
  let (pool, result) ← work pool
  pure (pool, result.map f)

/-- A use as work with the pool. Only the driver has a result. -/
def Use.perform (settings : Settings) : Use → Managed (Option Nat)
  | .driver refusal => mapResult some (Pool.driver settings refusal)
  | .close refusal => mapResult (fun _ => none) (Pool.close refusal)
  | .session refusal body _ => mapResult (fun _ => none) (Pool.session settings refusal body)
  | .shutdown refusal served =>
      mapResult (fun _ => none) (Pool.serve refusal fun pool => pure (pool, served))

/-- A use that took place: what it found, what it noted, how it ended and what it left. -/
structure Turn where
  use : Use
  before : Pool
  notes : List Note
  result : Except Failure (Option Nat)
  after : Pool

/-- Uses one after the other, each with the pool that the one before left. -/
def turns (settings : Settings) (graph : Graph) (threshold : LogLevel) :
    Pool → Nat → List Use → List Turn
  | _, _, [] => []
  | pool, count, use :: rest =>
      let r := (use.perform settings pool).run graph threshold count
      match r.outcome with
      | .ok (after, result) =>
          ⟨use, pool, r.notes, result, after⟩ ::
            turns settings graph threshold after (count + r.statements.length) rest
      | .error _ => []

/-- The pool that the last turn left. -/
def left (first : Pool) : List Turn → Pool
  | [] => first
  | t :: rest => left t.after rest

section Steps

variable (settings : Settings) (refusal : Option Failure) (pool : Pool)

/-- What asking for the driver can do. -/
inductive Obtains : List Note → Except Failure Nat → Pool → Prop where
  | kept {d : Nat} (cached : pool.cached = some d) : Obtains [] (.ok d) pool
  | made (cached : pool.cached = none) (granted : refusal = none) :
      Obtains [.connecting settings.graphUri settings.graphUser settings.graphPassword,
        .connected pool.made] (.ok pool.made) ⟨some pool.made, pool.made + 1⟩
  | refused {f : Failure} (cached : pool.cached = none) (refused : refusal = some f) :
      Obtains [.connecting settings.graphUri settings.graphUser settings.graphPassword] (.error f)
        pool

/-- What closing the driver can do. -/
inductive Closes : List Note → Except Failure Unit → Pool → Prop where
  | idle (cached : pool.cached = none) : Closes [] (.ok ()) pool
  | closed {d : Nat} (cached : pool.cached = some d) (granted : refusal = none) :
      Closes [.disconnected d] (.ok ()) ⟨none, pool.made⟩
  | refused {d : Nat} {f : Failure} (cached : pool.cached = some d) (refused : refusal = some f) :
      Closes [] (.error f) pool

end Steps

inductive Turn.Takes (settings : Settings) : Turn → Prop where
  | driver {refusal : Option Failure} {pool after : Pool} {notes : List Note}
      {result : Except Failure Nat}
      (obtains : Obtains settings refusal pool notes result after) :
      Takes settings ⟨.driver refusal, pool, notes, result.map some, after⟩
  | close {refusal : Option Failure} {pool after : Pool} {notes : List Note}
      {result : Except Failure Unit} (closes : Closes refusal pool notes result after) :
      Takes settings ⟨.close refusal, pool, notes, result.map fun _ => none, after⟩
  | unopened {refusal : Option Failure} {body : Conversation Unit} {work : body.IsWork}
      {pool after : Pool} {notes : List Note} {f : Failure}
      (obtains : Obtains settings refusal pool notes (.error f) after) :
      Takes settings ⟨.session refusal body work, pool, notes, .error f, after⟩
  | session {refusal : Option Failure} {body : Conversation Unit} {work : body.IsWork}
      {pool after : Pool} {notes said : List Note} {d : Nat} {result : Except Failure Unit}
      (obtains : Obtains settings refusal pool notes (.ok d) after)
      (plain : ∀ n ∈ said, n.isOfConnection = false) :
      Takes settings ⟨.session refusal body work, pool,
        notes ++ .sessionOpened d :: (said ++ [.sessionClosed d]), result.map fun _ => none, after⟩
  | shutdown {refusal : Option Failure} {pool after : Pool} {notes : List Note}
      {result : Except Failure Unit} (closes : Closes refusal pool notes result after) :
      Takes settings ⟨.shutdown refusal (.ok ()), pool, notes, result.map fun _ => none, after⟩
  | stopped {refusal : Option Failure} {pool : Pool} {f : Failure} :
      Takes settings ⟨.shutdown refusal (.error f), pool, [], .error f, pool⟩

section Runs

variable (settings : Settings) (graph : Graph) (threshold : LogLevel)

theorem driver_obtains (refusal : Option Failure) (pool : Pool) (count : Nat) :
    ∃ notes result after, (Pool.driver settings refusal pool).run graph threshold count =
        ⟨.ok (after, result), notes.map .noted⟩ ∧
      Obtains settings refusal pool notes result after := by
  obtain ⟨_ | d, made⟩ := pool
  · cases refusal with
    | none => exact ⟨_, _, _, rfl, .made rfl rfl⟩
    | some f => exact ⟨_, _, _, rfl, .refused rfl rfl⟩
  · exact ⟨[], _, _, rfl, .kept rfl⟩

theorem close_closes (refusal : Option Failure) (pool : Pool) (count : Nat) :
    ∃ notes result after, (Pool.close refusal pool).run graph threshold count =
        ⟨.ok (after, result), notes.map .noted⟩ ∧ Closes refusal pool notes result after := by
  obtain ⟨_ | d, made⟩ := pool
  · exact ⟨[], _, _, rfl, .idle rfl⟩
  · cases refusal with
    | none => exact ⟨_, _, _, rfl, .closed rfl rfl⟩
    | some f => exact ⟨[], _, _, rfl, .refused rfl rfl⟩

/-- What is made of a result changes nothing else. -/
private theorem mapResult_run {α β : Type} (work : Managed α) {pool after : Pool} {count : Nat}
    {result : Except Failure α} {entries : List Entry}
    (held : (work pool).run graph threshold count = ⟨.ok (after, result), entries⟩) (f : α → β) :
    (mapResult f work pool).run graph threshold count = ⟨.ok (after, result.map f), entries⟩ := by
  rw [mapResult, Conversation.run_bind, held]
  change Run.mk _ (_ ++ []) = _
  rw [List.append_nil]
  rfl

/-- However the work in a session ends, the session is closed. -/
theorem inSession_run (d : Nat) (body : Conversation Unit) (count : Nat) :
    (inSession d body).run graph threshold count =
      ⟨.ok (body.run graph threshold count).outcome, .noted (.sessionOpened d) ::
        ((body.run graph threshold count).entries ++ [.noted (.sessionClosed d)])⟩ := by
  have held : (body.attempt >>= fun result =>
      Conversation.note (.sessionClosed d) (pure result)).run graph threshold count =
      ⟨.ok (body.run graph threshold count).outcome,
        (body.run graph threshold count).entries ++ [.noted (.sessionClosed d)]⟩ := by
    rw [Conversation.run_bind, Conversation.run_attempt_eq]
    rfl
  change Run.after _ ((body.attempt >>= _).run graph threshold count) = _
  rw [held]
  rfl

/-- A session is opened on the driver that is kept then, and closed after its work, wherever in the
conversation that takes place. If there is no driver, there is no session. -/
theorem session_run (refusal : Option Failure) (body : Conversation Unit) (pool : Pool)
    (count : Nat) :
    ∃ notes driver? after, Obtains settings refusal pool notes driver? after ∧
      match driver? with
      | .error f => (Pool.session settings refusal body pool).run graph threshold count =
          ⟨.ok (after, .error f), notes.map .noted⟩
      | .ok d => ∃ start, (Pool.session settings refusal body pool).run graph threshold count =
          ⟨.ok (after, (body.run graph threshold start).outcome), notes.map .noted ++
            .noted (.sessionOpened d) ::
              ((body.run graph threshold start).entries ++ [.noted (.sessionClosed d)])⟩ := by
  obtain ⟨notes, driver?, after, held, obtains⟩ :=
    driver_obtains settings graph threshold refusal pool count
  refine ⟨notes, driver?, after, obtains, ?_⟩
  rw [Pool.session, Conversation.run_bind, held, Run.andThen]
  cases driver? with
  | error f =>
    change Run.mk _ (_ ++ []) = _
    rw [List.append_nil]
    rfl
  | ok d =>
    refine ⟨count + (Run.mk (.ok ()) (notes.map .noted)).statements.length, ?_⟩
    dsimp only
    rw [Conversation.run_bind, inSession_run, Run.andThen]
    change Run.mk _ (_ ++ (_ ++ [])) = _
    rw [List.append_nil]
    rfl

private theorem notes_session {α β : Type} (outcome : Except Failure α) (notes : List Note)
    (first last : Note) (r : Run β) :
    (Run.mk outcome (notes.map .noted ++ .noted first :: (r.entries ++ [.noted last]))).notes =
      notes ++ first :: (r.notes ++ [last]) := by
  rw [Run.notes_append, Run.notes_noted]
  exact congrArg (fun rest => notes ++ first :: rest) (Run.notes_append outcome r.entries _)

/-- A use always comes to an end, and it does what it can do. -/
theorem perform_takes (use : Use) (pool : Pool) (count : Nat) :
    ∃ after result entries,
      (use.perform settings pool).run graph threshold count = ⟨.ok (after, result), entries⟩ ∧
      Turn.Takes settings
        ⟨use, pool, (Run.mk (.ok (after, result)) entries).notes, result, after⟩ := by
  cases use with
  | driver refusal =>
    obtain ⟨notes, result, after, held, obtains⟩ :=
      driver_obtains settings graph threshold refusal pool count
    refine ⟨_, _, _, mapResult_run graph threshold _ held some, ?_⟩
    rw [Run.notes_noted]
    exact .driver obtains
  | close refusal =>
    obtain ⟨notes, result, after, held, closes⟩ :=
      close_closes graph threshold refusal pool count
    refine ⟨_, _, _, mapResult_run graph threshold _ held fun _ => none, ?_⟩
    rw [Run.notes_noted]
    exact .close closes
  | session refusal body work =>
    obtain ⟨notes, driver?, after, obtains, held⟩ :=
      session_run settings graph threshold refusal body pool count
    cases driver? with
    | error f =>
      refine ⟨_, _, _, mapResult_run graph threshold _ held fun _ => none, ?_⟩
      rw [Run.notes_noted]
      exact .unopened obtains
    | ok d =>
      obtain ⟨start, held⟩ := held
      refine ⟨_, _, _, mapResult_run graph threshold _ held fun _ => none, ?_⟩
      rw [notes_session]
      exact .session obtains (work.notes_run graph threshold start)
  | shutdown refusal served =>
    cases served with
    | error f =>
      refine ⟨pool, .error f, [], ?_, ?_⟩
      · exact mapResult_run graph threshold
          (Pool.serve refusal fun pool => pure (pool, .error f)) rfl fun _ => none
      · exact .stopped
    | ok _ =>
      obtain ⟨notes, result, after, held, closes⟩ :=
        close_closes graph threshold refusal pool count
      refine ⟨_, _, _, mapResult_run graph threshold
        (Pool.serve refusal fun pool => pure (pool, .ok ())) held fun _ => none, ?_⟩
      rw [Run.notes_noted]
      exact .shutdown closes

end Runs

/-- A pool, turns that lead on from it one after the other, and the pool they leave. -/
inductive History (settings : Settings) : Pool → List Turn → Pool → Prop where
  | start (pool : Pool) : History settings pool [] pool
  | turn {t : Turn} {rest : List Turn} {last : Pool} (takes : t.Takes settings)
      (tail : History settings t.after rest last) : History settings t.before (t :: rest) last

/-- All uses take place, each as a turn. -/
theorem turns_history (settings : Settings) (graph : Graph) (threshold : LogLevel) (pool : Pool)
    (count : Nat) (uses : List Use) :
    (turns settings graph threshold pool count uses).map Turn.use = uses ∧
      History settings pool (turns settings graph threshold pool count uses)
        (left pool (turns settings graph threshold pool count uses)) := by
  induction uses generalizing pool count with
  | nil => exact ⟨rfl, .start pool⟩
  | cons use rest ih =>
    obtain ⟨after, result, entries, held, takes⟩ :=
      perform_takes settings graph threshold use pool count
    obtain ⟨all, tail⟩ := ih after
      (count + (Run.mk (.ok (after, result)) entries).statements.length)
    simp only [turns, held]
    exact ⟨congrArg (use :: ·) all, .turn takes tail⟩

/-- The driver that a note says was made. -/
def madeIn : Note → Option Nat
  | .connected d => some d
  | _ => none

/-- The driver that a note says was closed. -/
def closedIn : Note → Option Nat
  | .disconnected d => some d
  | _ => none

def isOfSession : Note → Bool
  | .sessionOpened _ | .sessionClosed _ => true
  | _ => false

namespace Turn

variable (t : Turn)

def made : List Nat := t.notes.filterMap madeIn

def closed : List Nat := t.notes.filterMap closedIn

def sessions : List Note := t.notes.filter isOfSession

end Turn

/-- The books of a use: what was kept and what was made is what was closed and what is kept then,
and drivers are numbered as they are made. -/
structure Balances (before : Pool) (notes : List Note) (after : Pool) : Prop where
  kept : before.cached.toList ++ notes.filterMap madeIn =
    notes.filterMap closedIn ++ after.cached.toList
  numbered : notes.filterMap madeIn =
    List.range' before.made (notes.filterMap madeIn).length
  counted : after.made = before.made + (notes.filterMap madeIn).length

theorem Balances.same (pool : Pool) : Balances pool [] pool :=
  ⟨List.append_nil _, rfl, rfl⟩

section Books

variable {settings : Settings} {refusal : Option Failure} {pool after : Pool} {notes : List Note}

theorem Obtains.balances {result : Except Failure Nat}
    (obtains : Obtains settings refusal pool notes result after) : Balances pool notes after := by
  cases obtains with
  | kept cached => exact .same pool
  | made cached granted => exact ⟨by rw [cached]; rfl, rfl, rfl⟩
  | refused cached refused => exact ⟨List.append_nil _, rfl, rfl⟩

theorem Closes.balances {result : Except Failure Unit}
    (closes : Closes refusal pool notes result after) : Balances pool notes after := by
  cases closes with
  | idle cached => exact .same pool
  | closed cached granted => exact ⟨by rw [cached]; rfl, rfl, rfl⟩
  | refused cached refused => exact .same pool

/-- Neither making nor closing a driver has to do with sessions. -/
theorem Obtains.sessions {result : Except Failure Nat}
    (obtains : Obtains settings refusal pool notes result after) :
    notes.filter isOfSession = [] := by
  cases obtains <;> rfl

theorem Closes.sessions {result : Except Failure Unit}
    (closes : Closes refusal pool notes result after) : notes.filter isOfSession = [] := by
  cases closes <;> rfl

/-- What is obtained is kept. -/
theorem Obtains.cached {d : Nat} (obtains : Obtains settings refusal pool notes (.ok d) after) :
    after.cached = some d := by
  cases obtains with
  | kept cached => exact cached
  | made cached granted => rfl

theorem Obtains.of_granted {result : Except Failure Nat}
    (obtains : Obtains settings none pool notes result after) :
    ∃ d, result = .ok d ∧ after.cached = some d := by
  cases obtains with
  | kept cached => exact ⟨_, rfl, cached⟩
  | made none granted => exact ⟨_, rfl, rfl⟩
  | refused none refused => cases refused

theorem Obtains.of_refused {result : Except Failure Nat} {f : Failure}
    (obtains : Obtains settings (some f) pool notes result after) (empty : pool.cached = none) :
    result = .error f ∧ after = pool ∧ notes.filterMap madeIn = [] := by
  cases obtains with
  | kept cached => cases cached.symm.trans empty
  | made none granted => cases granted
  | refused none refused =>
    cases refused
    exact ⟨rfl, rfl, rfl⟩

theorem Closes.of_empty {result : Except Failure Unit}
    (closes : Closes refusal pool notes result after) (empty : pool.cached = none) :
    notes = [] ∧ result = .ok () ∧ after = pool := by
  cases closes with
  | idle none => exact ⟨rfl, rfl, rfl⟩
  | closed cached _ | refused cached _ => cases cached.symm.trans empty

theorem Closes.of_cached {result : Except Failure Unit} {d : Nat}
    (closes : Closes refusal pool notes result after) (cached : pool.cached = some d) :
    match refusal with
    | some f => result = .error f ∧ after = pool ∧ notes = []
    | none => result = .ok () ∧ after = ⟨none, pool.made⟩ ∧ notes = [.disconnected d] := by
  cases closes with
  | idle none => cases none.symm.trans cached
  | closed same granted =>
    cases granted
    cases same.symm.trans cached
    exact ⟨rfl, rfl, rfl⟩
  | refused same refused =>
    cases refused
    exact ⟨rfl, rfl, rfl⟩

end Books

/-- Work notes nothing of drivers and sessions. -/
theorem plain_notes {said : List Note} (plain : ∀ n ∈ said, n.isOfConnection = false) :
    said.filterMap madeIn = [] ∧ said.filterMap closedIn = [] ∧ said.filter isOfSession = [] := by
  have apart : ∀ n ∈ said, madeIn n = none ∧ closedIn n = none ∧ ¬ isOfSession n = true := by
    intro n listed
    have note := plain n listed
    cases n <;> first | exact ⟨rfl, rfl, Bool.false_ne_true⟩ | cases note
  exact ⟨List.filterMap_eq_nil_iff.mpr fun n listed => (apart n listed).1,
    List.filterMap_eq_nil_iff.mpr fun n listed => (apart n listed).2.1,
    List.filter_eq_nil_iff.mpr fun n listed => (apart n listed).2.2⟩

/-- A session with work in it adds its beginning and its end. -/
theorem session_notes {said : List Note} (plain : ∀ n ∈ said, n.isOfConnection = false)
    (notes : List Note) (d : Nat) :
    (notes ++ Note.sessionOpened d :: (said ++ [Note.sessionClosed d])).filterMap madeIn =
        notes.filterMap madeIn ∧
      (notes ++ Note.sessionOpened d :: (said ++ [Note.sessionClosed d])).filterMap closedIn =
        notes.filterMap closedIn ∧
      (notes ++ Note.sessionOpened d :: (said ++ [Note.sessionClosed d])).filter isOfSession =
        notes.filter isOfSession ++ [Note.sessionOpened d, Note.sessionClosed d] := by
  obtain ⟨made, closed, sessions⟩ := plain_notes plain
  refine ⟨?_, ?_, ?_⟩
  · rw [List.filterMap_append, List.filterMap_cons_none rfl, List.filterMap_append, made]
    exact List.append_nil _
  · rw [List.filterMap_append, List.filterMap_cons_none rfl, List.filterMap_append, closed]
    exact List.append_nil _
  · rw [List.filter_append, List.filter_cons_of_pos rfl, List.filter_append, sessions]
    rfl

/-- A turn keeps its books, and a session is opened on the driver that is kept and closed again. -/
theorem Turn.Takes.balances {settings : Settings} {t : Turn} (takes : t.Takes settings) :
    Balances t.before t.notes t.after ∧
      (t.sessions = [] ∨
        ∃ d, t.after.cached = some d ∧ t.sessions = [.sessionOpened d, .sessionClosed d]) := by
  cases takes with
  | driver obtains => exact ⟨obtains.balances, .inl obtains.sessions⟩
  | close closes => exact ⟨closes.balances, .inl closes.sessions⟩
  | unopened obtains => exact ⟨obtains.balances, .inl obtains.sessions⟩
  | @session _ _ _ _ _ notes said d _ obtains plain =>
    obtain ⟨making, closing, opening⟩ := session_notes plain notes d
    have books := obtains.balances
    refine ⟨⟨?_, ?_, ?_⟩, .inr ⟨d, obtains.cached, ?_⟩⟩
    · rw [making, closing]
      exact books.kept
    · rw [making]
      exact books.numbered
    · rw [making]
      exact books.counted
    · rw [Turn.sessions, opening, obtains.sessions, List.nil_append]
  | shutdown closes => exact ⟨closes.balances, .inl closes.sessions⟩
  | stopped => exact ⟨.same _, .inl rfl⟩

namespace History

variable {settings : Settings} {first last : Pool} {ts more : List Turn}

/-- The books of all turns together. -/
theorem balances (history : History settings first ts last) :
    first.cached.toList ++ ts.flatMap Turn.made = ts.flatMap Turn.closed ++ last.cached.toList ∧
      ts.flatMap Turn.made = List.range' first.made (ts.flatMap Turn.made).length := by
  induction history with
  | start pool => exact ⟨List.append_nil _, rfl⟩
  | @turn t rest last takes tail ih =>
    obtain ⟨kept, numbered⟩ := ih
    have books := takes.balances.1
    rw [List.flatMap_cons, List.flatMap_cons]
    constructor
    · rw [← List.append_assoc]
      change (_ ++ t.notes.filterMap madeIn) ++ _ = (t.notes.filterMap closedIn ++ _) ++ _
      rw [books.kept, List.append_assoc, kept, List.append_assoc]
    · change t.notes.filterMap madeIn ++ _ = List.range' _ (t.notes.filterMap madeIn ++ _).length
      rw [List.length_append, ← List.range'_append_1, ← books.counted, ← numbered,
        ← books.numbered]

/-- Turns can be cut in two anywhere. -/
theorem of_append (history : History settings first (ts ++ more) last) :
    ∃ between, History settings first ts between ∧ History settings between more last := by
  induction ts generalizing first with
  | nil => exact ⟨first, .start first, history⟩
  | cons t rest ih =>
    cases history with
    | turn takes tail =>
      obtain ⟨between, left, right⟩ := ih tail
      exact ⟨between, .turn takes left, right⟩

/-- Every turn does what it can do. -/
theorem takes (history : History settings first ts last) : ∀ t ∈ ts, t.Takes settings := by
  induction history with
  | start pool => exact fun _ absurd => nomatch absurd
  | turn takes tail ih => exact List.forall_mem_cons.mpr ⟨takes, ih⟩

/-- A driver that is not closed is still kept. -/
theorem cached_of_closed_eq_nil (history : History settings first ts last) {d : Nat}
    (cached : first.cached = some d) (open_ : ∀ t ∈ ts, t.closed = []) :
    last.cached = some d := by
  obtain ⟨kept, -⟩ := history.balances
  have none : ts.flatMap Turn.closed = [] := List.flatMap_eq_nil_iff.mpr open_
  rw [cached, none] at kept
  cases later : last.cached with
  | none => rw [later] at kept; cases kept
  | some e =>
    rw [later] at kept
    exact congrArg some (List.cons.inj kept).1.symm

end History

/-- The refusal that a use may meet when it asks for the driver. -/
def Use.making? : Use → Option (Option Failure)
  | .driver refusal | .session refusal _ _ => some refusal
  | .close _ | .shutdown .. => none

/-- The refusal that a use may meet when it closes the driver. -/
def Use.closing? : Use → Option (Option Failure)
  | .close refusal | .shutdown refusal (.ok _) => some refusal
  | .driver _ | .session .. | .shutdown _ (.error _) => none

/-- What is true of a life of the pool: of the turns it took and of the pool that is left. -/
structure LifeCycle (ts : List Turn) (last : Pool) : Prop where
  /-- No two drivers have the same number. -/
  once : (ts.flatMap Turn.made).Nodup
  /-- All drivers are closed, save the kept one. -/
  balance : (ts.flatMap Turn.made).length =
    (ts.flatMap Turn.closed).length + if last.cached.isSome then 1 else 0
  newest : ∀ d, last.cached = some d →
    (ts.flatMap Turn.made).getLast? = some d ∧ d ∉ ts.flatMap Turn.closed
  /-- A driver that can be made is given and kept. -/
  given : ∀ t ∈ ts, t.use = .driver none → ∃ d, t.result = .ok (some d) ∧ t.after.cached = some d
  /-- Who asks for the driver gets the one that was given before, unless it was closed. -/
  reused : ∀ before t between u after, ts = before ++ t :: between ++ u :: after →
    ∀ refusal d, t.use = .driver refusal → t.result = .ok (some d) →
      (∀ v ∈ between, v.closed = []) →
      ∀ refusal', u.use = .driver refusal' → u.result = .ok (some d)
  /-- Closing when nothing is kept does nothing. -/
  idle : ∀ t ∈ ts, ∀ refusal, t.use.closing? = some refusal → t.before.cached = none →
    t.notes = [] ∧ t.result = .ok none ∧ t.after = t.before
  /-- A driver that cannot be made leaves nothing kept, and no session is opened. -/
  unmade : ∀ t ∈ ts, ∀ f, t.use.making? = some (some f) → t.before.cached = none →
    t.result = .error f ∧ t.after.cached = none ∧ t.made = [] ∧ t.sessions = []
  /-- A driver that cannot be closed is still kept, -/
  unclosed : ∀ t ∈ ts, ∀ f d, t.use.closing? = some (some f) → t.before.cached = some d →
    t.result = .error f ∧ t.after.cached = some d ∧ t.closed = []
  /-- so that it can be closed later. -/
  closed : ∀ t ∈ ts, ∀ d, t.use.closing? = some none → t.before.cached = some d →
    t.result = .ok none ∧ t.after.cached = none ∧ t.closed = [d]
  /-- A session is opened on the kept driver and closed once, -/
  sessions : ∀ t ∈ ts, t.sessions = [] ∨
    ∃ d, t.after.cached = some d ∧ t.sessions = [.sessionOpened d, .sessionClosed d]
  /-- and it is opened if a driver can be made. -/
  opened : ∀ t ∈ ts, ∀ body work, t.use = .session none body work →
    ∃ d, t.after.cached = some d ∧ t.sessions = [.sessionOpened d, .sessionClosed d]

section Turns

variable {settings : Settings} {t : Turn}

/-- After a driver was given it is kept. -/
theorem Turn.Takes.cached {d : Nat} {refusal : Option Failure} (takes : t.Takes settings)
    (use : t.use = .driver refusal) (result : t.result = .ok (some d)) :
    t.after.cached = some d := by
  cases takes with
  | @driver _ _ _ _ given obtains =>
    cases given with
    | error f => cases result
    | ok e =>
      cases result
      exact obtains.cached
  | _ => cases use

/-- The kept driver is given. -/
theorem Turn.Takes.given {d : Nat} {refusal : Option Failure} (takes : t.Takes settings)
    (use : t.use = .driver refusal) (cached : t.before.cached = some d) :
    t.result = .ok (some d) := by
  cases takes with
  | driver obtains =>
    cases obtains with
    | kept same =>
      cases same.symm.trans cached
      rfl
    | made none | refused none => cases none.symm.trans cached
  | _ => cases use

theorem Turn.Takes.closes {refusal : Option Failure} (takes : t.Takes settings)
    (use : t.use.closing? = some refusal) :
    ∃ result, Closes refusal t.before t.notes result t.after ∧
      t.result = result.map fun _ => none := by
  cases takes with
  | close closes | shutdown closes =>
    cases use
    exact ⟨_, closes, rfl⟩
  | _ => cases use

theorem Turn.Takes.granted (takes : t.Takes settings) (use : t.use = .driver none) :
    ∃ d, t.result = .ok (some d) ∧ t.after.cached = some d := by
  cases takes with
  | driver obtains =>
    cases use
    obtain ⟨d, rfl, cached⟩ := obtains.of_granted
    exact ⟨d, rfl, cached⟩
  | _ => cases use

theorem Turn.Takes.opened {body : Conversation Unit} {work : body.IsWork} (takes : t.Takes settings)
    (use : t.use = .session none body work) :
    ∃ d, t.after.cached = some d ∧ t.sessions = [.sessionOpened d, .sessionClosed d] := by
  cases takes with
  | unopened obtains =>
    cases use
    obtain ⟨d, given, -⟩ := obtains.of_granted
    cases given
  | @session _ _ _ _ _ notes _ d _ obtains plain =>
    refine ⟨d, obtains.cached, ?_⟩
    rw [Turn.sessions, (session_notes plain notes d).2.2, obtains.sessions, List.nil_append]
  | _ => cases use

/-- If the driver is refused, nothing is kept and nothing is opened. -/
theorem Turn.Takes.unmade {f : Failure} (takes : t.Takes settings)
    (use : t.use.making? = some (some f)) (empty : t.before.cached = none) :
    t.result = .error f ∧ t.after = t.before ∧ t.made = [] ∧ t.sessions = [] := by
  cases takes with
  | driver obtains =>
    cases use
    obtain ⟨rfl, rfl, made⟩ := obtains.of_refused empty
    exact ⟨rfl, rfl, made, obtains.sessions⟩
  | unopened obtains =>
    cases use
    obtain ⟨same, rfl, made⟩ := obtains.of_refused empty
    cases same
    exact ⟨rfl, rfl, made, obtains.sessions⟩
  | session obtains plain =>
    cases use
    cases (obtains.of_refused empty).1
  | _ => cases use

end Turns

/-- The pool keeps at most one driver, whatever is done with it in whatever order: all uses take
place, and the drivers that were made are closed save the kept one. -/
theorem turns_lifeCycle (settings : Settings) (graph : Graph) (threshold : LogLevel)
    (uses : List Use) :
    (turns settings graph threshold initial 0 uses).map Turn.use = uses ∧
      LifeCycle (turns settings graph threshold initial 0 uses)
        (left initial (turns settings graph threshold initial 0 uses)) := by
  obtain ⟨all, history⟩ := turns_history settings graph threshold initial 0 uses
  refine ⟨all, ?_⟩
  generalize turns settings graph threshold initial 0 uses = ts at history
  generalize left initial ts = last at history
  obtain ⟨kept, numbered⟩ := history.balances
  have once : (ts.flatMap Turn.made).Nodup := by
    rw [numbered]
    exact List.nodup_range'
  change ts.flatMap Turn.made = _ at kept
  constructor
  case once => exact once
  case balance =>
    rw [kept, List.length_append]
    cases last.cached <;> rfl
  case newest =>
    intro d cached
    rw [kept, cached] at once ⊢
    refine ⟨List.getLast?_concat, fun listed => ?_⟩
    exact (List.nodup_append.mp once).2.2 d listed d List.mem_cons_self rfl
  case reused =>
    rintro before t between u after rfl refusal d use result open_ refusal' use'
    obtain ⟨_, earlier, later⟩ := history.of_append
    obtain ⟨_, -, here⟩ := earlier.of_append
    cases here with
    | turn takes meanwhile =>
      have cached := meanwhile.cached_of_closed_eq_nil (takes.cached use result) open_
      cases later with
      | turn takes' _ => exact takes'.given use' cached
  case idle =>
    intro t listed refusal use empty
    obtain ⟨result, closes, same⟩ := (history.takes t listed).closes use
    obtain ⟨silent, rfl, unchanged⟩ := closes.of_empty empty
    exact ⟨silent, same, unchanged⟩
  case unmade =>
    intro t listed f use empty
    obtain ⟨result, same, made, sessions⟩ := (history.takes t listed).unmade use empty
    exact ⟨result, same ▸ empty, made, sessions⟩
  case unclosed =>
    intro t listed f d use cached
    obtain ⟨result, closes, same⟩ := (history.takes t listed).closes use
    obtain ⟨rfl, unchanged, silent⟩ := closes.of_cached cached
    exact ⟨same, unchanged ▸ cached, congrArg (List.filterMap closedIn) silent⟩
  case closed =>
    intro t listed d use cached
    obtain ⟨result, closes, same⟩ := (history.takes t listed).closes use
    obtain ⟨rfl, emptied, said⟩ := closes.of_cached cached
    exact ⟨same, congrArg Pool.cached emptied, congrArg (List.filterMap closedIn) said⟩
  case given => exact fun t listed use => (history.takes t listed).granted use
  case sessions => exact fun t listed => (history.takes t listed).balances.2
  case opened => exact fun t listed body work use => (history.takes t listed).opened use

/-- A session is closed though its work fails, and a driver that was closed is not given again. -/
example (settings : Settings) (graph : Graph) (threshold : LogLevel) (f : Failure) :
    (turns settings graph threshold initial 0
      [.session none (.failed f) trivial, .close none, .driver none]).map
        (fun t => (t.result, t.sessions)) =
      [(.error f, [.sessionOpened 0, .sessionClosed 0]), (.ok none, []), (.ok (some 1), [])] := rfl

end Pool

end MusicianGraph
