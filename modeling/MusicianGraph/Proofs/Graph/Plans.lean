import MusicianGraph.Proofs.Graph.Runs

/-! # Conversations that follow a plan

A plan lists the statements of a conversation in advance, and where one cannot be made, the failure
to make it. Whatever the graph answers, a conversation that follows a plan sends the statements in
turn and stops at the first one that cannot be made or is answered with a fault. What it sends is
therefore a beginning of the plan, and what it prints is known if it comes to the end. -/

namespace MusicianGraph

/-- Statements to be sent in turn; one that cannot be made is the failure to make it. -/
abbrev Plan := List (Except Failure Statement)

namespace Plan

/-- What is sent to a graph that has already answered `count` statements. -/
def sent (graph : Graph) : Nat → Plan → List Statement
  | _, [] => []
  | _, .error _ :: _ => []
  | count, .ok s :: rest =>
      match graph count s with
      | .rows _ => s :: sent graph (count + 1) rest
      | .fault .. => [s]

/-- How it ends. -/
def outcome (graph : Graph) : Nat → Plan → Except Failure Unit
  | _, [] => .ok ()
  | _, .error e :: _ => .error e
  | count, .ok s :: rest =>
      match graph count s with
      | .rows _ => outcome graph (count + 1) rest
      | .fault kind message => .error (.graph kind message)

/-- Every statement can be made, and the graph answers it with rows. -/
def Succeeds (graph : Graph) (count : Nat) (p : Plan) : Prop :=
  ∀ i item, p[i]? = some item → ∃ s rows, item = .ok s ∧ graph (count + i) s = .rows rows

variable {graph : Graph} {count : Nat} {p : Plan}

section Steps

variable {s : Statement} {found : List Record} (rest : Plan)

theorem sent_cons (answer : graph count s = .rows found) :
    sent graph count (.ok s :: rest) = s :: sent graph (count + 1) rest := by
  rw [sent, answer]

theorem outcome_cons (answer : graph count s = .rows found) :
    outcome graph count (.ok s :: rest) = outcome graph (count + 1) rest := by
  rw [outcome, answer]

/-- It ends well if the first statement is answered with rows and what follows ends well. -/
theorem outcome_cons_ok_iff {item : Except Failure Statement} :
    outcome graph count (item :: rest) = .ok () ↔ ∃ s rows, item = .ok s ∧
      graph count s = .rows rows ∧ outcome graph (count + 1) rest = .ok () := by
  cases item with
  | error e => simp [outcome]
  | ok s => cases answer : graph count s <;> simp [outcome, answer]

theorem succeeds_cons_iff {item : Except Failure Statement} :
    Succeeds graph count (item :: rest) ↔ ∃ s rows, item = .ok s ∧
      graph count s = .rows rows ∧ Succeeds graph (count + 1) rest := by
  constructor
  · intro all
    obtain ⟨s, rows, made, answer⟩ := all 0 item rfl
    refine ⟨s, rows, made, answer, fun i other listed => ?_⟩
    rw [Nat.add_right_comm]
    exact all (i + 1) other listed
  · rintro ⟨s, rows, made, answer, later⟩ i other listed
    cases i with
    | zero =>
      cases listed
      exact ⟨s, rows, made, answer⟩
    | succ i =>
      have here := later i other listed
      rwa [Nat.add_right_comm] at here

end Steps

theorem outcome_eq_ok_iff : outcome graph count p = .ok () ↔ Succeeds graph count p := by
  induction p generalizing count with
  | nil => exact iff_of_true rfl fun i item listed => by cases listed
  | cons item rest ih => rw [outcome_cons_ok_iff, succeeds_cons_iff, ih]

/-- What is sent is a beginning of the plan. -/
theorem map_sent_isPrefix (graph : Graph) (count : Nat) (p : Plan) :
    (sent graph count p).map .ok <+: p := by
  induction p generalizing count with
  | nil => exact List.nil_prefix
  | cons item rest ih =>
    cases item with
    | error e => exact List.nil_prefix
    | ok s =>
      rw [sent]
      cases graph count s with
      | rows found => exact (List.prefix_cons_inj _).mpr (ih (count + 1))
      | fault kind message => exact (List.prefix_cons_inj _).mpr List.nil_prefix

theorem length_sent_le (graph : Graph) (count : Nat) (p : Plan) :
    (sent graph count p).length ≤ p.length := by
  rw [← List.length_map Except.ok]
  exact (map_sent_isPrefix graph count p).length_le

/-- If it ends well, all was sent. -/
theorem map_sent_of_ok (ends : outcome graph count p = .ok ()) :
    (sent graph count p).map .ok = p := by
  induction p generalizing count with
  | nil => rfl
  | cons item rest ih =>
    obtain ⟨s, rows, rfl, answer, later⟩ := (outcome_cons_ok_iff rest).mp ends
    rw [sent_cons rest answer, List.map_cons, ih later]

theorem length_sent_of_ok (ends : outcome graph count p = .ok ()) :
    (sent graph count p).length = p.length := by
  rw [← List.length_map Except.ok, map_sent_of_ok ends]

/-- After a part that ends well the other part follows. -/
theorem append_of_ok (ends : outcome graph count p = .ok ()) (q : Plan) :
    sent graph count (p ++ q) = sent graph count p ++ sent graph (count + p.length) q ∧
      outcome graph count (p ++ q) = outcome graph (count + p.length) q := by
  induction p generalizing count with
  | nil => exact ⟨rfl, rfl⟩
  | cons item rest ih =>
    obtain ⟨s, rows, rfl, answer, later⟩ := (outcome_cons_ok_iff rest).mp ends
    obtain ⟨others, last⟩ := ih later
    have place : count + 1 + rest.length = count + (rest.length + 1) := by omega
    rw [List.cons_append, sent_cons _ answer, sent_cons _ answer, outcome_cons _ answer, others, last,
      List.length_cons, place]
    exact ⟨rfl, rfl⟩

/-- After a part that does not end well nothing follows. -/
theorem append_of_error {e : Failure} (ends : outcome graph count p = .error e) (q : Plan) :
    sent graph count (p ++ q) = sent graph count p ∧ outcome graph count (p ++ q) = .error e := by
  induction p generalizing count with
  | nil => cases ends
  | cons item rest ih =>
    cases item with
    | error other => exact ⟨rfl, ends⟩
    | ok s =>
      cases answer : graph count s with
      | fault kind message =>
        simp only [outcome, answer] at ends
        simp only [List.cons_append, sent, outcome, answer, ends, and_self]
      | rows rows =>
        rw [outcome_cons rest answer] at ends
        obtain ⟨others, last⟩ := ih ends
        rw [List.cons_append, sent_cons _ answer, sent_cons _ answer, outcome_cons _ answer, others,
          last]
        exact ⟨rfl, rfl⟩

/-- For the last statement to be sent it is enough that all before it succeeds. -/
theorem map_sent_concat_iff (s : Statement) :
    (sent graph count (p ++ [.ok s])).map .ok = p ++ [.ok s] ↔ Succeeds graph count p := by
  rw [← outcome_eq_ok_iff]
  constructor
  · intro whole
    cases ends : outcome graph count p with
    | ok _ => rfl
    | error e =>
      have long := congrArg List.length whole
      rw [(append_of_error ends _).1, List.length_map, List.length_append,
        List.length_singleton] at long
      have short := length_sent_le graph count p
      omega
  · intro ends
    have last : sent graph (count + p.length) [.ok s] = [s] := by
      rw [sent]
      split <;> rfl
    rw [(append_of_ok ends _).1, List.map_append, map_sent_of_ok ends, last]
    rfl

end Plan

def Note.text? : Note → Option String
  | printed text => some text
  | _ => none

def Run.printedTexts {α : Type} (r : Run α) : List String := r.notes.filterMap Note.text?

def textLines (text : String) : List String := (text.toList.splitOn '\n').map String.ofList

theorem Run.printedLines_eq {α : Type} (r : Run α) :
    r.printedLines = r.printedTexts.flatMap textLines := by
  rw [printedLines, printedTexts]
  induction r.notes with
  | nil => rfl
  | cons n rest ih =>
    rw [List.flatMap_cons, ih]
    cases n <;> rfl

namespace Conversation

variable {α β : Type} (graph : Graph) (threshold : LogLevel)

/-- What is printed is kept whatever the threshold is. -/
theorem printedTexts_note (n : Note) (next : Conversation α) (count : Nat) :
    ((note n next).run graph threshold count).printedTexts =
      n.text?.toList ++ (next.run graph threshold count).printedTexts := by
  rw [run]
  cases n with
  | logged level message =>
    split <;> rfl
  | _ => rfl

theorem printedTexts_bind {c : Conversation α} {count : Nat} {a : α}
    (result : (c.run graph threshold count).outcome = .ok a) (f : α → Conversation β) :
    ((c >>= f).run graph threshold count).printedTexts =
      (c.run graph threshold count).printedTexts ++ ((f a).run graph threshold
        (count + (c.run graph threshold count).statements.length)).printedTexts := by
  rw [run_bind, Run.andThen, result]
  simp only [Run.printedTexts, Run.notes, List.filterMap_append]

theorem printedTexts_attempt (c : Conversation α) (count : Nat) :
    (c.attempt.run graph threshold count).printedTexts =
      (c.run graph threshold count).printedTexts := by
  rw [run_attempt_eq]
  rfl

/-- The conversation sends what is planned and, if it comes to the end, prints the given texts. -/
structure Carries (c : Conversation Unit) (p : Plan) (texts : List String) : Prop where
  run : ∀ graph threshold count,
    (c.run graph threshold count).statements = p.sent graph count ∧
      (c.run graph threshold count).outcome = p.outcome graph count
  printed : ∀ graph threshold count, p.outcome graph count = .ok () →
    (c.run graph threshold count).printedTexts = texts

namespace Carries

theorem done : Carries (pure ()) [] [] := ⟨fun _ _ _ => ⟨rfl, rfl⟩, fun _ _ _ _ => rfl⟩

theorem failed (e : Failure) (texts : List String) : Carries (.failed e) [.error e] texts :=
  ⟨fun _ _ _ => ⟨rfl, rfl⟩, fun _ _ _ ends => by cases ends⟩

variable {c d : Conversation Unit} {p q : Plan} {texts others : List String}

theorem note (rest : Carries c p texts) (n : Note) :
    Carries (.note n c) p (n.text?.toList ++ texts) := by
  constructor
  case run =>
    intro graph threshold count
    obtain ⟨last, sent⟩ := outcome_note graph threshold n c count
    rw [last, sent]
    exact rest.run graph threshold count
  case printed =>
    intro graph threshold count ends
    rw [printedTexts_note, rest.printed graph threshold count ends]

theorem print (text : String) : Carries (.print text) [] [text] := done.note (.printed text)

/-- A plan is carried out part by part. -/
theorem bind (first : Carries c p texts) (second : Carries d q others) :
    Carries (c >>= fun _ => d) (p ++ q) (texts ++ others) := by
  constructor
  case run =>
    intro graph threshold count
    obtain ⟨sent, result⟩ := first.run graph threshold count
    cases ends : p.outcome graph count with
    | ok _ =>
      obtain ⟨last, all⟩ := run_bind_ok graph threshold (result.trans ends) fun _ => d
      obtain ⟨planned, ended⟩ := Plan.append_of_ok ends q
      obtain ⟨sent', result'⟩ := second.run graph threshold (count + p.length)
      rw [last, all, planned, ended, sent, Plan.length_sent_of_ok ends, sent', result']
      exact ⟨rfl, rfl⟩
    | error e =>
      obtain ⟨last, all⟩ := run_bind_error graph threshold (result.trans ends) fun _ => d
      obtain ⟨planned, ended⟩ := Plan.append_of_error ends q
      rw [last, all, planned, ended, sent]
      exact ⟨rfl, rfl⟩
  case printed =>
    intro graph threshold count ends
    obtain ⟨sent, result⟩ := first.run graph threshold count
    cases whole : p.outcome graph count with
    | error e =>
      rw [(Plan.append_of_error whole q).2] at ends
      cases ends
    | ok _ =>
      rw [(Plan.append_of_ok whole q).2] at ends
      rw [printedTexts_bind graph threshold (result.trans whole), sent,
        Plan.length_sent_of_ok whole, first.printed graph threshold count whole,
        second.printed graph threshold _ ends]

/-- Work that is attempted and then failed with is carried out as before, with a note at its end. -/
theorem attempt (work : Carries c p texts) (n : Note) :
    Carries (c.attempt >>= fun result => .note n (ofExcept result)) p
      (texts ++ n.text?.toList) := by
  constructor
  case run =>
    intro graph threshold count
    obtain ⟨result, sent⟩ := run_attempt graph threshold c count
    obtain ⟨last, all⟩ := run_bind_ok graph threshold result fun result =>
      .note n (ofExcept result)
    obtain ⟨settled, silent⟩ := (Settles.ofExcept (c.run graph threshold count).outcome).note n
      graph threshold (count + (c.attempt.run graph threshold count).statements.length)
    rw [last, all, settled, silent, sent, List.append_nil]
    exact work.run graph threshold count
  case printed =>
    intro graph threshold count ends
    rw [printedTexts_bind graph threshold (run_attempt graph threshold c count).1,
      printedTexts_attempt, work.printed graph threshold count ends, printedTexts_note,
      (work.run graph threshold count).2, ends]
    exact congrArg (texts ++ ·) (List.append_nil _)

end Carries

end Conversation

end MusicianGraph
