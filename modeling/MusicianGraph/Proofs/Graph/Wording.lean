import MusicianGraph.Graph.Projection
import MusicianGraph.Graph.Statement
import Mathlib.Data.List.Infix

/-! # How statements are worded

The text of a statement is a row of clauses. The last one says which columns a reply has, and it is
by the names of these columns that rows are read. -/

namespace MusicianGraph

namespace Projection

/-- Columns as a text lists them: each expression with the name that it is returned by. -/
def listed (columns : List (String × String)) : String :=
  ", ".intercalate (columns.map fun column => column.1 ++ " AS " ++ column.2)

def userColumns : List (String × String) := [
  ("u.id", "user_id"), ("u.username", "username"), ("u.name", "name"), ("u.bio", "bio"),
  ("u.avatar_url", "avatar_url"), ("u.genres", "genres"), ("u.instruments", "instruments"),
  ("u.location", "location"), ("u.hour_rate", "hour_rate"), ("u.solo_artist", "solo_artist"),
  ("COUNT \x7b (u)-[:POSTED]->(:Post) \x7d", "post_count"),
  ("COUNT \x7b (:User)-[:FOLLOWS]->(u) \x7d", "followers_count"),
  ("COUNT \x7b (u)-[:FOLLOWS]->(:User) \x7d", "following_count")]

def postColumns : List (String × String) := [
  ("p.id", "post_id"), ("u.id", "user_id"), ("p.title", "title"), ("p.caption", "caption"),
  ("p.media_url", "media_url"), ("p.media_type", "media_type"),
  ("p.genre_filters", "genre_filters"), ("p.is_notice", "is_notice"),
  ("p.created_at", "created_at"), ("p.location", "location"),
  ("COUNT \x7b (:User)-[:LIKED]->(p) \x7d", "likes_count")]

def eventColumns : List (String × String) := [
  ("e.id", "event_id"), ("h.id", "host_id"), ("e.name", "name"),
  ("e.description", "description"), ("e.image_url", "image_url"), ("e.date", "date"),
  ("e.location", "location")]

def messageColumns : List (String × String) := [
  ("m.id", "message_id"), ("s.id", "sender_id"), ("r.id", "receiver_id"), ("m.text", "text"),
  ("m.created_at", "created_at")]

theorem userFields_eq : userFields "u" = listed userColumns :=
  congrArg ", ".intercalate (by decide +kernel)

theorem postFields_eq : postFields = listed postColumns :=
  congrArg ", ".intercalate (by decide +kernel)

theorem eventFields_eq : eventFields = listed eventColumns :=
  congrArg ", ".intercalate (by decide +kernel)

theorem messageFields_eq : messageFields = listed messageColumns :=
  congrArg ", ".intercalate (by decide +kernel)

/-- Text that is put behind clauses is one clause more. -/
theorem clauses_concat {parts : List String} (filled : parts ≠ []) (last : String) :
    clauses (parts ++ [last]) = clauses parts ++ " " ++ last := by
  rw [clauses, String.intercalate_append_of_ne_nil filled (List.cons_ne_nil _ _),
    String.intercalate_singleton, clauses]

end Projection

/-- What is put together has each of its parts in it. -/
theorem isInfix_intercalate {α : Type} {separator part : List α} {parts : List (List α)}
    (among : part ∈ parts) : part <:+: separator.intercalate parts := by
  induction parts with
  | nil => cases among
  | cons first rest ih =>
    cases rest with
    | nil =>
      rw [List.mem_singleton.mp among, List.intercalate_singleton]
    | cons second rest =>
      rw [List.intercalate_cons_cons]
      rcases List.mem_cons.mp among with rfl | later
      · rw [List.append_assoc]
        exact (List.prefix_append _ _).isInfix
      · exact (ih later).trans (List.suffix_append _ _).isInfix

theorem isInfix_toList_append {part first : String} (inside : part.toList <:+: first.toList)
    (rest : String) : part.toList <:+: (first ++ rest).toList := by
  rw [String.toList_append]
  exact inside.trans (List.prefix_append _ _).isInfix

namespace Statement

open Projection

/-- A part stands somewhere in the text. -/
def Mentions (s : Statement) (part : String) : Prop := part.toList <:+: s.text.toList

theorem Mentions.of_isInfix {s : Statement} {part whole : String} (mentions : s.Mentions whole)
    (inside : part.toList <:+: whole.toList) : s.Mentions part := inside.trans mentions

theorem mentions_of_mem_clauses {s : Statement} {parts : List String} {part : String}
    (text : s.text = clauses parts) (among : part ∈ parts) : s.Mentions part := by
  rw [Mentions, text, clauses, String.toList_intercalate]
  exact isInfix_intercalate (List.mem_map_of_mem among)

/-- The text ends by returning these columns. -/
def Returns (s : Statement) (columns : List (String × String)) : Prop :=
  ∃ before, s.text = before ++ "RETURN " ++ listed columns

/-- The columns stand in the last clause, behind one that ends by returning them. -/
theorem returns_of_clauses {params : Record} {parts : List String} {before clause fields : String}
    {columns : List (String × String)} (n : Nat) (last : parts.drop n = [clause, fields])
    (filled : parts.take n ≠ []) (returning : clause = before ++ "RETURN")
    (same : fields = listed columns) : Returns ⟨clauses parts, params⟩ columns := by
  subst same returning
  have split : parts = parts.take n ++ [before ++ "RETURN", listed columns] := by
    rw [← last, List.take_append_drop]
  have behind : "RETURN" ++ " " = "RETURN " := rfl
  refine ⟨clauses (parts.take n) ++ " " ++ before, ?_⟩
  calc
    clauses parts = clauses (parts.take n ++ [before ++ "RETURN", listed columns]) :=
      congrArg clauses split
    _ = clauses (parts.take n) ++ " " ++ (before ++ "RETURN" ++ " " ++ listed columns) := by
      rw [clauses, String.intercalate_append_of_ne_nil filled (List.cons_ne_nil _ _),
        String.intercalate_cons_cons, String.intercalate_singleton, clauses]
    _ = clauses (parts.take n) ++ " " ++ before ++ "RETURN " ++ listed columns := by
      rw [← behind]
      simp only [String.append_assoc]

end Statement

end MusicianGraph
