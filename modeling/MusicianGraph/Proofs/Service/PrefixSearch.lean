import MusicianGraph.Proofs.Graph.Sends
import MusicianGraph.Proofs.Text.Lowercase
import MusicianGraph.Service.Search

/-! # What a search looks for

A search sends one beginning in lowercase, and the graph compares it with the beginnings of names in
lowercase. The two are lowercased apart, so a name that begins with the text can still be missed:
exactly if the text ends in a sigma that was final there and is inside a word in the name. -/

namespace MusicianGraph.Search

open Conversation

def LooksFor (sought : String) (s : Statement) : Prop :=
  s.params.get? "prefix" = some (.text sought)

theorem group_sends {α : Type} {sought : String} {s : Statement} (here : LooksFor sought s)
    (read : Record → Readout α) (result : α → SearchResult) :
    Sends (LooksFor sought) (group s read result) :=
  (Sends.query here).bind fun rows => (Sends.readRows read rows).bind fun _ => trivial

/-- Once it is known what to look for, the three kinds are asked for in turn. -/
def searchFor (sought : String) (limit : Value) : Conversation (List SearchResult) := do
  let users ← group (usersStatement sought limit) Stored.profile .user
  let events ← group (eventsStatement sought limit) Stored.event .event
  let posts ← group (postsStatement sought limit) Stored.post .post
  let results := users ++ events ++ posts
  log .debug ("Search " ++ quoted sought ++ " matched: "
    ++ ", ".intercalate (results.map SearchResult.label))
  pure results

theorem search_eq_searchFor {text : String} (nonblank : strip text ≠ "") (limit : Value) :
    search (.text text) limit = searchFor (lower (strip text)) limit := by
  have something : (lower (strip text)).isEmpty = false :=
    Bool.eq_false_iff.mpr fun empty => nonblank ((lower_isEmpty_iff _).mp empty)
  have found : beginning (.text text) = .ok (lower (strip text)) := rfl
  rw [search, found, searchFor]
  generalize lower (strip text) = sought at something
  change (if sought.isEmpty = true then _ else _) = _
  rw [something, if_neg Bool.false_ne_true]

theorem searchFor_sends (sought : String) (limit : Value) :
    Sends (LooksFor sought) (searchFor sought limit) :=
  have carried : LooksFor sought (usersStatement sought limit) ∧
      LooksFor sought (eventsStatement sought limit) ∧
      LooksFor sought (postsStatement sought limit) := ⟨rfl, rfl, rfl⟩
  (group_sends carried.1 _ _).bind fun _ => (group_sends carried.2.1 _ _).bind fun _ =>
    (group_sends carried.2.2 _ _).bind fun _ => trivial

/-- A search for a text that is not blank asks for users first. All its statements look for the
lowercase of the stripped text. Of a name that begins with the stripped text this is a beginning in
lowercase, unless the stripped text ends in a sigma and a cased letter follows in the name. -/
theorem sent_isPrefix_lower_iff {text name rest : String} (nonblank : strip text ≠ "")
    (begins : name = strip text ++ rest) (limit : Value) (graph : Graph) (threshold : LogLevel)
    (count : Nat) :
    ((search (.text text) limit).run graph threshold count).statements.head? =
        some (usersStatement (lower (strip text)) limit) ∧
      (∀ s ∈ ((search (.text text) limit).run graph threshold count).statements,
        LooksFor (lower (strip text)) s) ∧
      ((lower (strip text)).toList <+: (lower name).toList ↔
        ¬ (EndsInSigma [] (strip text).toList ∧ startsCased rest.toList = true)) := by
  rw [search_eq_searchFor nonblank limit]
  refine ⟨rfl, (searchFor_sends _ limit).forall_statements graph threshold count, ?_⟩
  have whole := lowerAfter_isPrefix_iff [] (strip text).toList rest.toList
  rw [begins, lower, lower, lowerChars, lowerChars, String.toList_ofList, String.toList_ofList,
    String.toList_append]
  exact whole

theorem sent_isPrefix_lower_iff_ascii :
    strip " Ja" ≠ "" ∧ "Jam" = strip " Ja" ++ "m" ∧
      ((search (.text " Ja") (.int 20)).run (.ofReplies []) .info 0).statements.head? =
        some (usersStatement (lower (strip " Ja")) (.int 20)) ∧
      (∀ s ∈ ((search (.text " Ja") (.int 20)).run (.ofReplies []) .info 0).statements,
        LooksFor (lower (strip " Ja")) s) ∧
      ((lower (strip " Ja")).toList <+: (lower "Jam").toList ↔
        ¬ (EndsInSigma [] (strip " Ja").toList ∧ startsCased "m".toList = true)) := by
  have nonblank : strip " Ja" ≠ "" := by decide +kernel
  have begins : "Jam" = strip " Ja" ++ "m" := by decide +kernel
  exact ⟨nonblank, begins, sent_isPrefix_lower_iff nonblank begins (.int 20) (.ofReplies []) .info 0⟩

/-- The name begins with the text, but the small letter of the sigma is a final one in the text
alone, so the search looks for something that the name in lowercase does not begin with. -/
theorem search_misses_inner_sigma :
    strip "ΑΣ" ≠ "" ∧ "ΑΣΑ" = strip "ΑΣ" ++ "Α" ∧
      ((search (.text "ΑΣ") (.int 20)).run (.ofReplies []) .info 0).statements.length = 3 ∧
      (∀ s ∈ ((search (.text "ΑΣ") (.int 20)).run (.ofReplies []) .info 0).statements,
        LooksFor "ας" s) ∧
      lower "ΑΣΑ" = "ασα" ∧ ¬ "ας".toList <+: (lower "ΑΣΑ").toList := by
  have nonblank : strip "ΑΣ" ≠ "" := by decide +kernel
  have sought : lower (strip "ΑΣ") = "ας" := by decide +kernel
  refine ⟨nonblank, by decide +kernel, ?_, ?_, by decide +kernel, by decide +kernel⟩
  · rw [search_eq_searchFor nonblank]
    rfl
  · rw [search_eq_searchFor nonblank, sought]
    exact (searchFor_sends "ας" _).forall_statements _ _ _

end MusicianGraph.Search
