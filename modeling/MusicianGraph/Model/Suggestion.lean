import MusicianGraph.Model.Profile

/-! # Scored users

A candidate together with the score it was ranked by, and the list of suggestions for a user. A
score is missing where nothing could be measured. -/

namespace MusicianGraph

structure CandidateScore where
  profile : UserProfile
  score : Option Float

namespace CandidateScore

/-- Read a candidate whose profile stands under the given name. -/
def ofRecord (profileName : String) (r : Record) : Reading CandidateScore :=
  CandidateScore.mk
    <$> Schema.required r profileName UserProfile.read
    <*> Schema.defaulted r "score" none (Schema.optional Schema.float)

/-- A candidate as an object, with the profile under the given name. -/
def dumpAs (profileName : String) (c : CandidateScore) : Value :=
  .object [(profileName, c.profile.dump), ("score", .ofOption .float c.score)]

/-- Ranked candidates as data. -/
def schema : Schema CandidateScore :=
  ⟨"CandidateScore", Schema.fields "CandidateScore" (ofRecord "profile"), dumpAs "profile"⟩

def suggestionSchema : Schema CandidateScore :=
  ⟨"ScoredUser", Schema.fields "ScoredUser" (ofRecord "user"), dumpAs "user"⟩

end CandidateScore

structure Suggestions where
  user : UserProfile
  strategy : String
  suggestions : List CandidateScore

namespace Suggestions

def readList : Value → Reading (List CandidateScore)
  | .list items => .ofItems CandidateScore.suggestionSchema.read 0 items
  | v => .reject .notList v

/-- Read suggestions from the fields of an object. -/
def ofRecord (r : Record) : Reading Suggestions :=
  Suggestions.mk
    <$> Schema.required r "user" UserProfile.read
    <*> Schema.required r "strategy" Schema.text
    <*> Schema.required r "suggestions" readList

def dump (s : Suggestions) : Value :=
  .object [
    ("user", s.user.dump),
    ("strategy", .text s.strategy),
    ("suggestions", .list (s.suggestions.map CandidateScore.suggestionSchema.dump))]

def schema : Schema Suggestions :=
  ⟨"SuggestionResponse", Schema.fields "SuggestionResponse" ofRecord, dump⟩

end Suggestions

end MusicianGraph
