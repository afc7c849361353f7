import MusicianGraph.Schema.Scalar
import MusicianGraph.Value.Count
import MusicianGraph.Schema.Validate

/-! # Settings

Where the graph is, how many users are fetched and suggested, and how much is logged. Settings are
read from the environment; what is not set there has a default. -/

namespace MusicianGraph

structure Settings where
  graphUri : String := "bolt://localhost:7687"
  graphUser : String := "neo4j"
  graphPassword : String := "password"
  /-- How many candidates are fetched for a ranking. -/
  candidateLimit : Int := 35
  /-- How many candidates are fetched for the ranking at the end of onboarding. -/
  onboardingLimit : Int := 10
  /-- How many users are suggested. -/
  suggestionCount : Int := 10
  logLevel : String := "INFO"
deriving DecidableEq, Repr

namespace Settings

/-- The settings of an empty environment. -/
def standard : Settings where

/-- A whole number from the environment. -/
def readInt (lookup : String → Option String) (name : String) (standard : Int) :
    Except Failure Int :=
  match lookup name with
  | some s => intOfText s
  | none => .ok standard

/-- Read the settings from the environment; the first number that cannot be read is the failure. -/
def ofEnvironment (lookup : String → Option String) : Except Failure Settings := do
  let readText := fun name standard => (lookup name).getD standard
  let candidateLimit ← readInt lookup "CANDIDATE_FETCH_LIMIT" standard.candidateLimit
  let onboardingLimit ← readInt lookup "ONBOARDING_FETCH_LIMIT" standard.onboardingLimit
  let suggestionCount ← readInt lookup "SUGGESTION_COUNT" standard.suggestionCount
  .ok {
    graphUri := readText "NEO4J_URI" standard.graphUri
    graphUser := readText "NEO4J_USER" standard.graphUser
    graphPassword := readText "NEO4J_PASSWORD" standard.graphPassword
    candidateLimit, onboardingLimit, suggestionCount
    logLevel := readText "LOG_LEVEL" standard.logLevel }

open Schema in
/-- Read settings from the fields of an object. -/
def ofRecord (r : Record) : Reading Settings :=
  Settings.mk
    <$> defaulted r "neo4j_uri" standard.graphUri text
    <*> defaulted r "neo4j_user" standard.graphUser text
    <*> defaulted r "neo4j_password" standard.graphPassword text
    <*> defaulted r "candidate_fetch_limit" standard.candidateLimit int
    <*> defaulted r "onboarding_fetch_limit" standard.onboardingLimit int
    <*> defaulted r "suggestion_count" standard.suggestionCount int
    <*> defaulted r "log_level" standard.logLevel text

def dump (s : Settings) : Value :=
  .object [
    ("neo4j_uri", .text s.graphUri),
    ("neo4j_user", .text s.graphUser),
    ("neo4j_password", .text s.graphPassword),
    ("candidate_fetch_limit", .int s.candidateLimit),
    ("onboarding_fetch_limit", .int s.onboardingLimit),
    ("suggestion_count", .int s.suggestionCount),
    ("log_level", .text s.logLevel)]

def schema : Schema Settings := ⟨"Settings", Schema.fields "Settings" ofRecord, dump⟩

end Settings

end MusicianGraph
