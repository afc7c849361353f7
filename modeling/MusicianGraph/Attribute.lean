import MusicianGraph.Model.Profile
import MusicianGraph.Failure
import MusicianGraph.Schema.Validate

/-! # Attributes of candidates

A candidate is a profile together with the names of the fields that its data gave. It can be asked
by name for its fields, for what is known about them, and for its operations, which are no values.
-/

namespace MusicianGraph

/-- A profile and the names of the fields that were given for it. -/
structure Candidate where
  profile : UserProfile
  given : List String

/-- What stands under the name of an attribute. -/
inductive Attribute where
  | value (v : Value)
  /-- Something that is done with a profile. -/
  | operation

def Attribute.operations : List String :=
  ["construct", "copy", "dict", "json", "model_construct", "model_copy", "model_dump",
    "model_dump_json", "model_json_schema", "model_post_init", "model_rebuild", "model_validate",
    "model_validate_json", "schema", "validate"]

namespace UserProfile

def fields (p : UserProfile) : Record :=
  match p.dump with
  | .object fields => fields.map fun (name, v) =>
      (name, if name == "location" then .ofOption .place p.location else v)
  | _ => []

def fieldNames (p : UserProfile) : List String := Record.names p.fields

end UserProfile

namespace Candidate

/-- Read a candidate. -/
def ofValue (v : Value) : Except Failure Candidate := do
  let profile ← UserProfile.schema.validate v
  let names :=
    match v with
    | .object fields => Record.names fields
    | _ => []
  .ok ⟨profile, names.filter profile.fieldNames.contains⟩

/-- What is known about the fields of a candidate: which there are, which were given, and that there
are no others. -/
def knowledge (c : Candidate) : Record :=
  let names := Value.ofTexts c.profile.fieldNames
  let given := Value.ofTexts c.given
  [("model_fields", names), ("model_fields_set", given), ("model_extra", .null),
    ("model_config", .object []), ("model_computed_fields", .object [])]

/-- What stands under a name. -/
def named (c : Candidate) (name : String) : Except Failure Attribute :=
  match (c.profile.fields ++ c.knowledge).get? name with
  | some v => .ok (.value v)
  | none =>
      if Attribute.operations.contains name then .ok .operation
      else .error (.unknownAttribute name)

end Candidate

end MusicianGraph
