import MusicianGraph.Value.Basic

/-! # What can be wrong with a value

A `Problem` says where in the data something is wrong, what, and with which value. The wording of
every issue is here. -/

namespace MusicianGraph

/-- One step on the way from the data to a part of it. -/
inductive Step where
  | field (name : String)
  | index (i : Nat)
deriving DecidableEq, Repr

def Step.dump : Step → Value
  | field name => .text name
  | index i => .int i

/-- What is wrong with a value. -/
inductive Issue where
  | missing
  /-- Not an object, where a model of the given name is wanted. -/
  | notModel (title : String)
  /-- Not an object, where fields were to be taken out of a request. -/
  | notFields
  | notText
  | tooShort (least : Nat)
  | tooLong (most : Nat)
  | notInteger
  | unreadableInteger
  | fractional
  | tooLargeInteger
  | notFinite
  | notNumber
  | unreadableNumber
  | belowBound (bound : Int)
  | aboveBound (bound : Int)
  | notBoolean
  | unreadableBoolean
  | notList
  /-- Not one of the listed texts. -/
  | notChoice (choices : List String)
  /-- Not the one text that is admitted. -/
  | notLiteral (literal : String)
  | unknownTag (tag : String) (tags : List String)
  | noTag
  | notMoment
  | unreadableMoment
  | impossibleMoment
  | malformedBody
deriving DecidableEq, Repr

/-- Texts in quotes, with `or` before the last one. -/
def quotedChoices (choices : List String) : String :=
  let quotes := choices.map fun c => "'" ++ c ++ "'"
  match quotes.reverse with
  | [] => ""
  | [only] => only
  | last :: before => ", ".intercalate before.reverse ++ " or " ++ last

namespace Issue

/-- The name of the kind of issue. -/
def kind : Issue → String
  | missing => "missing"
  | notModel _ => "model_type"
  | notFields => "model_attributes_type"
  | notText => "string_type"
  | tooShort _ => "string_too_short"
  | tooLong _ => "string_too_long"
  | notInteger => "int_type"
  | unreadableInteger => "int_parsing"
  | fractional => "int_from_float"
  | tooLargeInteger => "int_parsing_size"
  | notFinite => "finite_number"
  | notNumber => "float_type"
  | unreadableNumber => "float_parsing"
  | belowBound _ => "greater_than_equal"
  | aboveBound _ => "less_than_equal"
  | notBoolean => "bool_type"
  | unreadableBoolean => "bool_parsing"
  | notList => "list_type"
  | notChoice _ => "enum"
  | notLiteral _ => "literal_error"
  | unknownTag .. => "union_tag_invalid"
  | noTag => "union_tag_not_found"
  | notMoment => "datetime_type"
  | unreadableMoment => "datetime_from_date_parsing"
  | impossibleMoment => "datetime_parsing"
  | malformedBody => "json_invalid"

def characters (n : Nat) : String :=
  toString n ++ (if n = 1 then " character" else " characters")

/-- What is said about the issue. -/
def message : Issue → String
  | missing => "Field required"
  | notModel title => "Input should be a valid dictionary or instance of " ++ title
  | notFields => "Input should be a valid dictionary or object to extract fields from"
  | notText => "Input should be a valid string"
  | tooShort least => "String should have at least " ++ characters least
  | tooLong most => "String should have at most " ++ characters most
  | notInteger => "Input should be a valid integer"
  | unreadableInteger => "Input should be a valid integer, unable to parse string as an integer"
  | fractional => "Input should be a valid integer, got a number with a fractional part"
  | tooLargeInteger => "Unable to parse input string as an integer, exceeded maximum size"
  | notFinite => "Input should be a finite number"
  | notNumber => "Input should be a valid number"
  | unreadableNumber => "Input should be a valid number, unable to parse string as a number"
  | belowBound bound => "Input should be greater than or equal to " ++ toString bound
  | aboveBound bound => "Input should be less than or equal to " ++ toString bound
  | notBoolean => "Input should be a valid boolean"
  | unreadableBoolean => "Input should be a valid boolean, unable to interpret input"
  | notList => "Input should be a valid list"
  | notChoice choices => "Input should be " ++ quotedChoices choices
  | notLiteral literal => "Input should be " ++ quotedChoices [literal]
  | unknownTag tag tags =>
      "Input tag '" ++ tag ++ "' found using 'kind' does not match any of the expected tags: "
        ++ ", ".intercalate (tags.map fun t => "'" ++ t ++ "'")
  | noTag => "Unable to extract tag using discriminator 'kind'"
  | notMoment => "Input should be a valid datetime"
  | unreadableMoment => "Input should be a valid datetime or date"
  | impossibleMoment => "Input should be a valid datetime"
  | malformedBody => "JSON decode error"

/-- Is the wording free, so that only the kind of issue is told? -/
def isWordless : Issue → Bool
  | notMoment | unreadableMoment | impossibleMoment | malformedBody => true
  | _ => false

end Issue

/-- Something wrong with a part of the data. -/
structure Problem where
  path : List Step
  issue : Issue
  /-- The value that is wrong; for a missing field the object that lacks it. -/
  input : Value

namespace Problem

/-- The problem as seen from one step further out. -/
def within (step : Step) (p : Problem) : Problem := { p with path := step :: p.path }

/-- A problem as data: where it is, of what kind, and what is said about it. -/
def dump (p : Problem) : Value :=
  .object ([("loc", .list (p.path.map Step.dump)), ("type", .text p.issue.kind)] ++
    (if p.issue.isWordless then [] else [("msg", .text p.issue.message)]))

end Problem

end MusicianGraph
