import MusicianGraph.Schema.Problem
import MusicianGraph.Value.Render

/-! # Failures

Everything that can go wrong in an operation, and how it is worded. Failures about bad values are
told apart from the others: a request that causes one is answered as a bad request. -/

namespace MusicianGraph

/-- The faults that the graph answers with. -/
inductive GraphFault where
  | serviceUnavailable
  | sessionExpired
  | clientError
  | transientError
  | runtimeError
  | badValue
deriving DecidableEq, Repr

namespace GraphFault

/-- All faults. -/
def all : List GraphFault :=
  [serviceUnavailable, sessionExpired, clientError, transientError, runtimeError, badValue]

def name : GraphFault → String
  | serviceUnavailable => "ServiceUnavailable"
  | sessionExpired => "SessionExpired"
  | clientError => "ClientError"
  | transientError => "TransientError"
  | runtimeError => "RuntimeError"
  | badValue => "ValueError"

/-- The fault with a name; other names mean that something else went wrong. -/
def ofName (s : String) : GraphFault := (all.find? fun fault => fault.name == s).getD runtimeError

/-- Does the fault come from the graph or the connection to it? -/
def isOfGraph : GraphFault → Bool
  | serviceUnavailable | sessionExpired | clientError | transientError => true
  | runtimeError | badValue => false

end GraphFault

/-- What went wrong. -/
inductive Failure where
  /-- Data was rejected by the model of the given name. -/
  | invalid (title : String) (problems : List Problem)
  /-- A value cannot be gone through item by item. -/
  | notIterable (kind : String)
  | missingField (name : String)
  /-- A value lacks an attribute. -/
  | noAttribute (owner : Value) (name : String)
  /-- Nothing is known of a profile under that name. -/
  | unknownAttribute (name : String)
  /-- A value of this kind is no name of an attribute. -/
  | notName (kind : String)
  /-- A value of this kind cannot be a member of a set. -/
  | unhashable (kind : String)
  | unknownStrategy (given : Value)
  | unknownMedia (given : Value)
  | unknownFields (names : List String)
  | nothingToUpdate
  | negativePage
  | nonPositiveLimit
  | selfFollow
  | emptyPost
  | emptyEventName
  | emptyMessage
  | unknownResult (model : String)
  /-- A text is not a whole number. -/
  | unreadableInt (text : String)
  /-- The text of a whole number has more digits than are read. -/
  | tooManyDigits (most found : Nat)
  /-- A whole number has more digits than are written. -/
  | unwritableInt (most : Nat)
  /-- A text is not a number. -/
  | unreadableFloat (text : String)
  /-- A value of this kind cannot be made a whole number. -/
  | notInt (kind : String)
  /-- A value of this kind cannot be made a number. -/
  | notFloat (kind : String)
  | undefinedToInt
  | infinityToInt
  /-- A text is not the name of a level of log lines. -/
  | unknownLevel (text : String)
  /-- Something that is shown in this way is no level of log lines. -/
  | notLevel (shown : String)
  /-- A whole number is too large for a floating point one. -/
  | tooLargeForFloat
  /-- A value of this kind cannot be compared with zero in this way. -/
  | notComparable (comparison kind : String)
  /-- A number of items is not a whole number. -/
  | notCount
  | graph (fault : GraphFault) (message : String)
  /-- A value cannot be written as JSON. -/
  | notJson
  /-- There is no row to read from. -/
  | noRow
  | missingFile (name : String)
  | emptyTable
  /-- A line of a table has more fields than the lines before it. -/
  | surplusFields (expected line found : Nat)
  /-- A table ends inside quotes. -/
  | openQuote (row : Nat)

namespace Failure

/-- The first line of what is said about rejected data. -/
def summary (title : String) (problems : List Problem) : String :=
  toString problems.length ++
    (if problems.length = 1 then " validation error for " else " validation errors for ") ++ title

/-- How messages about malformed tables begin. -/
def tokenizing : String := "Error tokenizing data. C error: "

/-- Of the quoted form of a text that is no whole number so many characters are shown. -/
def shownCharacters : Nat := 200

/-- What is said about a whole number with more digits than are written. -/
def unwritable (most : Nat) : String :=
  "Exceeds the limit (" ++ toString most ++ " digits) for integer string conversion; "
    ++ "use sys.set_int_max_str_digits() to increase the limit"

/-- What is said about a value that names nothing of a kind, where the value can be shown. -/
def notValid (given : Value) (kind : String) : String :=
  if given.isShowable then given.innerText ++ " is not a valid " ++ kind
  else unwritable Value.mostDigits

/-- How a value is called when it lacks an attribute: stored times are named by their kind alone. -/
def ownerText : Value → String
  | v@(.storedMoment ..) | v@(.storedDay _) => v.kindName
  | v => "'" ++ v.kindName ++ "' object"

def message : Failure → String
  | invalid title problems => summary title problems
  | notIterable kind => "'" ++ kind ++ "' object is not iterable"
  | missingField name => quoted name
  | noAttribute owner name => ownerText owner ++ " has no attribute '" ++ name ++ "'"
  | unknownAttribute name => "'UserProfile' object has no attribute " ++ quoted name
  | notName kind => "attribute name must be string, not '" ++ kind ++ "'"
  | unhashable kind => "unhashable type: '" ++ kind ++ "'"
  | unknownStrategy given => notValid given "RankingStrategy"
  | unknownMedia given => notValid given "MediaType"
  | unknownFields names => "Unknown profile fields: " ++ ", ".intercalate names
  | nothingToUpdate => "No profile fields to update"
  | negativePage => "page must be >= 0"
  | nonPositiveLimit => "limit must be > 0"
  | selfFollow => "Users cannot follow themselves"
  | emptyPost => "A post needs a title, a caption or media"
  | emptyEventName => "Event name cannot be empty"
  | emptyMessage => "Message text cannot be empty"
  | unknownResult model => "Unknown search result: " ++ model
  | unreadableInt text =>
      "invalid literal for int() with base 10: "
        ++ String.ofList ((Quoted.encode text.toList).take shownCharacters)
  | tooManyDigits most found =>
      "Exceeds the limit (" ++ toString most ++ " digits) for integer string conversion: value has "
        ++ toString found ++ " digits; use sys.set_int_max_str_digits() to increase the limit"
  | unwritableInt most => unwritable most
  | unreadableFloat text => "could not convert string to float: " ++ quoted text
  | notInt kind =>
      "int() argument must be a string, a bytes-like object or a real number, not '" ++ kind ++ "'"
  | notFloat kind => "float() argument must be a string or a real number, not '" ++ kind ++ "'"
  | undefinedToInt => "cannot convert float NaN to integer"
  | infinityToInt => "cannot convert float infinity to integer"
  | unknownLevel text => "Unknown level: " ++ quoted text
  | notLevel shown => "Level not an integer or a valid string: " ++ shown
  | tooLargeForFloat => "int too large to convert to float"
  | notComparable comparison kind =>
      "'" ++ comparison ++ "' not supported between instances of '" ++ kind ++ "' and 'int'"
  | notCount => "slice indices must be integers or None or have an __index__ method"
  | graph _ message => message
  | notJson => "Out of range float values are not JSON compliant"
  | noRow => "'NoneType' object is not subscriptable"
  | missingFile name => name
  | emptyTable => "No columns to parse from file"
  | surplusFields expected line found =>
      tokenizing ++ "Expected " ++ toString expected ++ " fields in line " ++ toString line
        ++ ", saw " ++ toString found ++ "\n"
  | openQuote row => tokenizing ++ "EOF inside string starting at row " ++ toString row

def isBadValue : Failure → Bool
  | invalid .. | unknownStrategy _ | unknownMedia _ | unknownFields _ | nothingToUpdate
  | negativePage | nonPositiveLimit | selfFollow | emptyPost | emptyEventName | emptyMessage
  | unreadableInt _ | tooManyDigits .. | unwritableInt _ | unreadableFloat _ | undefinedToInt
  | unknownLevel _ | notJson | emptyTable | surplusFields .. | openQuote _ => true
  | graph fault _ => fault == .badValue
  | _ => false

end Failure

/-- The text of a value, if it can be shown. -/
def Value.shown (v : Value) : Except Failure String :=
  if v.isShowable then .ok v.shownText else .error (.unwritableInt mostDigits)

end MusicianGraph
