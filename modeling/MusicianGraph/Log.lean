import MusicianGraph.Failure

/-! # Logging

Log lines have levels, and a logger passes on the lines at or above its threshold. The threshold of
the whole program is configured by name, once: later configurations change nothing. -/

namespace MusicianGraph

inductive LogLevel where
  | debug
  | info
  | warning
  | error
deriving DecidableEq, Repr

namespace LogLevel

/-- The number of a level; higher is more severe. -/
def severity : LogLevel → Nat
  | debug => 10
  | info => 20
  | warning => 30
  | error => 40

def name : LogLevel → String
  | debug => "DEBUG"
  | info => "INFO"
  | warning => "WARNING"
  | error => "ERROR"

/-- Does a logger with the given threshold pass on lines of the level? -/
def passes (threshold level : LogLevel) : Bool := threshold.severity ≤ level.severity

end LogLevel

/-- The state of the program's logger. -/
structure LogState where
  severity : Nat
  handlers : Nat
deriving DecidableEq, Repr

namespace LogState

/-- The logger before it is configured: only warnings pass, and nobody handles them. -/
def initial : LogState := ⟨LogLevel.warning.severity, 0⟩

/-- The capital form of a letter, as far as the names of levels and formats have it: the letters
`a` to `z`, the dotless `i`, the long `s` and the two ligatures of `s` and `t`. -/
def capital (c : Char) : List Char :=
  if c = '\u0131' then ['I']
  else if c = '\u017F' then ['S']
  else if c = '\uFB05' ∨ c = '\uFB06' then ['S', 'T']
  else [c.toUpper]

def thresholds : List (String × Nat) :=
  [("DEBUG", 10), ("INFO", 20), ("WARNING", 30), ("WARN", 30), ("ERROR", 40), ("CRITICAL", 50),
    ("FATAL", 50), ("NOTSET", 0)]

def basicFormat : String := "%(levelname)s:%(name)s:%(message)s"

/-- The styles in which formats are written, each with its own basic format. -/
def styles : String :=
  "\x7b'%': (<class 'logging.PercentStyle'>, '" ++ basicFormat ++ "'), "
    ++ "'\x7b': (<class 'logging.StrFormatStyle'>, "
    ++ "'\x7blevelname\x7d:\x7bname\x7d:\x7bmessage\x7d'), "
    ++ "'$': (<class 'logging.StringTemplateStyle'>, "
    ++ "'$\x7blevelname\x7d:$\x7bname\x7d:$\x7bmessage\x7d')\x7d"

/-- The names that stand for something else than a level, and what happens when it is taken for
one. -/
def formatNames : List (String × Failure) :=
  [("BASIC_FORMAT", .unknownLevel basicFormat), ("_STYLES", .notLevel styles)]

/-- The threshold with a name, in small or capital letters; other names mean `INFO`. -/
def thresholdOf (name : String) : Except Failure Nat :=
  let name := String.ofList (name.toList.flatMap capital)
  match formatNames.lookup name with
  | some f => .error f
  | none => .ok ((thresholds.lookup name).getD LogLevel.info.severity)

/-- Configure the logger unless that has been done. The handler is there before the threshold is
set, so it stays when there is no such threshold. -/
def configure (state : LogState) (name : String) : LogState × Option Failure :=
  if state.handlers = 0 then
    match thresholdOf name with
    | .ok severity => (⟨severity, 1⟩, none)
    | .error f => (⟨state.severity, 1⟩, some f)
  else (state, none)

end LogState

end MusicianGraph
