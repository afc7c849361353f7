import MusicianGraph.Value.Basic
import MusicianGraph.Number.Numeral
import MusicianGraph.Text.Encoding

/-! # Reading JSON

The reader keeps the order of fields and the difference between whole and floating point numbers.
It admits `NaN` and the infinities as numbers, and of two fields with one name keeps the later
value. A text that is not JSON is refused with the offset of the character where reading stops. A
text can also be refused because something in it goes beyond limits, if that is met first.

Inside the reader the place of a fault is told by the number of characters that are left there. -/

namespace MusicianGraph.Json

/-- What a text may not go beyond. -/
structure Limits where
  /-- The most digits of a whole number. -/
  digits : Nat
  /-- How deep lists and objects may be inside one another. -/
  depth : Nat
deriving DecidableEq, Repr

/-- Why a text cannot be read. -/
inductive Fault where
  /-- The text is not JSON from some place on. -/
  | malformed (place : Nat)
  | beyondLimits
deriving DecidableEq, Repr

/-- The blanks between tokens. -/
def isSpace (c : Char) : Bool := c == ' ' || c == '\t' || c == '\n' || c == '\r'

/-- What follows the blanks. -/
def skipSpace (cs : List Char) : List Char := cs.dropWhile isSpace

def hexValue? (c : Char) : Option Nat :=
  if c.isDigit then some (c.toNat - '0'.toNat)
  else if 'a' ≤ c ∧ c ≤ 'f' then some (c.toNat - 'a'.toNat + 10)
  else if 'A' ≤ c ∧ c ≤ 'F' then some (c.toNat - 'A'.toNat + 10)
  else none

/-- A number in four hexadecimal digits. At least one character has to follow them. -/
def codeUnit? : List Char → Option (Nat × List Char)
  | a :: b :: c :: d :: next :: rest => do
      let a ← hexValue? a
      let b ← hexValue? b
      let c ← hexValue? c
      let d ← hexValue? d
      some (((a * 16 + b) * 16 + c) * 16 + d, next :: rest)
  | _ => none

/-- The character of an escape by code, after its `u`. Two halves of a pair are one character. -/
def codeEscape (cs : List Char) : Except Fault (Char × List Char) :=
  match codeUnit? cs with
  | none => .error (.malformed (cs.length + 1))
  | some (code, rest) =>
      match rest with
      | '\\' :: 'u' :: more =>
          if Encoding.isHighHalf code && 4 < more.length then
            match codeUnit? more with
            | none => .error (.malformed (more.length + 1))
            | some (second, after) =>
                if Encoding.isLowHalf second then
                  .ok (Char.ofNat (Encoding.joined code second), after)
                else .ok (Encoding.charOfCode code, rest)
          else .ok (Encoding.charOfCode code, rest)
      | _ => .ok (Encoding.charOfCode code, rest)

def letterEscapes : List (Char × Char) :=
  [('"', '"'), ('\\', '\\'), ('/', '/'), ('b', '\x08'), ('f', '\x0C'), ('n', '\n'), ('r', '\r'),
    ('t', '\t')]

/-- The character of an escape, whose backslash has been read. -/
def escape (c : Char) (rest : List Char) : Except Fault (Char × List Char) :=
  if c = 'u' then codeEscape rest
  else
    match letterEscapes.lookup c with
    | some meant => .ok (meant, rest)
    | none => .error (.malformed (rest.length + 2))

/-- Read a text after its opening quote. `start` is what was left at that quote, `done` holds the
characters so far in reverse; each step takes at least one character, so that the count of
characters is fuel enough. -/
def textAfter (start : Nat) : Nat → List Char → List Char → Except Fault (String × List Char)
  | 0, _, _ => .error (.malformed start)
  | fuel + 1, done, cs =>
      match cs with
      | [] => .error (.malformed start)
      | '"' :: rest => .ok (String.ofList done.reverse, rest)
      | ['\\'] => .error (.malformed start)
      | '\\' :: c :: rest => do
          let (meant, rest) ← escape c rest
          textAfter start fuel (meant :: done) rest
      | c :: rest =>
          if c.toNat < 0x20 then .error (.malformed (rest.length + 1))
          else textAfter start fuel (c :: done) rest

/-- The whole part of a number: a zero, or digits that do not begin with one. -/
def wholePart? : List Char → Option (List Char × List Char)
  | '0' :: rest => some (['0'], rest)
  | cs =>
      match Numeral.splitDigits cs with
      | ([], _) => none
      | parts => some parts

/-- The digits after a decimal point; a point without digits is not part of the number. -/
def fractionPart (cs : List Char) : List Char × List Char :=
  match cs with
  | '.' :: rest =>
      match Numeral.splitDigits rest with
      | ([], _) => ([], cs)
      | parts => parts
  | _ => ([], cs)

/-- The power of ten; a mark without digits is not part of the number. -/
def powerPart (cs : List Char) : Option Int × List Char :=
  match cs with
  | e :: rest =>
      if e == 'e' || e == 'E' then
        let (negative, rest) := Numeral.splitSign rest
        match Numeral.splitDigits rest with
        | ([], _) => (none, cs)
        | (digits, rest) => (some (Binary64.signed negative (Numeral.value digits)), rest)
      else (none, cs)
  | [] => (none, cs)

def number? (cs : List Char) : Option (Value × List Char) := do
  let (negative, body) :=
    match cs with
    | '-' :: rest => (true, rest)
    | _ => (false, cs)
  let (whole, rest) ← wholePart? body
  let (fraction, rest) := fractionPart rest
  let (power, rest) := powerPart rest
  if fraction.isEmpty && power.isNone then
    some (.int (Binary64.signed negative (Numeral.value whole)), rest)
  else
    let d : Decimal := ⟨Numeral.value (whole ++ fraction), power.getD 0 - fraction.length⟩
    some (.float (d.toFloat negative), rest)

/-- The values that are written as words. -/
def words : List (String × Value) :=
  [("null", .null), ("true", .bool true), ("false", .bool false), ("NaN", .float (0.0 / 0.0)),
    ("Infinity", .float (1.0 / 0.0)), ("-Infinity", .float (-1.0 / 0.0))]

def word? (cs : List Char) : List (String × Value) → Option (Value × List Char)
  | [] => none
  | (word, v) :: more =>
      if word.toList.isPrefixOf cs then some (v, cs.drop word.length) else word? cs more

/-- Has a whole number in front too many digits? -/
def isTooLong (limits : Limits) (cs : List Char) : Bool :=
  limits.digits < ((cs.dropWhile (· == '-')).takeWhile Char.isDigit).length

/-- A word or a number. -/
def atom (limits : Limits) (cs : List Char) : Except Fault (Value × List Char) :=
  match word? cs words with
  | some found => .ok found
  | none =>
      match number? cs with
      | some (.int n, rest) =>
          if isTooLong limits cs then .error .beyondLimits else .ok (.int n, rest)
      | some found => .ok found
      | none => .error (.malformed cs.length)

/-- Go one level down, if there is another one. -/
def Limits.descend (limits : Limits) : Except Fault Limits :=
  match limits.depth with
  | 0 => .error .beyondLimits
  | depth + 1 => .ok { limits with depth }

mutual

def valueAt (limits : Limits) : Nat → List Char → Except Fault (Value × List Char)
  | 0, cs => .error (.malformed cs.length)
  | fuel + 1, cs =>
      match cs with
      | '"' :: rest => do
          let (s, rest) ← textAfter cs.length cs.length [] rest
          .ok (.text s, rest)
      | '\x7b' :: rest => do
          let inner ← limits.descend
          match skipSpace rest with
          | '\x7d' :: rest => .ok (.object [], rest)
          | rest => fieldsAt inner fuel [] rest
      | '[' :: rest => do
          let inner ← limits.descend
          match skipSpace rest with
          | ']' :: rest => .ok (.list [], rest)
          | rest => itemsAt inner fuel [] rest
      | _ => atom limits cs

/-- Read the items of a list up to its end; `done` holds the items so far in reverse. -/
def itemsAt (limits : Limits) : Nat → List Value → List Char → Except Fault (Value × List Char)
  | 0, _, cs => .error (.malformed cs.length)
  | fuel + 1, done, cs => do
      let (v, rest) ← valueAt limits fuel cs
      match skipSpace rest with
      | ']' :: rest => .ok (.list (v :: done).reverse, rest)
      | ',' :: rest => itemsAt limits fuel (v :: done) (skipSpace rest)
      | rest => .error (.malformed rest.length)

/-- Read the fields of an object up to its end; `done` holds the fields so far. -/
def fieldsAt (limits : Limits) : Nat → Record → List Char → Except Fault (Value × List Char)
  | 0, _, cs => .error (.malformed cs.length)
  | fuel + 1, done, cs =>
      match cs with
      | '"' :: rest => do
          let (name, rest) ← textAfter cs.length cs.length [] rest
          match skipSpace rest with
          | ':' :: rest => do
              let (v, rest) ← valueAt limits fuel (skipSpace rest)
              match skipSpace rest with
              | '\x7d' :: rest => .ok (.object (Record.put done name v), rest)
              | ',' :: rest => fieldsAt limits fuel (Record.put done name v) (skipSpace rest)
              | rest => .error (.malformed rest.length)
          | rest => .error (.malformed rest.length)
      | _ => .error (.malformed cs.length)

end

/-- Read characters that are one value and blanks around it. Each character takes at most two
steps: one for a list or an object and one for what is in it. -/
def readChars (limits : Limits) (cs : List Char) : Except Fault Value :=
  match valueAt limits (2 * cs.length + 1) (skipSpace cs) with
  | .error (.malformed left) => .error (.malformed (cs.length - left))
  | .error .beyondLimits => .error .beyondLimits
  | .ok (v, rest) =>
      let rest := skipSpace rest
      if rest.isEmpty then .ok v else .error (.malformed (cs.length - rest.length))

/-- Limits that no text of so many characters goes beyond. -/
def noLimits (length : Nat) : Limits := ⟨length, length⟩

/-- Read a text of any kind, or give the offset of the fault. -/
def read (s : String) : Except Nat Value :=
  match readChars (noLimits s.length) s.toList with
  | .ok v => .ok v
  | .error (.malformed offset) => .error offset
  | .error .beyondLimits => .error s.length

end MusicianGraph.Json
