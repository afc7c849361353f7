import MusicianGraph.Json.Reader
import MusicianGraph.Text.Encoding

/-! # Percent encoding

In paths and queries a byte can be written as a percent sign and two hexadecimal digits. The bytes
are read as UTF-8; whatever is not UTF-8 is read as replacement characters, one for each longest
beginning of a character. -/

namespace MusicianGraph.Percent

/-- A character that has begun: its code so far, how many bytes it lacks, and the range of the next
one. -/
structure Partial where
  code : Nat
  lacking : Nat
  least : Nat
  most : Nat
deriving DecidableEq, Repr

/-- The beginning of a character of several bytes. -/
def begin? (byte : Nat) : Option Partial :=
  if byte < 0xC2 then none
  else if byte < 0xE0 then some ⟨byte - 0xC0, 1, 0x80, 0xBF⟩
  else if byte < 0xF0 then
    some ⟨byte - 0xE0, 2, if byte = 0xE0 then 0xA0 else 0x80, if byte = 0xED then 0x9F else 0xBF⟩
  else if byte < 0xF5 then
    some ⟨byte - 0xF0, 3, if byte = 0xF0 then 0x90 else 0x80, if byte = 0xF4 then 0x8F else 0xBF⟩
  else none

/-- What stands for bytes that are not UTF-8. -/
def replacement : Char := '\uFFFD'

/-- Read bytes as UTF-8, given the character that has begun before them. -/
def charsAfter (open? : Option Partial) : List Nat → List Char
  | [] => if open?.isSome then [replacement] else []
  | byte :: rest =>
      match open? with
      | some p =>
          if p.least ≤ byte ∧ byte ≤ p.most then
            let code := p.code * 64 + byte % 64
            if p.lacking ≤ 1 then Char.ofNat code :: charsAfter none rest
            else charsAfter (some ⟨code, p.lacking - 1, 0x80, 0xBF⟩) rest
          else if byte < 0x80 then replacement :: Char.ofNat byte :: charsAfter none rest
          else
            match begin? byte with
            | some q => replacement :: charsAfter (some q) rest
            | none => replacement :: replacement :: charsAfter none rest
      | none =>
          if byte < 0x80 then Char.ofNat byte :: charsAfter none rest
          else
            match begin? byte with
            | some q => charsAfter (some q) rest
            | none => replacement :: charsAfter none rest

/-- The bytes of a text, encoded ones decoded. A percent sign without two digits stays. -/
def bytes : List Char → List Nat
  | [] => []
  | '%' :: a :: b :: rest =>
      match Json.hexValue? a, Json.hexValue? b with
      | some high, some low => (high * 16 + low) :: bytes rest
      | _, _ => bytesOf '%' ++ bytes (a :: b :: rest)
  | c :: rest => bytesOf c ++ bytes rest

def decodeChars (cs : List Char) : List Char := charsAfter none (bytes cs)

def decode (s : String) : String := String.ofList (decodeChars s.toList)

def byteChars (cs : List Char) : List Char := (cs.flatMap bytesOf).map Char.ofNat

def isAscii (c : Char) : Bool := c.toNat < 0x80

/-- Decode the runs of ASCII characters in a text, each on its own. -/
def decodeRuns (cs : List Char) : List Char :=
  (cs.splitBy fun a b => isAscii a == isAscii b).flatMap fun run =>
    if run.all isAscii then decodeChars run else run

/-- The characters besides letters and digits that are left as they are. -/
def plainMarks : List Char := "_.-~:/%#?=@[]!$&'()*+,;".toList

/-- Is the character left as it is? -/
def isPlain (c : Char) : Bool := c.isAlphanum || plainMarks.contains c

def encodeByte (byte : Nat) : List Char :=
  let digits := (Nat.toDigits 16 byte).map Char.toUpper
  '%' :: (List.replicate (2 - digits.length) '0' ++ digits)

/-- Encode the characters of a text that may not stand in an address. -/
def encode (s : String) : String :=
  String.ofList (s.toList.flatMap fun c =>
    if isPlain c then [c] else (bytesOf c).flatMap encodeByte)

end MusicianGraph.Percent
