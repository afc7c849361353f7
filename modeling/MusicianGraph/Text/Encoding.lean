import MusicianGraph.Text.ByteOrderMark

/-! # Encodings of JSON texts

A JSON text comes as bytes, in units of one, two or four of them. Its first two characters are ASCII
characters, so the zeros among the first bytes tell the size and the order of the units. -/

namespace MusicianGraph

def bytesOf (c : Char) : List Nat := (String.ofList [c]).toUTF8.toList.map UInt8.toNat

inductive ByteOrder where
  | highFirst
  | lowFirst
deriving DecidableEq, Repr

/-- How the bytes of a text are to be read. -/
inductive Encoding where
  | singleBytes
  | pairs (order : ByteOrder)
  | quadruples (order : ByteOrder)
deriving DecidableEq, Repr

namespace ByteOrder

/-- The number that bytes write. -/
def number (order : ByteOrder) (bytes : List Nat) : Nat :=
  match order with
  | highFirst => bytes.foldl (fun n byte => n * 256 + byte) 0
  | lowFirst => bytes.foldr (fun byte n => n * 256 + byte) 0

/-- The numbers of the pairs of bytes; a byte may not be left over. -/
def pairs? (order : ByteOrder) : List Nat → Option (List Nat)
  | [] => some []
  | a :: b :: rest => (order.pairs? rest).map (order.number [a, b] :: ·)
  | _ => none

/-- The numbers of the groups of four bytes; no byte may be left over. -/
def quadruples? (order : ByteOrder) : List Nat → Option (List Nat)
  | [] => some []
  | a :: b :: c :: d :: rest => (order.quadruples? rest).map (order.number [a, b, c, d] :: ·)
  | _ => none

end ByteOrder

namespace Encoding

/-- The encoding that the first bytes of a JSON text tell. -/
def detect : List Nat → Encoding
  | [0, _] => .pairs .highFirst
  | [_, 0] => .pairs .lowFirst
  | 0 :: 0 :: _ :: _ :: _ => .quadruples .highFirst
  | 0 :: _ :: _ :: _ :: _ => .pairs .highFirst
  | _ :: 0 :: 0 :: 0 :: _ => .quadruples .lowFirst
  | _ :: 0 :: _ :: _ :: _ => .pairs .lowFirst
  | _ => .singleBytes

/-- Is the number the first half of a pair of units? -/
def isHighHalf (n : Nat) : Bool := 0xD800 ≤ n && n < 0xDC00

/-- Is the number the second half of a pair of units? -/
def isLowHalf (n : Nat) : Bool := 0xDC00 ≤ n && n < 0xE000

/-- The code that two halves write. -/
def joined (high low : Nat) : Nat := 0x10000 + (high - 0xD800) * 0x400 + (low - 0xDC00)

/-- The character with a code; half a pair has none and gives the replacement character. -/
def charOfCode (code : Nat) : Char :=
  if isHighHalf code || isLowHalf code then '\uFFFD' else Char.ofNat code

/-- The characters of units, in which two halves are one character. -/
def charsOfUnits : List Nat → List Char
  | [] => []
  | [n] => [charOfCode n]
  | m :: n :: rest =>
      if isHighHalf m && isLowHalf n then Char.ofNat (joined m n) :: charsOfUnits rest
      else charOfCode m :: charsOfUnits (n :: rest)

/-- The characters of codes, which have to be codes of characters. -/
def charsOfCodes? (codes : List Nat) : Option (List Char) :=
  if codes.all (· < 0x110000) then some (codes.map charOfCode) else none

/-- The characters of a text whose bytes, read one by one, are the given characters. -/
def decode? (cs : List Char) : Option (List Char) :=
  let bytes := cs.flatMap bytesOf
  match detect bytes with
  | .singleBytes => some (dropByteOrderMark cs)
  | .pairs order => (order.pairs? bytes).map charsOfUnits
  | .quadruples order => (order.quadruples? bytes).bind charsOfCodes?

end Encoding

end MusicianGraph
