import MusicianGraph.Text.PrintTable

/-! # Quoted text

The form in which texts are shown in messages: between single quotes, or between double quotes when
the text has a single quote and no double one. The backslash, the quote and line controls are
escaped by letters, other characters that do not print by their code. -/

namespace MusicianGraph

/-- Is the character shown as it is? -/
def isPrintable (c : Char) : Bool := !inSpans PrintTable.unprintable c

namespace Quoted

def mark (cs : List Char) : Char :=
  if cs.contains '\'' && !cs.contains '"' then '"' else '\''

/-- A code in small hexadecimal digits, filled with zeros up to a width. -/
def hex (width code : Nat) : List Char :=
  let digits := Nat.toDigits 16 code
  List.replicate (width - digits.length) '0' ++ digits

/-- How one character is shown between the given quotes. -/
def escape (quote c : Char) : List Char :=
  if c = quote ∨ c = '\\' then ['\\', c]
  else if c = '\n' then ['\\', 'n']
  else if c = '\r' then ['\\', 'r']
  else if c = '\t' then ['\\', 't']
  else if isPrintable c then [c]
  else if c.toNat < 0x100 then '\\' :: 'x' :: hex 2 c.toNat
  else if c.toNat < 0x10000 then '\\' :: 'u' :: hex 4 c.toNat
  else '\\' :: 'U' :: hex 8 c.toNat

def encode (cs : List Char) : List Char :=
  let quote := mark cs
  quote :: (cs.flatMap (escape quote) ++ [quote])

end Quoted

def quoted (s : String) : String := String.ofList (Quoted.encode s.toList)

end MusicianGraph
