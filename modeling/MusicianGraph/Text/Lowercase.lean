import MusicianGraph.Text.CaseTable

/-! # Lowercase

Full lowercasing of Unicode text: every capital letter becomes its small letter. A capital sigma
becomes a final sigma at the end of a word, and the capital dotted I becomes two characters. -/

namespace MusicianGraph

/-- The capital sigma, the one letter whose small letter depends on its place in the word. -/
def capitalSigma : Char := '\u03A3'

def isCased (c : Char) : Bool := inSpans CaseTable.cased c

/-- Is the character passed over when the neighbour of a sigma is looked for? -/
def isSkipped (c : Char) : Bool := inSpans CaseTable.skipped c

/-- The small letter of a character other than a sigma. -/
def smallLetter (c : Char) : List Char :=
  if c = '\u0130' then ['i', '\u0307']
  else
    match CaseTable.capitals.find? (·.holds c.toNat) with
    | some run => [Char.ofNat (c.toNat + run.offset).toNat]
    | none => [c]

/-- Does the text start with a cased letter, marks aside? -/
def startsCased (cs : List Char) : Bool :=
  match cs.dropWhile isSkipped with
  | [] => false
  | c :: _ => isCased c

/-- The sigma of a place: final after a cased letter and not before one. The text before the place
is given in reverse. -/
def smallSigma (before after : List Char) : Char :=
  if startsCased before && !startsCased after then '\u03C2' else '\u03C3'

/-- Lowercase the rest of a text whose beginning, in reverse, is `before`. -/
def lowerAfter (before : List Char) : List Char → List Char
  | [] => []
  | c :: rest =>
      let here := if c = capitalSigma then [smallSigma before rest] else smallLetter c
      here ++ lowerAfter (c :: before) rest

def lowerChars (cs : List Char) : List Char := lowerAfter [] cs

def lower (s : String) : String := String.ofList (lowerChars s.toList)

end MusicianGraph
