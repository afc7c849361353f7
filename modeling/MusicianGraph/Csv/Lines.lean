import MusicianGraph.Failure
import MusicianGraph.Text.ByteOrderMark

/-! # Lines of a comma separated text

A text is taken apart into lines of cells. A cell that begins with a quote goes on to the next
single quote and may hold commas and line ends; a doubled quote in it is one quote. Lines end with
a line feed, a carriage return, or both. Lines of nothing but blanks are passed over.

A line is read from the text that is left, and what is left after it is told together with its
cells. A carriage return keeps its hold on what comes after it: a line feed there belongs to it, and
a comma ends the first, empty cell of the next line. -/

namespace MusicianGraph.Csv

/-- A line of cells and its number in the text; blank lines are counted too, line ends in quotes are
not. -/
structure Line where
  number : Nat
  cells : List String
deriving DecidableEq, Repr

/-- The separator of cells. -/
def comma : Char := ','

/-- The character around cells that hold separators. -/
def quote : Char := '\x22'

def isLineBlank (c : Char) : Bool := c == ' ' || c == '\t'

/-- Where in a line the scan stands. -/
inductive Place where
  | cellStart
  | plain
  | quoted
  /-- After a quote inside quotes, which ends the quotes unless another one follows. -/
  | quoteSeen
deriving DecidableEq, Repr

/-- What comes after a line. -/
inductive Following where
  /-- The beginning of a line, or nothing. -/
  | start (rest : List Char)
  /-- A line whose first cell is empty and has ended already. -/
  | secondCell (rest : List Char)
  /-- Nothing, since the text ends inside quotes. -/
  | openQuote
deriving DecidableEq, Repr

/-- What comes after a carriage return at the end of a line. -/
def Following.ofReturn : List Char → Following
  | '\n' :: rest => .start rest
  | ',' :: rest => .secondCell rest
  | rest => .start rest

/-- The text of a cell whose characters stand in reverse. -/
def cellText (cell : List Char) : String := String.ofList cell.reverse

/-- Read the rest of a line, given the characters of the cell and the cells before it in reverse. -/
def restOfLine : Place → List Char → List String → List Char → List String × Following
  | place, cell, cells, [] =>
      ((cellText cell :: cells).reverse, if place = .quoted then .openQuote else .start [])
  | .quoted, cell, cells, c :: rest =>
      if c = quote then restOfLine .quoteSeen cell cells rest
      else restOfLine .quoted (c :: cell) cells rest
  | place, cell, cells, c :: rest =>
      if c = '\n' then ((cellText cell :: cells).reverse, .start rest)
      else if c = '\r' then ((cellText cell :: cells).reverse, .ofReturn rest)
      else if c = comma then restOfLine .cellStart [] (cellText cell :: cells) rest
      else if c = quote ∧ place = .cellStart then restOfLine .quoted cell cells rest
      else if c = quote ∧ place = .quoteSeen then restOfLine .quoted (c :: cell) cells rest
      else restOfLine .plain (c :: cell) cells rest

/-- What has been read since the last line. -/
inductive Margin where
  /-- Nothing, or only lines without a character. -/
  | clean
  | blanks
  /-- The last character was a carriage return. -/
  | returned
deriving DecidableEq, Repr

/-- Pass over blank lines: how many lines ended, and the text from the beginning of the next line
on. A line that begins with blanks begins at the anchor, which is after the last line end. -/
def skipBlankLines (anchor : List Char) (ended : Nat) : Margin → List Char → Nat × List Char
  | _, [] => (ended, [])
  | margin, c :: rest =>
      if c = '\n' then
        skipBlankLines rest (if margin = .returned then ended else ended + 1) .clean rest
      else if c = '\r' then skipBlankLines rest (ended + 1) .returned rest
      else if c = comma ∧ margin = .returned then skipBlankLines anchor ended .clean rest
      else if isLineBlank c then skipBlankLines anchor ended .blanks rest
      else (ended, if margin = .blanks then anchor else c :: rest)

/-- What is found where a line is looked for. -/
inductive Finding where
  | line (line : Line) (following : Following)
  | nothing
  /-- A line that does not end, since the text ends inside quotes. -/
  | openQuote (ended : Nat)
deriving DecidableEq, Repr

/-- A line that has been read, given how many have ended before it. -/
def Finding.ofCells (ended : Nat) : List String × Following → Finding
  | (_, .openQuote) => .openQuote ended
  | (cells, following) => .line ⟨ended + 1, cells⟩ following

/-- Look for the next line, given how many have ended. -/
def findLine (ended : Nat) : Following → Finding
  | .start rest =>
      match skipBlankLines rest ended .clean rest with
      | (_, []) => .nothing
      | (ended, rest) => .ofCells ended (restOfLine .cellStart [] [] rest)
  | .secondCell rest => .ofCells ended (restOfLine .cellStart [] [""] rest)
  | .openQuote => .openQuote ended

/-- The lines of a text, and how many lines had ended when it ends inside quotes. -/
structure Scan where
  lines : List Line
  openQuote : Option Nat
deriving DecidableEq, Repr

/-- Read all lines, given how many have ended. Each line but the last takes at least one character,
so that one more than their count is fuel enough. -/
def linesFrom : Nat → Nat → Following → Scan
  | 0, _, _ => ⟨[], none⟩
  | fuel + 1, ended, following =>
      match findLine ended following with
      | .nothing => ⟨[], none⟩
      | .openQuote ended => ⟨[], some ended⟩
      | .line line following =>
          let scan := linesFrom fuel line.number following
          { scan with lines := line :: scan.lines }

def scan (text : String) : Scan :=
  let cs := dropByteOrderMark text.toList
  linesFrom (cs.length + 1) 0 (.start cs)

/-- From the third line on no line may have more cells than the widest before it. The width is that
of the lines so far. -/
def checkWidths (width : Nat) : List Line → Except Failure Unit
  | [] => .ok ()
  | line :: rest =>
      if width < line.cells.length then .error (.surplusFields width line.number line.cells.length)
      else checkWidths width rest

/-- The lines of a text: the first one, and the others filled up to one width. -/
def lines (text : String) : Except Failure (List String × List (List String)) := do
  let s := scan text
  let width := ((s.lines.take 2).map fun line => line.cells.length).foldl max 0
  checkWidths width (s.lines.drop 2)
  match s.openQuote, s.lines with
  | some ended, _ => .error (.openQuote ended)
  | none, [] => .error .emptyTable
  | none, header :: rest =>
      .ok (header.cells, rest.map fun line =>
        line.cells ++ List.replicate (width - line.cells.length) "")

end MusicianGraph.Csv
