import MusicianGraph.Failure
import MusicianGraph.Text.Blank
import MusicianGraph.Text.Lowercase

/-! # Tags

Genres and instruments are tags: trimmed, lowercase, never blank and never repeated. Tags come from
lists that users enter and from cells in which a bar stands between them. -/

namespace MusicianGraph

namespace Tag

/-- The normal form of a text as a tag. -/
def ofText (s : String) : String := lower (strip s)

/-- The tags in a list of texts: their normal forms without the blank ones, each once. -/
def cleanTexts (texts : List String) : List String :=
  ((texts.map ofText).filter fun tag => !tag.isEmpty).eraseDups

/-- The tags in a list of values. Every value counts by its text. -/
def clean (values : List Value) : Except Failure (List String) :=
  (values.mapM Value.shown).map cleanTexts

/-- The tags in a value: none in null, and otherwise those of its items. -/
def cleanValue (v : Value) : Except Failure (List String) :=
  match v with
  | .null => .ok []
  | _ =>
      match v.items? with
      | some items => clean items
      | none => .error (.notIterable v.kindName)

/-- Add a tag at the end of a list unless it is blank or there already. -/
def add (tags : List String) (part : List Char) : List String :=
  let tag := ofText (String.ofList part)
  if tag.isEmpty || tags.contains tag then tags else tags ++ [tag]

/-- The tags in a text with bars between them. -/
def ofCell (cell : String) : List String :=
  (cell.toList.splitOn '|').foldl add []

/-- The tags in a cell of any kind; an empty cell, or one that is no number, has none. -/
def ofCellValue : Value → List String
  | .null => []
  | .float x => if x == x then ofCell (numberText x) else []
  | v => ofCell v.shownText

end Tag

end MusicianGraph
