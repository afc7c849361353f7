/-! # The byte order mark

A text that comes as bytes may begin with a mark that only tells how it is encoded. -/

namespace MusicianGraph

/-- The mark that may stand in front of a text. -/
def byteOrderMark : Char := '\uFEFF'

/-- The characters of a text without the mark in front of them. Only one mark is left out. -/
def dropByteOrderMark : List Char → List Char
  | [] => []
  | c :: rest => if c = byteOrderMark then rest else c :: rest

end MusicianGraph
