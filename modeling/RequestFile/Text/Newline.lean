/-!
This module contains the two ways in which line ends are brought to a line feed: in a document only
the pair of carriage return and line feed is a line end, in a text file every carriage return is.
-/

namespace RequestFile.Text

def joinLineEnds : List Char → List Char
  | [] => []
  | '\r' :: '\n' :: rest => '\n' :: joinLineEnds rest
  | c :: rest => c :: joinLineEnds rest

def universalLineEnds : List Char → List Char
  | [] => []
  | '\r' :: '\n' :: rest => '\n' :: universalLineEnds rest
  | c :: rest => (if c = '\r' then '\n' else c) :: universalLineEnds rest

end RequestFile.Text
