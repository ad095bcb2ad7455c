/-!
# Line ends

Lines of a stored text may end in a line feed, in a carriage return or in both, the carriage
return first. As text, every line ends in a line feed.
-/

namespace ComponentAtlas.Text

/-- The text with a line feed at the end of each line. -/
def unifyNewlines : List Char → List Char
  | [] => []
  | '\r' :: '\n' :: rest => '\n' :: unifyNewlines rest
  | c :: rest => (if c == '\r' then '\n' else c) :: unifyNewlines rest

end ComponentAtlas.Text
