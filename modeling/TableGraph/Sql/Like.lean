/-!
# Patterns of `LIKE`

In a pattern `%` stands for any text and `_` for any character; other characters
stand for themselves, ASCII letters in either case.
-/

namespace TableGraph

namespace LikePattern

/-- Whether some end of a text is accepted. -/
def someEnd (accepts : List Char → Bool) : List Char → Bool
  | [] => accepts []
  | character :: rest => accepts (character :: rest) || someEnd accepts rest

/-- Whether a pattern fits a whole text. -/
def fits : List Char → List Char → Bool
  | [], text => text.isEmpty
  | mark :: pattern, text =>
    if mark = '%' then someEnd (fits pattern) text
    else
      match text with
      | [] => false
      | character :: rest =>
        (mark == '_' || mark.toLower == character.toLower) && fits pattern rest

end LikePattern

end TableGraph
