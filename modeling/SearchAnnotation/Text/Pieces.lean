/-!
# Pieces of a text

A text splits at its separators into pieces, one more than there are separators. Joining the
pieces with a separator between them gives the text again if it has no other separator.
-/

namespace SearchAnnotation.Text

/-- Pieces of a text between separators. -/
def pieces (separator : Char → Bool) : List Char → List (List Char)
  | [] => [[]]
  | c :: rest =>
    if separator c then [] :: pieces separator rest
    else
      match pieces separator rest with
      | first :: others => (c :: first) :: others
      | [] => [[c]]

/-- Whether one text occurs inside another. -/
def occursIn (part : List Char) : List Char → Bool
  | [] => part.isEmpty
  | c :: rest => part.isPrefixOf (c :: rest) || occursIn part rest

end SearchAnnotation.Text
