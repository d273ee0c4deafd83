import Recall.Text.Alphanumeric
import Recall.Text.Lowercase

namespace Recall.Text

/-- The maximal non-empty runs of characters that pass `keep`; `word` holds the run that is
still open, last character first. -/
def runsFrom (keep : Char → Bool) : (word : List Char) → List Char → List (List Char)
  | [], [] => []
  | word, [] => [word.reverse]
  | word, c :: rest =>
    if keep c then runsFrom keep (c :: word) rest
    else match word with
      | [] => runsFrom keep [] rest
      | _ => word.reverse :: runsFrom keep [] rest

def runs (keep : Char → Bool) (text : List Char) : List (List Char) := runsFrom keep [] text

def words (text : String) : List String :=
  (runs isAlphanumeric (lowercaseChars text.toList)).map String.ofList

end Recall.Text
