import Recall.Record.Observation
import Recall.Text.Word

/-!
The term set of an observation: the words of its title, narrative and facts that carry
meaning, and the lowercased base names of its files. Two observations are compared by how
much of their terms they share.
-/

namespace Recall.Similarity

def fillerWords : List String := [
  "the", "and", "for", "with", "this", "that", "from", "was", "were", "are", "has", "have",
  "had", "not", "but", "into", "when", "then", "than", "also", "which", "will", "would", "can",
  "could", "should", "been", "being", "its", "our", "their", "there", "these", "those", "use",
  "used", "using", "via", "all", "any", "now", "only", "out", "per"]

def isTerm (word : String) : Bool := 3 ≤ word.length && !(word ∈ fillerWords)

def baseName (path : String) : String :=
  String.ofList (path.toList.reverse.takeWhile fun c => c ≠ '/' && c ≠ '\\').reverse

def fileTerm (path : String) : Option String :=
  let name := baseName path
  if name.isEmpty then none else some (Text.lowercase name)

def termOccurrences (content : ObservationContent) : List String :=
  let texts := content.title.toList ++ content.narrative.toList ++ content.facts
  texts.flatMap (fun text => (Text.words text).filter isTerm) ++
    (content.filesRead ++ content.filesModified).filterMap fileTerm

/-- A set of texts, as a list in ascending order without repetitions. -/
def asSet (texts : List String) : List String :=
  texts.eraseDups.mergeSort fun a b => a ≤ b

def terms (content : ObservationContent) : List String := asSet (termOccurrences content)

end Recall.Similarity
