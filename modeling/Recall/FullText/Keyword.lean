import Recall.Text.Word

namespace Recall.FullText

def stopWords : List String := [
  "about", "above", "after", "again", "against", "also", "been", "before", "being", "below",
  "between", "both", "could", "does", "doing", "down", "during", "each", "from", "further",
  "have", "having", "here", "into", "just", "more", "most", "once", "only", "other", "over",
  "same", "should", "some", "such", "than", "that", "their", "them", "then", "there", "these",
  "they", "this", "those", "through", "under", "until", "very", "want", "were", "what", "when",
  "where", "which", "while", "will", "with", "would", "your", "yours"]

def isKeyword (word : String) : Bool := 4 ≤ word.length && !(word ∈ stopWords)

def keywords (query : String) : List String := ((Text.words query).filter isKeyword).eraseDups

end Recall.FullText
