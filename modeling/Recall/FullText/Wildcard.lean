import Recall.FullText.Token

/-!
Wildcard patterns: a percent sign stands for any characters, an underscore for any one, and
ASCII letters match in either case. A text ends at its first NUL. No text is compared with a
pattern that is too long.
-/

namespace Recall.FullText

def sameLetter (a b : Char) : Bool :=
  a = b || (a.toNat < 128 && b.toNat < 128 && a.toLower = b.toLower)

def wildcardMatches : (pattern text : List Char) → Bool
  | [], text => text.isEmpty
  | p :: pattern, text =>
    if p = '%' then (suffixes text).any (wildcardMatches pattern)
    else match text with
      | [] => false
      | c :: rest => (p = '_' || sameLetter p c) && wildcardMatches pattern rest

def untilNul (text : String) : List Char := text.toList.takeWhile (· ≠ '\x00')

def containsPattern (keyword : String) : String := "%" ++ keyword ++ "%"

def like (pattern text : String) : Bool := wildcardMatches pattern.toList (untilNul text)

def mentions (keywords : List String) (texts : List (Option String)) : Bool :=
  keywords.any fun keyword => texts.any fun text =>
    text.any (like (containsPattern keyword))

def longestPattern : Nat := 50000

def isTooLong (keyword : String) : Bool :=
  longestPattern < (containsPattern keyword).utf8ByteSize

/-- Keywords are tried in their order up to the first that some text contains. -/
def refuses (keywords : List String) (texts : List (Option String)) : Bool :=
  (keywords.find? fun keyword => isTooLong keyword || mentions [keyword] texts).any isTooLong

end Recall.FullText
