import Recall.FullText.TokenCharacter

/-!
Tokens of a text and phrases of tokens. A token is a maximal run of token characters, folded
to a common letter case and stripped of accents. An accent mark on its own does not begin a
token, but it does not end one either.
-/

namespace Recall.FullText

abbrev Token := List Char

/-- `token` holds the token that is still open, last character first. -/
def tokensFrom : (token : Token) → List Char → List Token
  | [], [] => []
  | token, [] => [token.reverse]
  | [], c :: rest =>
    if isTokenCharacter c then tokensFrom [foldCharacter c] rest else tokensFrom [] rest
  | token, c :: rest =>
    if isRemovableMark c then tokensFrom token rest
    else if isTokenCharacter c then tokensFrom (foldCharacter c :: token) rest
    else token.reverse :: tokensFrom [] rest

def tokens (text : String) : List Token := tokensFrom [] text.toList

def suffixes : List α → List (List α)
  | [] => [[]]
  | x :: xs => (x :: xs) :: suffixes xs

/-- How often the phrase stands in the tokens; occurrences may overlap. A phrase without
tokens stands nowhere. -/
def phraseCount (phrase tokens : List Token) : Nat :=
  if phrase.isEmpty then 0 else (suffixes tokens).countP (phrase.isPrefixOf ·)

end Recall.FullText
