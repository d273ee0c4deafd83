import Recall.Text.Case

/-!
Lowercase of whole texts. A capital sigma becomes the final form at the end of a word:
when the nearest cased character around it, passing over case-ignorable ones, stands
before it and none stands after it.
-/

namespace Recall.Text

def startsCased (text : List Char) : Bool :=
  match text.dropWhile isCaseIgnorable with
  | c :: _ => isCased c
  | [] => false

/-- `before` is the text to the left, nearest character first. -/
def lowercaseFrom : (before : List Char) → List Char → List Char
  | _, [] => []
  | before, c :: after =>
    (if c = '\u03a3' then
      [if startsCased before && !startsCased after then '\u03c2' else '\u03c3']
    else lowercaseOf c) ++ lowercaseFrom (c :: before) after

def lowercaseChars (text : List Char) : List Char := lowercaseFrom [] text

def lowercase (text : String) : String := String.ofList (lowercaseChars text.toList)

end Recall.Text
