import Recall.Text.CodePoints

namespace Recall.Text

def whiteSpace : CodePointSet := ⟨#[
  9, 14, 32, 33, 133, 134, 160, 161, 5760, 5761, 8192, 8203, 8232, 8234, 8239, 8240, 8287, 8288,
  12288, 12289]⟩

def isWhiteSpace (c : Char) : Bool := whiteSpace.contains c

def trimStartChars (text : List Char) : List Char := text.dropWhile isWhiteSpace

def trimEndChars (text : List Char) : List Char :=
  (text.reverse.dropWhile isWhiteSpace).reverse

def trimChars (text : List Char) : List Char := trimEndChars (trimStartChars text)

def trim (text : String) : String := String.ofList (trimChars text.toList)

def trimEnd (text : String) : String := String.ofList (trimEndChars text.toList)

def isBlank (text : String) : Bool := text.toList.all isWhiteSpace

end Recall.Text
