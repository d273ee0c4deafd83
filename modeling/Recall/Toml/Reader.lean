import Recall.Json.Reader
import Recall.Toml.Scalar

namespace Recall.Toml

def isBlank (c : Char) : Bool := c = ' ' || c = '\t'

def skipBlanks (chars : List Char) : List Char := chars.dropWhile isBlank

def isControl (c : Char) : Bool := (c.toNat < 32 && c ≠ '\t') || c.toNat = 127

def lineEnd? : List Char → Option (List Char)
  | '\n' :: rest => some rest
  | '\r' :: '\n' :: rest => some rest
  | _ => none

def skipComment : List Char → List Char
  | '#' :: rest => rest.dropWhile (!isControl ·)
  | rest => rest

def endOfLine? (chars : List Char) : Option (List Char) :=
  match skipComment (skipBlanks chars) with
  | [] => some []
  | rest => lineEnd? rest

def skipLines : (fuel : Nat) → List Char → List Char
  | 0, chars => chars
  | fuel + 1, chars =>
    let rest := skipComment (skipBlanks chars)
    match lineEnd? rest with
    | some rest => skipLines fuel rest
    | none => rest

def hexNumber? (count : Nat) (chars : List Char) : Option (Nat × List Char) :=
  let digits := chars.take count
  if digits.length = count && digits.all (digitOf · < 16) then
    some (digits.foldl (fun value digit => 16 * value + digitOf digit) 0, chars.drop count)
  else none

def scalarValue? (n : Nat) : Option Char :=
  if n < 0xd800 || (0xe000 ≤ n && n < 0x110000) then some (Char.ofNat n) else none

def escape? : List Char → Option (Char × List Char)
  | 'b' :: rest => some ('\x08', rest)
  | 't' :: rest => some ('\t', rest)
  | 'n' :: rest => some ('\n', rest)
  | 'f' :: rest => some ('\x0c', rest)
  | 'r' :: rest => some ('\r', rest)
  | 'e' :: rest => some ('\x1b', rest)
  | '\x22' :: rest => some ('\x22', rest)
  | '\\' :: rest => some ('\\', rest)
  | 'x' :: rest => numbered 2 rest
  | 'u' :: rest => numbered 4 rest
  | 'U' :: rest => numbered 8 rest
  | _ => none
where
  numbered (count : Nat) (chars : List Char) : Option (Char × List Char) := do
    let (n, rest) ← hexNumber? count chars
    return (← scalarValue? n, rest)

def lineText? (quote : Char) (escapes : Bool) : (fuel : Nat) → (read : List Char) →
    List Char → Option (String × List Char)
  | 0, _, _ => none
  | _, _, [] => none
  | fuel + 1, read, c :: rest =>
    if c = quote then some (String.ofList read.reverse, rest)
    else if c = '\\' && escapes then do
      let (c, rest) ← escape? rest
      lineText? quote escapes fuel (c :: read) rest
    else if isControl c then none
    else lineText? quote escapes fuel (c :: read) rest

def foldedLine? (chars : List Char) : Option (List Char) :=
  (lineEnd? (skipBlanks chars)).map fun rest =>
    rest.dropWhile fun c => isBlank c || c = '\n' || c = '\r'

/-- Three quotes close the text. Up to two more just before them belong to it. -/
def closing? (quote : Char) (chars : List Char) : Option (List Char × List Char) :=
  let quotes := chars.takeWhile (· = quote)
  if quotes.length < 3 then none
  else
    let own := min (quotes.length - 3) 2
    some (List.replicate own quote, chars.drop (own + 3))

def longText? (quote : Char) (escapes : Bool) : (fuel : Nat) → (read : List Char) →
    List Char → Option (String × List Char)
  | 0, _, _ => none
  | fuel + 1, read, chars =>
    match closing? quote chars with
    | some (own, rest) => some (String.ofList (read.reverse ++ own), rest)
    | none =>
      match chars with
      | [] => none
      | c :: rest =>
        if c = '\\' && escapes then
          match foldedLine? rest with
          | some rest => longText? quote escapes fuel read rest
          | none => do
            let (c, rest) ← escape? rest
            longText? quote escapes fuel (c :: read) rest
        else match lineEnd? chars with
          | some after => longText? quote escapes fuel
              ((chars.take (chars.length - after.length)).reverse ++ read) after
          | none =>
            if isControl c then none else longText? quote escapes fuel (c :: read) rest

/-- A text in quotes of either kind; three quotes begin a text of several lines, and a line
end right after them does not count. -/
def quotedText? (fuel : Nat) : List Char → Option (String × List Char)
  | a :: b :: c :: rest =>
    if a ≠ '\x22' && a ≠ '\x27' then none
    else if a = b && b = c then
      longText? a (a = '\x22') fuel [] ((lineEnd? rest).getD rest)
    else lineText? a (a = '\x22') fuel [] (b :: c :: rest)
  | a :: rest =>
    if a ≠ '\x22' && a ≠ '\x27' then none else lineText? a (a = '\x22') fuel [] rest
  | [] => none

def isBareKeyChar (c : Char) : Bool := c.isAlphanum || c = '_' || c = '-'

def keyPart? (fuel : Nat) : List Char → Option (String × List Char)
  | [] => none
  | c :: rest =>
    if c = '\x22' || c = '\x27' then lineText? c (c = '\x22') fuel [] rest
    else
      let chars := c :: rest
      let name := chars.takeWhile isBareKeyChar
      if name.isEmpty then none
      else some (String.ofList name, chars.dropWhile isBareKeyChar)

def key? : (fuel : Nat) → List Char → Option (List String × List Char)
  | 0, _ => none
  | fuel + 1, chars => do
    let (name, rest) ← keyPart? (fuel + 1) (skipBlanks chars)
    match skipBlanks rest with
    | '.' :: rest =>
      let (names, rest) ← key? fuel rest
      return (name :: names, rest)
    | rest => return ([name], rest)

def isScalarChar (c : Char) : Bool :=
  c.isAlphanum || c = '_' || c = '-' || c = '+' || c = '.' || c = ':'

/-- The characters of a scalar; a date may be joined to a time by a single space. -/
def scalarText (chars : List Char) : List Char × List Char :=
  let first := chars.takeWhile isScalarChar
  let rest := chars.dropWhile isScalarChar
  match rest with
  | ' ' :: c :: rest' =>
    if date? first = some [] && Number.isDigit c then
      let time := (c :: rest').takeWhile isScalarChar
      (first ++ ' ' :: time, (c :: rest').dropWhile isScalarChar)
    else (first, rest)
  | _ => (first, rest)

/-- Adds a value to a table that is written in one place. Names with points make tables, and
only those can be added to. -/
inductive InlineEntry
  | value (value : Toml)
  | dotted (entries : List (String × InlineEntry))

mutual

def InlineEntry.toToml : InlineEntry → Toml
  | .value value => value
  | .dotted entries => .table (inlineMembers entries)

def inlineMembers : List (String × InlineEntry) → List (String × Toml)
  | [] => []
  | (name, entry) :: entries => (name, entry.toToml) :: inlineMembers entries

end

def inlineInsert? : (path : List String) → Toml → List (String × InlineEntry) →
    Option (List (String × InlineEntry))
  | [], _, _ => none
  | [name], value, entries =>
    if entries.any (·.1 = name) then none else some (entries ++ [(name, .value value)])
  | name :: path, value, entries =>
    match entries.find? (·.1 = name) with
    | none => do
      let inner ← inlineInsert? path value []
      return entries ++ [(name, .dotted inner)]
    | some (_, .dotted inner) => do
      let inner ← inlineInsert? path value inner
      return entries.map fun e => if e.1 = name then (name, .dotted inner) else e
    | some (_, .value _) => none

mutual

def value? : (fuel : Nat) → List Char → Option (Toml × List Char)
  | 0, _ => none
  | fuel + 1, chars =>
    match chars with
    | [] => none
    | c :: rest =>
      if c = '\x22' || c = '\x27' then
        (quotedText? (rest.length + 2) chars).map fun (s, rest) => (text s, rest)
      else if c = '[' then
        (items? fuel (skipLines fuel rest)).map fun (items, rest) => (array items, rest)
      else if c = '\x7b' then
        (entries? fuel [] (skipLines fuel rest)).map fun (entries, rest) =>
          (table (inlineMembers entries), rest)
      else
        let (scalar, rest) := scalarText chars
        (scalar? scalar).map (·, rest)

def items? : (fuel : Nat) → List Char → Option (List Toml × List Char)
  | 0, _ => none
  | fuel + 1, chars =>
    match chars with
    | ']' :: rest => some ([], rest)
    | chars => do
      let (item, rest) ← value? fuel chars
      match skipLines fuel rest with
      | ',' :: rest =>
        let (items, rest) ← items? fuel (skipLines fuel rest)
        return (item :: items, rest)
      | ']' :: rest => return ([item], rest)
      | _ => none

def entries? : (fuel : Nat) → (entries : List (String × InlineEntry)) → List Char →
    Option (List (String × InlineEntry) × List Char)
  | 0, _, _ => none
  | fuel + 1, entries, chars =>
    match chars with
    | '\x7d' :: rest => some (entries, rest)
    | chars => do
      let (path, rest) ← key? fuel chars
      let (value, rest) ← value? fuel (skipBlanks (← expect? '=' rest))
      let entries ← inlineInsert? path value entries
      match skipLines fuel rest with
      | ',' :: rest => entries? fuel entries (skipLines fuel rest)
      | '\x7d' :: rest => return (entries, rest)
      | _ => none

end

inductive Statement
  | openTable (path : List String)
  | openItem (path : List String)
  | assign (path : List String) (value : Toml)

def statement? (fuel : Nat) : List Char → Option (Statement × List Char)
  | '[' :: '[' :: rest => do
    let (path, rest) ← key? fuel rest
    match rest with
    | ']' :: ']' :: rest => return (.openItem path, rest)
    | _ => none
  | '[' :: rest => do
    let (path, rest) ← key? fuel rest
    match rest with
    | ']' :: rest => return (.openTable path, rest)
    | _ => none
  | chars => do
    let (path, rest) ← key? fuel chars
    let (value, rest) ← value? fuel (skipBlanks (← expect? '=' rest))
    return (.assign path value, rest)

def statements? : (fuel : Nat) → List Char → Option (List Statement)
  | 0, _ => none
  | fuel + 1, chars =>
    match skipLines (chars.length + 1) chars with
    | [] => some []
    | chars => do
      let (statement, rest) ← statement? (2 * chars.length + 2) chars
      let rest ← endOfLine? rest
      let statements ← statements? fuel rest
      return statement :: statements

end Recall.Toml
