import Recall.CommandLine.Syntax
import Recall.Number.Decimal
import Recall.Number.Word

namespace Recall.CommandLine

inductive Command
  | serve
  | downloadModel
  | search (query project : Option String) (type : String) (limit : Option Nat) (full : Bool)
  | stats (project : Option String)
  | cleanup (project : Option String)
  | reembed
  deriving DecidableEq, Repr

inductive Parsed
  | command (settingsFile : Option String) (command : Command)
  | shown (text : String)
  | refused
  deriving DecidableEq, Repr

structure Given where
  flags : List (String × String) := []
  argument : Option String := none
  deriving DecidableEq, Repr

def Given.value? (given : Given) (name : String) : Option String :=
  (given.flags.find? (·.1 = name)).map (·.2)

def Given.has (given : Given) (name : String) : Bool := given.flags.any (·.1 = name)

inductive LevelRead
  | complete (given : Given)
  | enter (given : Given) (command : String) (rest : List String)
  | help
  | version
  | refused
  deriving DecidableEq, Repr

def acceptable (name value : String) : Bool :=
  name ≠ "limit" || (Number.naturalBelow? Number.wordBound value).isSome

def addFlag (given : Given) (name value : String) : Option Given :=
  if given.has name || !acceptable name value then none
  else some { given with flags := given.flags ++ [(name, value)] }

def addArgument (level : Level) (given : Given) (text : String) : Option Given :=
  if level.argument.isSome && given.argument.isNone then some { given with argument := some text }
  else none

/-- A word that begins with a hyphen is no value, unless it is nothing but a hyphen. -/
def looksLikeValue (word : String) : Bool := word = "-" || word.toList.head? ≠ some '-'

def splitFlag (word : List Char) : String × Option String :=
  let name := String.ofList (word.takeWhile (· ≠ '='))
  match word.dropWhile (· ≠ '=') with
  | _ :: value => (name, some (String.ofList value))
  | [] => (name, none)

inductive FlagRead
  | given (given : Given)
  | needsValue (name : String)
  | help
  | version
  | refused

def readFlag (level : Level) (given : Given) (word : List Char) : FlagRead :=
  let (name, value) := splitFlag word
  let orRefused (given : Option Given) : FlagRead := match given with
    | some given => .given given
    | none => .refused
  if name = "help" && value.isNone then .help
  else if name = "version" && value.isNone && level.hasVersion then .version
  else match level.flags.find? (·.name = name), value with
    | some ⟨_, some _, _⟩, some value => orRefused (addFlag given name value)
    | some ⟨_, some _, _⟩, none => .needsValue name
    | some ⟨_, none, _⟩, none => orRefused (addFlag given name "")
    | _, _ => .refused

def readWords (level : Level) : (given : Given) → List String → LevelRead
  | given, [] => .complete given
  | given, word :: rest =>
    match word.toList with
    | ['-', '-'] =>
      match rest with
      | [] => .complete given
      | [text] => match addArgument level given text with
        | some given => .complete given
        | none => .refused
      | _ => .refused
    | '-' :: '-' :: flag =>
      match readFlag level given flag with
      | .given given => readWords level given rest
      | .help => .help
      | .version => .version
      | .refused => .refused
      | .needsValue name =>
        match rest with
        | value :: rest =>
          if looksLikeValue value then
            match addFlag given name value with
            | some given => readWords level given rest
            | none => .refused
          else .refused
        | [] => .refused
    | '-' :: 'h' :: _ => .help
    | '-' :: 'V' :: _ => if level.hasVersion then .version else .refused
    | '-' :: _ :: _ => .refused
    | _ =>
      if level.commands.any (·.1 = word) then .enter given word rest
      else match addArgument level given word with
        | some given => readWords level given rest
        | none => .refused

def limit? (given : Given) : Option Nat :=
  (given.value? "limit").bind (Number.naturalBelow? Number.wordBound)

def command? (path : List String) (given : Given) : Option Command :=
  match path with
  | ["memento", "serve"] => some .serve
  | ["memento", "model", "download"] => some .downloadModel
  | ["memento", "search"] => some (.search given.argument (given.value? "project")
      ((given.value? "type").getD "all") (limit? given) (given.has "full"))
  | ["memento", "stats"] => some (.stats (given.value? "project"))
  | ["memento", "cleanup"] => some (.cleanup (given.value? "project"))
  | ["memento", "reembed"] => some .reembed
  | _ => none

def helpAbout (path words : List String) : Parsed :=
  match level? (path ++ words) with
  | some level => .shown level.help
  | none =>
    match words.getLast?, level? (path ++ words.dropLast) with
    | some "help", some level => if level.commands.isEmpty then .refused else .shown level.helpOnHelp
    | _, _ => .refused

/-- Commands are nested at most as deep as there are words. A settings file that is named
further down wins. -/
def readLevel : (depth : Nat) → Level → (settingsFile : Option String) → List String → Parsed
  | 0, _, _, _ => .refused
  | depth + 1, level, settingsFile, words =>
    match readWords level {} words with
    | .help => .shown level.help
    | .version => .shown version
    | .refused => .refused
    | .enter _ "help" rest => helpAbout level.path rest
    | .enter given name rest =>
      match level? (level.path ++ [name]) with
      | some level => readLevel depth level (given.value? "config" <|> settingsFile) rest
      | none => .refused
    | .complete given =>
      match command? level.path given with
      | some command => .command (given.value? "config" <|> settingsFile) command
      | none => .refused

def parse (words : List String) : Parsed := readLevel (words.length + 1) topLevel none words

end Recall.CommandLine
