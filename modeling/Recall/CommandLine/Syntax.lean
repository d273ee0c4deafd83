import Recall.Number.Fixed

namespace Recall.CommandLine

structure Flag where
  name : String
  /-- What the value is called in the help; a flag without it takes no value. -/
  valueName : Option String
  help : String
  deriving DecidableEq, Repr

structure Level where
  /-- The names that lead here. -/
  path : List String
  about : String
  flags : List Flag := []
  /-- A single optional argument, with its help. -/
  argument : Option (String × String) := none
  /-- The commands below this one, each with what it is about. -/
  commands : List (String × String) := []
  hasVersion : Bool := false
  deriving DecidableEq, Repr

def configFlag : Flag :=
  ⟨"config", some "CONFIG", "Config file (defaults to ~/.memento/config.toml)"⟩

def projectFlag (help : String) : Flag := ⟨"project", some "PROJECT", help⟩

def aboutHelp : String := "Print this message or the help of the given subcommand(s)"

def helpCommand : String × String := ("help", aboutHelp)

def topLevel : Level := {
  path := ["memento"]
  about := "Long-term memory MCP server for coding assistants"
  flags := [configFlag]
  commands := [
    ("serve", "Start the MCP server (stdio transport)"),
    ("model", "Manage the embedding model"),
    ("search", "Search stored memories"),
    ("stats", "Show record counts and vector index status"),
    ("cleanup", "Run retention passes now"),
    ("reembed", "Re-embed vectors written by a previous embedding model"),
    helpCommand]
  hasVersion := true }

def modelLevel : Level := {
  path := ["memento", "model"]
  about := "Manage the embedding model"
  flags := [configFlag]
  commands := [
    ("download", "Download the embedding model to the configured cache directory"),
    helpCommand] }

def searchLevel : Level := {
  path := ["memento", "search"]
  about := "Search stored memories"
  flags := [
    configFlag,
    projectFlag "Restrict to one project",
    ⟨"type", some "SEARCH_TYPE", "all, observations, sessions or prompts [default: all]"⟩,
    ⟨"limit", some "LIMIT", ""⟩,
    ⟨"full", none, "Print content, not just titles"⟩]
  argument := some ("QUERY", "Query text. Omit to list recent records") }

def plainLevel (path : List String) (about : String) (flags : List Flag) : Level :=
  { path := "memento" :: path, about, flags := configFlag :: flags }

def levels : List Level := [
  topLevel, modelLevel, searchLevel,
  plainLevel ["serve"] "Start the MCP server (stdio transport)" [],
  plainLevel ["model", "download"]
    "Download the embedding model to the configured cache directory" [],
  plainLevel ["stats"] "Show record counts and vector index status" [projectFlag ""],
  plainLevel ["cleanup"] "Run retention passes now" [projectFlag ""],
  plainLevel ["reembed"] "Re-embed vectors written by a previous embedding model" []]

def level? (path : List String) : Option Level := levels.find? (·.path = path)

namespace Level

def usage (level : Level) : String :=
  let tail := if !level.commands.isEmpty then " <COMMAND>"
    else match level.argument with
      | some (name, _) => s!" [{name}]"
      | none => ""
  "Usage: " ++ " ".intercalate level.path ++ " [OPTIONS]" ++ tail

def flagRow (flag : Flag) : String × String :=
  let value := match flag.valueName with
    | some name => s!" <{name}>"
    | none => ""
  (s!"      --{flag.name}{value}", flag.help)

def helpRows (level : Level) : List (String × String) :=
  level.flags.map flagRow ++ [("  -h, --help", "Print help")] ++
    (if level.hasVersion then [("  -V, --version", "Print version")] else [])

def rowsUnder (heading : String) (rows : List (String × String)) : String :=
  let width := rows.foldl (fun width row => max width row.1.length) 0
  heading ++ ":\n" ++ String.join (rows.map fun (name, help) =>
    Number.padRight width ' ' name ++ "  " ++ help ++ "\n")

def help (level : Level) : String :=
  let commands := if level.commands.isEmpty then []
    else [rowsUnder "Commands" (level.commands.map fun (name, about) => ("  " ++ name, about))]
  let arguments := match level.argument with
    | some (name, help) => [rowsUnder "Arguments" [(s!"  [{name}]", help)]]
    | none => []
  level.about ++ "\n\n" ++ level.usage ++ "\n\n" ++
    "\n".intercalate (commands ++ arguments ++ [rowsUnder "Options" level.helpRows])

def helpOnHelp (level : Level) : String :=
  aboutHelp ++ "\n\nUsage: " ++ " ".intercalate level.path ++ " help [COMMAND]...\n\n" ++
    rowsUnder "Arguments" [("  [COMMAND]...", "Print help for the subcommand(s)")]

end Level

def version : String := "memento 0.1.0\n"

end Recall.CommandLine
