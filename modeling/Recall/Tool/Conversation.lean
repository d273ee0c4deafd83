import Recall.Json.Writer
import Recall.Tool.Call
import Recall.Tool.Catalog

namespace Recall.Tool

def reply (id result : Json) : Json :=
  .object [("jsonrpc", .text "2.0"), ("id", id), ("result", result)]

def fault (id : Json) (code : Int) (message : String) : Json := .object [
  ("jsonrpc", .text "2.0"),
  ("id", id),
  ("error", .object [("code", .integer code), ("message", .text message)])]

def methodNotFound : Int := -32601

def invalidParameters : Int := -32602

def greeting : Json := .object [
  ("protocolVersion", .text "2025-06-18"),
  ("capabilities", .object [("tools", .object [])]),
  ("serverInfo", .object [("name", .text "memento"), ("version", .text "0.1.0")]),
  ("instructions", .text instructions)]

def Parameter.schema (p : Parameter) : String × Json :=
  (p.name, .object [("type", .text p.type), ("description", .text p.description)])

def Description.toJson (d : Description) : Json := .object [
  ("name", .text d.name),
  ("description", .text d.text),
  ("inputSchema", .object ([
    ("type", .text "object"),
    ("properties", .object (d.parameters.map Parameter.schema))] ++
    d.requiredNames.toList.map fun names => ("required", .ofTexts names)))]

def announcement : Json := .object [("tools", .array (catalog.map Description.toJson))]

def Answer.toJson (answer : Answer) : Json :=
  let (text, isError) := match answer with
    | .data json => (json.render, false)
    | .refusal message => (message, true)
  .object [
    ("content", .array [.object [("type", .text "text"), ("text", .text text)]]),
    ("isError", .boolean isError)]

/-- Arguments that are left out are no arguments. -/
def argumentsOf (parameters : Json) : Json :=
  match parameters.member? "arguments" with
  | some .null | none => .object []
  | some arguments => arguments

/-- A call that ends with a crash gets no reply. -/
def answerCall (engine : Engine) (around : Surroundings) (id parameters : Json) :
    Engine × Option Json :=
  let called := do
    let name ← (parameters.member? "name").bind Json.asText?
    call engine around name (argumentsOf parameters)
  match called with
  | none => (engine, some (fault id invalidParameters "invalid tool call"))
  | some outcome =>
    (outcome.engine, outcome.result.toOption.map fun answer => reply id answer.toJson)

def answerRequest (engine : Engine) (around : Surroundings) (id : Json) (method : String)
    (parameters : Json) : Engine × Option Json :=
  match method with
  | "initialize" => (engine, some (reply id greeting))
  | "ping" => (engine, some (reply id (.object [])))
  | "tools/list" => (engine, some (reply id announcement))
  | "tools/call" => answerCall engine around id parameters
  | method => (engine, some (fault id methodNotFound s!"unknown method: {method}"))

def converse (engine : Engine) (around : Surroundings) (message : Json) :
    Engine × Option Json :=
  match message.member? "id", (message.member? "method").bind Json.asText? with
  | some id, some method =>
    answerRequest engine around id method ((message.member? "params").getD .null)
  | _, _ => (engine, none)

end Recall.Tool
