import Recall.Record.Observation
import Recall.Record.Prompt
import Recall.Record.Summary

/-!
Documents: the pieces of text under which a record can be found by meaning. A document's id
tells the kind and id of its record, the field that the text is from and, for a list of
texts, the position in the list.
-/

namespace Recall

structure DocumentMetadata where
  sourceId : Int
  docType : String
  field : String
  project : String
  scope : Option String
  deriving DecidableEq, Repr

structure Document where
  docId : String
  content : String
  metadata : DocumentMetadata
  deriving DecidableEq, Repr

namespace Document

def idStart : RecordKind → String
  | .observation => "obs"
  | .summary => "summary"
  | .prompt => "prompt"

def idOf (kind : RecordKind) (source : Int) (field : String) (index : Option Nat) : String :=
  let start := idStart kind ++ "_" ++ toString source ++ "_" ++ field
  match index with
  | some i => start ++ "_" ++ toString i
  | none => start

def make (kind : RecordKind) (source : Int) (project : String) (scope : Option Scope)
    (field : String) (index : Option Nat) (content : String) : Document := {
  docId := idOf kind source field index, content
  metadata := {
    sourceId := source, docType := kind.docType, field, project
    scope := scope.map Scope.name } }

def nonBlank (text : Option String) : Option String := text.filter (!Text.isBlank ·)

/-- The narrative and each fact; without these the title, or else the subtitle. -/
def ofObservation (o : Observation) : List Document :=
  let document := make .observation o.id o.project (some o.scope)
  let narrative := (nonBlank o.content.narrative).toList.map (document "narrative" none)
  let facts := o.content.facts.zipIdx.filterMap fun (fact, i) =>
    (nonBlank (some fact)).map (document "fact" (some i))
  let found := narrative ++ facts
  if !found.isEmpty then found
  else match nonBlank o.content.title, nonBlank o.content.subtitle with
    | some title, _ => [document "title" none title]
    | none, some subtitle => [document "subtitle" none subtitle]
    | none, none => []

def ofSummary (s : Summary) : List Document :=
  s.content.fields.map fun (field, text) => make .summary s.id s.project none field none text

def ofPrompt (p : Prompt) : List Document :=
  (nonBlank (some p.text)).toList.map (make .prompt p.id p.project none "prompt" none)

end Document

def DocumentMetadata.members (m : DocumentMetadata) : List (String × Json) := [
  ("source_id", .integer m.sourceId),
  ("doc_type", .text m.docType),
  ("field_type", .text m.field),
  ("project", .text m.project),
  ("scope", .ofOption .text m.scope)]

def Document.toJson (d : Document) : Json := .object [
  ("doc_id", .text d.docId),
  ("content", .text d.content),
  ("metadata", .object d.metadata.members)]

end Recall
