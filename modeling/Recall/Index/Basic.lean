import Recall.Embedding.Basic
import Recall.Index.Document
import Recall.Number.Order
import Recall.Store.Table
import Recall.Text.Blank

/-!
The vector index: a table of documents, a table of their embeddings, and the times at which
the documents were put in. Each document bears the version of the embedder that its vector is
from. An index may be out of reach, and then every request fails.
-/

namespace Recall

structure IndexedDocument where
  document : Document
  version : String
  deriving DecidableEq, Repr

/-- An index out of reach may still claim to be connected. -/
inductive Reach
  | online
  | failing
  | disconnected
  deriving DecidableEq, Repr

structure VectorIndex where
  embedder : Embedder
  reach : Reach := .online
  documents : List IndexedDocument := []
  embeddings : List (String × Embedding) := []
  /-- When each document was put in or was given its present vector. -/
  times : List (String × Int) := []
  /-- What time it is when a request is answered. -/
  clock : Int := 0

structure VectorFilter where
  docType : Option String
  project : Option String
  includeEverywhere : Bool
  deriving DecidableEq, Repr

structure VectorMatch where
  docId : String
  score : Float
  metadata : DocumentMetadata
  deriving DecidableEq, Repr

inductive RebuildNeed
  | upToDate
  | empty
  | otherVersions (documents : Nat)
  deriving DecidableEq, Repr

namespace RebuildNeed

def needed : RebuildNeed → Bool
  | upToDate => false
  | _ => true

def reason : RebuildNeed → String
  | upToDate => ""
  | empty => "empty"
  | otherVersions n => s!"model_mismatch:{n}"

def toJson (need : RebuildNeed) : Json :=
  .object [("needed", .boolean need.needed), ("reason", .text need.reason)]

end RebuildNeed

def VectorFilter.admits (filter : VectorFilter) (m : DocumentMetadata) : Bool :=
  filter.docType.all (· = m.docType) &&
    (filter.project.all (· = m.project) ||
      (filter.includeEverywhere && m.scope = some Scope.everywhere.name))

namespace VectorIndex

def batchSize : Nat := 32

/-- Consecutive pieces of `size` texts; the last one may be shorter. The fuel is the number
of texts. -/
def batches (size : Nat) : (fuel : Nat) → List α → List (List α)
  | 0, _ => []
  | _, [] => []
  | fuel + 1, items => items.take size :: batches size fuel (items.drop size)

def embedAll (embedder : Embedder) (texts : List String) : Except Failure (List Embedding) := do
  let embedded ← (batches batchSize texts.length texts).mapM embedder.embedBatch
  let vectors := embedded.flatten
  if vectors.length = texts.length then return vectors
  else .error (.vectorsMissing vectors.length texts.length)

def reopen (index : VectorIndex) (embedder : Embedder) : VectorIndex := { index with embedder }

def isConnected (index : VectorIndex) : Bool := index.reach ≠ .disconnected

def whenOnline (index : VectorIndex) (answer : Except Failure α) : Except Failure α :=
  if index.reach = .online then answer else .error .indexOffline

/-- The new document takes the last place, also when it replaces one. -/
def put (version : String) (index : VectorIndex) (entry : Document × Embedding) : VectorIndex :=
  let (document, vector) := entry
  { index with
    documents := index.documents.filter (·.document.docId ≠ document.docId) ++
      [⟨document, version⟩]
    embeddings := index.embeddings.filter (·.1 ≠ document.docId) ++
      [(document.docId, vector)]
    times := index.times.filter (·.1 ≠ document.docId) ++ [(document.docId, index.clock)] }

def add (index : VectorIndex) (documents : List Document) : Except Failure (VectorIndex × Nat) :=
  index.whenOnline <|
    if documents.isEmpty then .ok (index, 0)
    else do
      let vectors ← embedAll index.embedder (documents.map (·.content))
      return ((documents.zip vectors).foldl (put index.embedder.version) index,
        documents.length)

def without (index : VectorIndex) (docIds : List String) : VectorIndex :=
  { index with
    documents := index.documents.filter fun d => !(d.document.docId ∈ docIds)
    embeddings := index.embeddings.filter fun e => !(e.1 ∈ docIds)
    times := index.times.filter fun e => !(e.1 ∈ docIds) }

def remove (index : VectorIndex) (docIds : List String) : Except Failure (VectorIndex × Nat) :=
  index.whenOnline <|
    let rest := index.without docIds
    .ok (rest, index.documents.length - rest.documents.length)

def removeSources (index : VectorIndex) (docType : String) (sources : List Int) :
    Except Failure (VectorIndex × Nat) :=
  index.remove ((index.documents.filter fun d =>
    d.document.metadata.docType = docType && d.document.metadata.sourceId ∈ sources).map
      (·.document.docId))

def distances (index : VectorIndex) (vector : Embedding) (filter : VectorFilter) :
    List (IndexedDocument × Float) :=
  (index.documents.filter (filter.admits ·.document.metadata)).filterMap fun d =>
    (index.embeddings.find? (·.1 = d.document.docId)).map fun e =>
      (d, Embedding.distance e.2 vector)

/-- The nearest documents, best first. A blank text is near to nothing. -/
def query (index : VectorIndex) (text : String) (limit : Nat) (filter : VectorFilter) :
    Except Failure (List VectorMatch) :=
  index.whenOnline <|
    if Text.isBlank text || limit = 0 then .ok []
    else do
      let vector ← index.embedder.embed text
      let near := (index.distances vector filter).mergeSort fun a b =>
        Number.valueKey a.2 ≤ Number.valueKey b.2
      return (limited limit near).map fun (d, distance) =>
        ⟨d.document.docId, 1 - distance, d.document.metadata⟩

def count (index : VectorIndex) : Except Failure Nat :=
  index.whenOnline (.ok index.documents.length)

def isStale (index : VectorIndex) (d : IndexedDocument) : Bool :=
  d.version ≠ index.embedder.version

def staleDocuments (index : VectorIndex) : List Document :=
  (index.documents.filter index.isStale).map (·.document)

def stale (index : VectorIndex) : Except Failure (List Document) :=
  index.whenOnline (.ok (index.staleDocuments.mergeSort fun a b => a.docId ≤ b.docId))

def rebuildNeed (index : VectorIndex) : Except Failure RebuildNeed :=
  index.whenOnline <| .ok <|
    if index.documents.isEmpty then .empty
    else match index.staleDocuments.length with
      | 0 => .upToDate
      | n => .otherVersions n

def reembed (index : VectorIndex) : Except Failure (VectorIndex × Nat) :=
  index.add index.staleDocuments

end VectorIndex

end Recall
