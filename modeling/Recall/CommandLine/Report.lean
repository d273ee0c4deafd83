import Recall.CommandLine.Arguments
import Recall.Embedding.ModelFiles
import Recall.Engine
import Recall.Number.Fixed
import Recall.Settings.Load
import Recall.Text.Quoted

namespace Recall.CommandLine

structure Report where
  engine : Engine
  output : String
  evictions : List Eviction := []
  failure : Option Failure := none

def line (text : String) : String := text ++ "\n"

def withoutReturn (text : String) : String :=
  if text.toList.getLast? = some '\r' then String.ofList text.toList.dropLast else text

/-- A line feed ends a line, and so does a carriage return with a line feed. What stands
behind the last line feed is a line if it is not empty. -/
def lines (text : String) : List String :=
  let pieces := text.splitOn "\n"
  let last := pieces.getLast?.getD ""
  pieces.dropLast.map withoutReturn ++ (if last.isEmpty then [] else [last])

def itemReport (number : Nat) (item : SearchItem) : String :=
  let score := match item.score with
    | some score => s!" score: {Number.fixed 4 score}"
    | none => ""
  line s!"  {number}. [{item.kindName} #{item.id}] {item.title}{score}" ++
    line s!"     project: {item.project}" ++
    String.join (item.content.toList.flatMap fun content =>
      (lines content).map fun text => line ("     " ++ text)) ++
    line ""

def responseReport (response : SearchResponse) : String :=
  if response.results.isEmpty then line "No results found."
  else
    let strategy := match response.strategy with
      | .vector => "semantic + keyword"
      | .structured => "structured"
    line s!"Found {response.results.length} result(s) ({strategy})" ++ line "" ++
      String.join (response.results.zipIdx.map fun (item, i) => itemReport (i + 1) item)

def searchReport (engine : Engine) (request : SearchRequest) (now : Int) : Report :=
  let outcome := engine.search request now
  match outcome.result with
  | .ok response => { engine := outcome.engine, output := responseReport response }
  | .error failure => { engine := outcome.engine, output := "", failure := some failure }

def countsReport (settings : RetentionSettings) (s : Statistics) : String :=
  line s!"Memory Statistics ({s.project})" ++
    line (String.ofList (List.replicate 40 '=')) ++
    line s!"  Observations:        {s.observations} / {settings.observationsPerProject}" ++
    line (s!"  Global observations: {s.observationsEverywhere} / " ++
      toString settings.observationsEverywhere) ++
    line s!"  Session summaries:   {s.summaries}" ++
    line s!"  Prompts (all):       {s.prompts} / {settings.prompts}" ++
    line ""

def indexReport (engine : Engine) : Except Failure String :=
  match engine.index with
  | none => .ok (line "Vector index:          disabled")
  | some index => do
    let need ← index.rebuildNeed
    let documents ← index.count
    return line s!"Vector documents:      {documents}" ++
      (if need.needed then line s!"Index status:          needs rebuild ({need.reason})"
      else line "Index status:          up to date")

def statsReport (engine : Engine) (project : String) : Report :=
  let counts := countsReport engine.retention (engine.store.statistics project)
  match indexReport engine with
  | .ok text => { engine, output := counts ++ text }
  | .error failure => { engine, output := counts, failure := some failure }

def poolName : Pool → String
  | .project name => s!"Project({Text.quoted name})"
  | .everywhere => "Global"

def passLine (kind : RecordKind) (pool : Pool) (evicted : Nat) : String :=
  line ("  " ++ Number.padRight 12 ' ' kind.docType ++ " " ++
    Number.padRight 24 ' ' (poolName pool) ++ " evicted " ++ toString evicted)

def runPasses : List (RecordKind × Pool) → (total : Nat) → Report → Report
  | [], total, report =>
    { report with
      output := report.output ++ line s!"Cleanup complete: {total} record(s) evicted." }
  | (kind, pool) :: passes, total, report =>
    let outcome := report.engine.cleanup kind pool
    match outcome.result with
    | .error failure => { report with failure := some failure }
    | .ok ids => runPasses passes (total + ids.length) {
        engine := outcome.engine
        output := report.output ++ passLine kind pool ids.length
        evictions := report.evictions ++ outcome.evictions }

def cleanupReport (engine : Engine) (project : String) : Report :=
  runPasses [(.observation, .project project), (.observation, .everywhere),
    (.prompt, .everywhere)] 0 { engine, output := "" }

def reembedReport (engine : Engine) : Report :=
  match engine.index with
  | none => {
      engine
      output := line "Embeddings are disabled (embedding.provider = \x22none\x22); nothing to do." }
  | some index =>
    match index.stale with
    | .error failure => { engine, output := "", failure := some failure }
    | .ok [] => { engine, output := line s!"All vectors match model \x27{index.embedder.version}\x27." }
    | .ok stale =>
      let start := line
        s!"Re-embedding {stale.length} stale document(s) with model \x27{index.embedder.version}\x27..."
      match engine.reembed with
      | .ok (engine, updated) => {
          engine, output := start ++ line s!"Re-embedded {updated} document(s)." }
      | .error failure => { engine, output := start, failure := some failure }

def downloadReport (engine : Engine) (model directory : String) (isPresent : String → Bool) :
    Report :=
  let path (name : String) := directory ++ "/" ++ name
  let present (name : String) := line s!"{name} already present at {path name}"
  let missing (output name : String) : Report := {
    engine, output := output ++ line s!"Downloading {name}..."
    failure := some (.modelFileMissing (path name)) }
  if !isPresent Embedding.modelFileName then missing "" Embedding.modelFileName
  else if !isPresent Embedding.tokenizerFileName then
    missing (present Embedding.modelFileName) Embedding.tokenizerFileName
  else {
    engine
    output := present Embedding.modelFileName ++ present Embedding.tokenizerFileName ++
      line s!"Embedding model \x27{model}\x27 ready." }

structure Context where
  defaultProject : String
  model : String
  modelDirectory : String
  /-- The files that are in the model's directory. -/
  isPresent : String → Bool
  now : Int

def Command.report (engine : Engine) (context : Context) : Command → Report
  | serve => { engine, output := "" }
  | downloadModel =>
    downloadReport engine context.model context.modelDirectory context.isPresent
  | search query project type limit full =>
    match SearchType.parse type with
    | .error failure => { engine, output := "", failure := some failure }
    | .ok type =>
      let format := if full then Format.full else Format.index
      searchReport engine { query, project, type, limit, format } context.now
  | stats project => statsReport engine (project.getD context.defaultProject)
  | cleanup project => cleanupReport engine (project.getD context.defaultProject)
  | reembed => reembedReport (engine.atTime context.now)

end Recall.CommandLine
