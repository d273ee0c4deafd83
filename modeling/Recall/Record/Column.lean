import Recall.Json.Reader
import Recall.Record.Observation

namespace Recall

inductive ListColumn
  | facts
  | concepts
  | filesRead
  | filesModified
  | fileTimes
  deriving DecidableEq, Repr

namespace ListColumn

def ofName? : String → Option ListColumn
  | "facts" => some facts
  | "concepts" => some concepts
  | "files_read" => some filesRead
  | "files_modified" => some filesModified
  | "file_mtimes" => some fileTimes
  | _ => none

def textsIn (stored : String) : List String :=
  ((Json.parse? stored).bind (Json.asList? Json.asText?)).getD []

def timesIn (stored : String) : List (String × Int) :=
  ((Json.parse? stored).bind (Json.asMap? Json.asInteger?)).getD []

def read (column : ListColumn) (stored : String) (content : ObservationContent) :
    ObservationContent :=
  match column with
  | facts => { content with facts := textsIn stored }
  | concepts => { content with concepts := textsIn stored }
  | filesRead => { content with filesRead := textsIn stored }
  | filesModified => { content with filesModified := textsIn stored }
  | fileTimes => { content with fileTimes := timesIn stored }

end ListColumn

end Recall
