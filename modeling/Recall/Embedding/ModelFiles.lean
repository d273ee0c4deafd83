import Recall.Digest.Sha256
import Recall.Failure

namespace Recall.Embedding

def modelFileName : String := "model.onnx"

def tokenizerFileName : String := "tokenizer.json"

structure ModelFiles where
  model : List UInt8
  tokenizer : List UInt8
  deriving DecidableEq, Repr

/-- Pieces of the size in which files are read. The fuel is the number of bytes. -/
def pieces (size : Nat) : (fuel : Nat) → List UInt8 → List (List UInt8)
  | 0, _ => []
  | _, [] => []
  | fuel + 1, bytes => bytes.take size :: pieces size fuel (bytes.drop size)

/-- What is hashed: the pieces of the one file and then those of the other. -/
def ModelFiles.hashedBytes (pieceSize : Nat) (files : ModelFiles) : List UInt8 :=
  (pieces pieceSize files.model.length files.model ++
    pieces pieceSize files.tokenizer.length files.tokenizer).flatten

def ModelFiles.fingerprint (files : ModelFiles) : String :=
  Digest.hexText ((Digest.sha256 (files.hashedBytes 65536)).take 6)

def ModelFiles.version (name : String) (files : ModelFiles) : String :=
  name ++ "@" ++ files.fingerprint

def locate (directory : String) (file : String → Option (List UInt8)) :
    Except Failure ModelFiles :=
  let path (name : String) := directory ++ "/" ++ name
  match file modelFileName, file tokenizerFileName with
  | none, _ => .error (.modelFileMissing (path modelFileName))
  | _, none => .error (.modelFileMissing (path tokenizerFileName))
  | some model, some tokenizer => .ok ⟨model, tokenizer⟩

inductive Provider
  | localModel (files : ModelFiles)
  | none
  deriving DecidableEq, Repr

def Provider.ofName (name directory : String) (file : String → Option (List UInt8)) :
    Except Failure Provider :=
  match name with
  | "local" => (locate directory file).map .localModel
  | "none" => .ok .none
  | name => .error (.unknownProvider name)

end Recall.Embedding
