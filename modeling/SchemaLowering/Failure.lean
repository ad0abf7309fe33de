import SchemaLowering.FileTree.Basic
import SchemaLowering.Lowering.Error
import SchemaLowering.Sdl.Validation
import SchemaLowering.TypeGraph.LoadError

/-!
Everything that can go wrong between a file of a type graph and the file of its schema.
-/

namespace SchemaLowering

/-- Why a run, or one file of it, fails. -/
inductive Failure where
  | load (error : LoadError)
  | lowering (error : LoweringError)
  | defect (found : SchemaDefect)
  /-- The output file is there and must not be overwritten. -/
  | outputExists (path : String)
  | file (error : FileError)
  /-- A file holds no text. -/
  | decode (error : Text.DecodeError)
  /-- A file holds no document. -/
  | document (error : Json.Unreadable)
  | settings (error : SettingsError)
  /-- A part of a document is used as what it is not. -/
  | misuse (found : Misuse)

namespace Failure

def message : Failure → String
  | .load error => error.message
  | .lowering error => error.message
  | .defect found => found.message
  | .outputExists path =>
    "Output file already exists: " ++ path ++ ". Use force mode to overwrite."
  | .file error => error.message
  | .decode error => error.message
  | .document error => error.message
  | .settings error => error.message
  | .misuse _ => ""

/-- Whether a failure concerns one file only, so that a run goes on with the next one. -/
def isContained : Failure → Bool
  | .load _ => true
  | .lowering (.misuse _) => false
  | .lowering .endless => false
  | .lowering _ => true
  | .defect _ => true
  | .outputExists _ => true
  | .file error => error.fault.code?.isSome
  | .decode _ => false
  | .document _ => false
  | .settings _ => false
  | .misuse _ => false

/-- Whether a failure to read a file says that it holds no document. -/
def isNoDocument : Failure → Bool
  | .file error => error.fault.code?.isSome
  | .decode _ => true
  | .document (.malformed _) => true
  | _ => false

end Failure

end SchemaLowering
