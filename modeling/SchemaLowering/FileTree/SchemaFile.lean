import SchemaLowering.Failure

/-!
Writing schema files: through a temporary file that replaces the target when all is well, or in
place. Every text can be written: a text is made of whole characters.
-/

namespace SchemaLowering

namespace FileTree

/-- Checks a schema text when asked to. -/
def checkIf (validate : Bool) (text : String) : Except Failure Unit :=
  if validate then (Validation.check text).mapError .defect else .ok ()

/-- How many bytes the name of a temporary file has beyond its target's. -/
def temporaryBytes : Nat := 14

/-- The absolute text of a path, with its last component as it is. Before it double dots are taken
back lexically (`abspath`), which leads to the same directory because there are no links. -/
def absoluteText (tree : FileTree) (path : Path) : String :=
  let root := if path.root = "//" then "//" else "/"
  root ++ "/".intercalate (Path.withoutDots (tree.start path) path.parent.parts ++ [path.name])

/-- What keeps a temporary file from being made beside a target. `mkstemp` asks for it by its
absolute text, however short the text of the target is. -/
def temporaryFault? (tree : FileTree) (path : Path) : Option FileFault :=
  if hasNull path.text then some .nullByte
  else if nameLimit < path.name.utf8ByteSize + temporaryBytes then some .tooLong
  else if pathLimit < (tree.absoluteText path).utf8ByteSize + temporaryBytes then some .tooLong
  else none

/-- Writes a schema to a temporary file beside its target and moves it there (`AtomicWriter.write`).
The directories above the target are made first and stay; the temporary file never does. -/
def writeAtomic (tree : FileTree) (path : Path) (text : String) (validate : Bool) :
    FileTree × Except Failure Unit :=
  match tree.makeDirectories path.parent with
  | (tree, .error error) => (tree, .error (.file error))
  | (tree, .ok directory) =>
    match tree.temporaryFault? path with
    | some fault => (tree, .error (.file ⟨fault, path.text⟩))
    | none =>
      let temporary := directory ++ [tree.freshName path.name]
      let filled := tree.put temporary (.file (.text text))
      match checkIf validate text with
      | .error failure => (filled.erase temporary, .error failure)
      | .ok () =>
        match filled.moveFile temporary (.text text) path with
        | .error error => (filled.erase temporary, .error (.file error))
        | .ok tree => (tree, .ok ())

/-- Writes a schema in place, after checking it (`AtomicWriter.write_direct`). -/
def writeDirect (tree : FileTree) (path : Path) (text : String) (validate : Bool) :
    FileTree × Except Failure Unit :=
  match checkIf validate text with
  | .error failure => (tree, .error failure)
  | .ok () =>
    match tree.makeDirectories path.parent with
    | (tree, .error error) => (tree, .error (.file error))
    | (tree, .ok _) =>
      match tree.writeFile path (.text text) with
      | .error error => (tree, .error (.file error))
      | .ok tree => (tree, .ok ())

/-- Refuses a path where something is. -/
def refuseExisting (tree : FileTree) (path : Path) : Except Failure Unit :=
  match tree.holds path with
  | .error error => .error (.file error)
  | .ok true => .error (.outputExists path.text)
  | .ok false => .ok ()

/-- Writes a schema through a temporary file unless something is at its path
(`AtomicWriter.write_if_not_exists`). -/
def writeNew (tree : FileTree) (path : Path) (text : String) (validate : Bool) :
    FileTree × Except Failure Unit :=
  match tree.refuseExisting path with
  | .error failure => (tree, .error failure)
  | .ok () => tree.writeAtomic path text validate

/-- Writes a schema as the output options say (`BatchDriver._write`). -/
def writeSchema (tree : FileTree) (output : OutputOptions) (path : Path) (text : String) :
    FileTree × Except Failure Unit :=
  let validate := output.validate.isTrue
  if output.atomic.isTrue then
    if output.mode.isForce then tree.writeAtomic path text validate
    else tree.writeNew path text validate
  else if output.mode.isForce then tree.writeDirect path text validate
  else match tree.refuseExisting path with
    | .error failure => (tree, .error failure)
    | .ok () => tree.writeDirect path text validate

end FileTree

end SchemaLowering
