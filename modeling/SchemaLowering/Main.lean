import SchemaLowering.Command.Run

/-!
The program. It looks at the files that its command line is about, runs the command on what it saw,
and stores what the command changed.
-/

namespace SchemaLowering

namespace Disk

def textAt (location : Location) : String :=
  "/" ++ "/".intercalate location

/-- What is at a location, with the content of files left out. -/
def look (location : Location) : IO (Option FileEntry) := do
  let path := (← IO.currentDir) / textAt location
  if ← path.isDir then return some .directory
  if ← path.pathExists then return some (.file (.text ""))
  return none

/-- Adds what is at some locations to the tree. -/
def see (tree : FileTree) (locations : List Location) : IO FileTree := do
  let mut seen := tree
  for location in locations do
    if location ≠ [] then
      if let some entry ← look location then seen := seen.put location entry
  return seen

/-- Adds everything below a directory to the tree. -/
partial def seeBelow (tree : FileTree) (location : Location) : IO FileTree := do
  let path := (← IO.currentDir) / textAt location
  let entries ← try path.readDir catch _ => pure #[]
  let mut seen := tree
  for entry in entries do
    let inner := location ++ [entry.fileName]
    if let some found ← look inner then
      seen := seen.put inner found
      if found = .directory then seen ← seeBelow seen inner
  return seen

/-- Fills in the content of a file. One that cannot be read counts as missing. -/
def fill (tree : FileTree) (path : Path) : IO FileTree := do
  match tree.locate path, tree.entryAt path with
  | .ok location, .ok (.file _) =>
    try
      let bytes ← IO.FS.readBinFile (textAt location)
      return tree.put location (.file (Content.ofBytes bytes.toList))
    catch _ => return tree.erase location
  | _, _ => return tree

/-- The locations above a location, and itself. -/
def above (location : Location) : List Location :=
  (List.range (location.length + 1)).map location.take

/-- The locations that a path passes on its way. -/
def along (tree : FileTree) (text : String) : List Location :=
  let start := if Path.rootOf text = "" then tree.workingDirectory else []
  let parts := Path.components text
  (List.range (parts.length + 1)).flatMap fun count =>
    above (Path.withoutDots start (parts.take count))

/-- The part of the file system that a command line is about. -/
def snapshot (words : List String) : IO FileTree := do
  let workingDirectory := (Path.ofText (← IO.currentDir).toString).parts
  let mut tree : FileTree := ⟨[], workingDirectory⟩
  match Command.readWords {} words with
  | none => return tree
  | some arguments =>
    let bases := arguments.words.map fun word => (Pattern.split word).1
    let texts := bases ++ arguments.words ++ arguments.config.toList
    tree ← see tree (texts.flatMap (along tree))
    for text in bases do
      if let some location := Pattern.directoryAt? tree text then tree ← seeBelow tree location
    for text in arguments.config.toList do
      tree ← fill tree (Path.ofText (Command.absolute tree text))
    for pattern in arguments.words.take 1 do
      if let .ok paths := tree.discover pattern then
        for path in paths do tree ← fill tree path
    return tree

def bytesOf : Content → ByteArray
  | .text value => value.toUTF8
  | .bytes value => ⟨value.toArray⟩

/-- Stores one change. A file takes the place of an older one in a single step. -/
def store (location : Location) : FileEntry → IO Unit
  | .directory => IO.FS.createDirAll (textAt location)
  | .file content => do
    let temporary := textAt (location.dropLast ++ ["." ++ location.getLast?.getD "" ++ ".tmp"])
    IO.FS.writeBinFile temporary (bytesOf content)
    IO.FS.rename temporary (textAt location)

end Disk

end SchemaLowering

def main (words : List String) : IO UInt32 := do
  let before ← SchemaLowering.Disk.snapshot words
  let outcome := SchemaLowering.Command.run before words
  for (location, entry) in outcome.tree.changesSince before do
    SchemaLowering.Disk.store location entry
  IO.print outcome.standardOutput
  IO.eprint outcome.standardError
  if let some failure := outcome.failure then IO.eprintln ("Error: " ++ failure.message)
  return UInt32.ofNat outcome.exitCode
