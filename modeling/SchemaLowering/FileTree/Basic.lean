import SchemaLowering.FileTree.Path
import SchemaLowering.Text.Utf8

/-!
A tree of directories and files, and what programs do with it. Paths are followed from directory to
directory, so that every step must exist.
-/

namespace SchemaLowering

/-- What a file holds: a text, or bytes that are none. -/
inductive Content where
  | text (value : String)
  | bytes (value : List UInt8)
  deriving DecidableEq, Repr

def Content.ofBytes (bytes : List UInt8) : Content :=
  match Text.decode bytes with
  | .ok decoded => .text decoded
  | .error _ => .bytes bytes

/-- The content for display. -/
def Content.shown : Content → String
  | .text value => value
  | .bytes value => Text.decodeShowing value

/-- The content read as text, with unified line ends. -/
def Content.read : Content → Except Text.DecodeError String
  | .text value => .ok (String.ofList (Text.unifyLineEnds value.toList))
  | .bytes value => (Text.decode value).map fun decoded =>
    String.ofList (Text.unifyLineEnds decoded.toList)

/-- Names from the top of the tree down. -/
abbrev Location := List String

/-- What a location can hold. There are no links, no other special files and no access rights. -/
inductive FileEntry where
  | directory
  | file (content : Content)
  deriving DecidableEq, Repr

def FileEntry.isFile : FileEntry → Bool
  | .file _ => true
  | .directory => false

/-- Why a file operation fails. -/
inductive FileFault where
  | missing
  | present
  | notDirectory
  | isDirectory
  | busy
  /-- A name or a path has too many bytes. -/
  | tooLong
  /-- More directories are missing than can be made at a time, or a pattern has more components than
  can be matched. -/
  | tooDeep
  /-- A path holds the character that ends texts inside the file system. -/
  | nullByte
  deriving DecidableEq, Repr

/-- The number of a fault that the file system itself reports. The others stop an operation before
the file system is asked. -/
def FileFault.code? : FileFault → Option Nat
  | .missing => some 2
  | .busy => some 16
  | .present => some 17
  | .notDirectory => some 20
  | .isDirectory => some 21
  | .tooLong => some 36
  | .tooDeep => none
  | .nullByte => none

def FileFault.message : FileFault → String
  | .missing => "No such file or directory"
  | .busy => "Device or resource busy"
  | .present => "File exists"
  | .notDirectory => "Not a directory"
  | .isDirectory => "Is a directory"
  | .tooLong => "File name too long"
  | .tooDeep => "maximum recursion depth exceeded"
  | .nullByte => "embedded null byte"

/-- A file operation that failed on a path. -/
structure FileError where
  fault : FileFault
  path : String
  deriving DecidableEq, Repr

def FileError.message (error : FileError) : String :=
  match error.fault.code? with
  | some code =>
    "[Errno " ++ toString code ++ "] " ++ error.fault.message ++ ": " ++ Text.quoted error.path
  | none => error.fault.message

/-- The most bytes that a name may have. -/
def nameLimit : Nat := 255

/-- The most bytes that the text of a path may have. -/
def pathLimit : Nat := 4095

/-- The most missing directories that are made at a time, and the most components of a pattern that
are matched. -/
def depthLimit : Nat := 985

/-- Whether the name of a file has more bytes than names may have. -/
def isLongName (name : String) : Bool :=
  nameLimit < name.utf8ByteSize

/-- Whether the text of a path has more bytes than paths may have. -/
def isLongPath (text : String) : Bool :=
  pathLimit < text.utf8ByteSize

/-- Whether the text of a path holds the character that no name can have. -/
def hasNull (text : String) : Bool :=
  text.toList.contains '\x00'

/-- Directories and files by location. The top of the tree is a directory without an entry. -/
structure FileTree where
  entries : List (Location × FileEntry)
  /-- Where relative paths start. -/
  workingDirectory : Location
  deriving DecidableEq, Repr

namespace FileTree

def find? (tree : FileTree) (location : Location) : Option FileEntry :=
  if location = [] then some .directory else tree.entries.lookup location

/-- Entries with one of them set. -/
def setEntry (location : Location) (entry : FileEntry) :
    List (Location × FileEntry) → List (Location × FileEntry)
  | [] => [(location, entry)]
  | (other, old) :: rest =>
    if other = location then (location, entry) :: rest
    else (other, old) :: setEntry location entry rest

def put (tree : FileTree) (location : Location) (entry : FileEntry) : FileTree :=
  { tree with entries := setEntry location entry tree.entries }

def erase (tree : FileTree) (location : Location) : FileTree :=
  { tree with entries := tree.entries.filter (·.1 ≠ location) }

/-- The location one component further on. -/
def stepInto (location : Location) (part : String) : Location :=
  if Path.isIdle part then location
  else if part = ".." then location.dropLast
  else location ++ [part]

/-- Follows components from a location. Every location that is left has to be a directory; the last
one need not exist. -/
def follow (tree : FileTree) (location : Location) : List String → Except FileFault Location
  | [] => .ok location
  | part :: rest =>
    match tree.find? location with
    | none => .error .missing
    | some (.file _) => .error .notDirectory
    | some .directory =>
      if isLongName part then .error .tooLong else tree.follow (stepInto location part) rest

/-- Where a path starts. -/
def start (tree : FileTree) (path : Path) : Location :=
  if path.isAbsolute then [] else tree.workingDirectory

/-- Where a path leads. -/
def locate (tree : FileTree) (path : Path) : Except FileFault Location :=
  if hasNull path.text then .error .nullByte
  else if isLongPath path.text then .error .tooLong
  else tree.follow (tree.start path) path.parts

/-- Where a text leads when its components are followed as they are written: a slash at its end asks
for a directory. -/
def locateText (tree : FileTree) (text : String) : Except FileFault Location :=
  if text = "" then .error .missing
  else if hasNull text then .error .nullByte
  else if isLongPath text then .error .tooLong
  else tree.follow (tree.start (Path.ofText text)) (Path.components text)

/-- What is at a location. -/
def entryIn (tree : FileTree) (location : Location) : Except FileFault FileEntry :=
  match tree.find? location with
  | some entry => .ok entry
  | none => .error .missing

/-- What a path leads to. -/
def entryAt (tree : FileTree) (path : Path) : Except FileFault FileEntry := do
  tree.entryIn (← tree.locate path)

/-- What a text leads to when its components are followed as they are written. -/
def entryAtText (tree : FileTree) (text : String) : Except FileFault FileEntry := do
  tree.entryIn (← tree.locateText text)

/-- What a path leads to, if anything. A path that is too long has no answer. -/
def probe (tree : FileTree) (path : Path) : Except FileError (Option FileEntry) :=
  match tree.entryAt path with
  | .ok entry => .ok (some entry)
  | .error .missing => .ok none
  | .error .notDirectory => .ok none
  | .error .nullByte => .ok none
  | .error fault => .error ⟨fault, path.text⟩

/-- Whether a path leads to anything (`Path.exists`). -/
def holds (tree : FileTree) (path : Path) : Except FileError Bool :=
  (tree.probe path).map Option.isSome

/-- Whether a path leads to a file (`Path.is_file`). -/
def isFile (tree : FileTree) (path : Path) : Except FileError Bool :=
  (tree.probe path).map (·.any FileEntry.isFile)

/-- The names in a directory. -/
def children (tree : FileTree) (location : Location) : List (String × FileEntry) :=
  tree.entries.filterMap fun (other, entry) =>
    if other.dropLast = location then other.getLast?.map (·, entry) else none

/-- Everything below a directory, by the names from it on. -/
def descendants (tree : FileTree) (location : Location) : List (Location × FileEntry) :=
  tree.entries.filterMap fun (other, entry) =>
    if location.isPrefixOf other && location.length < other.length then
      some (other.drop location.length, entry)
    else none

/-- Makes one directory. -/
def makeDirectory (tree : FileTree) (path : Path) : Except FileFault FileTree := do
  let location ← tree.locate path
  match tree.find? location with
  | some _ => throw .present
  | none => return tree.put location .directory

/-- How many components lead on from the last directory on the way that is there. -/
def missingLevels (tree : FileTree) (location : Location) : List String → Nat
  | [] => 0
  | part :: rest =>
    if (tree.find? (stepInto location part)).isSome then
      tree.missingLevels (stepInto location part) rest
    else rest.length + 1

/-- Goes along components from a directory, making the directories that are missing, and gives the
location at the end. `passed` holds the components before them. Directories made before a failure
stay. -/
def makeAlong (tree : FileTree) (root : String) (location : Location) (passed : List String) :
    List String → FileTree × Except FileError Location
  | [] => (tree, .ok location)
  | part :: rest =>
    let path : Path := ⟨root, passed ++ [part]⟩
    let next := stepInto location part
    if isLongName part then (tree, .error ⟨.tooLong, path.text⟩)
    else match tree.find? next with
      | some .directory => tree.makeAlong root next path.parts rest
      | some (.file _) => (tree, .error ⟨.present, path.text⟩)
      | none => (tree.put next .directory).makeAlong root next path.parts rest

/-- Makes a directory, unless it is there, and the ones above it that are missing, and gives its
location (`Path.mkdir` with `parents` and `exist_ok`). Nothing is made when something on the way is
no directory. -/
def makeDirectories (tree : FileTree) (path : Path) : FileTree × Except FileError Location :=
  match tree.locate path with
  | .error .missing =>
    if depthLimit < tree.missingLevels (tree.start path) path.parts then
      (tree, .error ⟨.tooDeep, path.text⟩)
    else tree.makeAlong path.root (tree.start path) [] path.parts
  | .error fault => (tree, .error ⟨fault, path.text⟩)
  | .ok location =>
    match tree.find? location with
    | some .directory => (tree, .ok location)
    | some (.file _) => (tree, .error ⟨.present, path.text⟩)
    | none => (tree.put location .directory, .ok location)

/-- Makes a directory that is not there yet, and the ones above it that are missing. -/
def makeNewDirectory (tree : FileTree) (path : Path) : FileTree × Except FileError Unit :=
  match tree.makeDirectory path with
  | .ok tree => (tree, .ok ())
  | .error .missing =>
    match tree.makeDirectories path.parent with
    | (tree, .error error) => (tree, .error error)
    | (tree, .ok _) =>
      match tree.makeDirectory path with
      | .ok tree => (tree, .ok ())
      | .error fault => (tree, .error ⟨fault, path.text⟩)
  | .error fault => (tree, .error ⟨fault, path.text⟩)

/-- The content of the file that a text leads to. -/
def readFile (tree : FileTree) (text : String) : Except FileError Content :=
  match tree.entryAtText text with
  | .ok (.file content) => .ok content
  | .ok .directory => .error ⟨.isDirectory, text⟩
  | .error fault => .error ⟨fault, text⟩

/-- Writes the file at a path in place (`Path.write_text`). -/
def writeFile (tree : FileTree) (path : Path) (content : Content) : Except FileError FileTree :=
  match tree.locate path with
  | .error fault => .error ⟨fault, path.text⟩
  | .ok location =>
    match tree.find? location with
    | some .directory => .error ⟨.isDirectory, path.text⟩
    | _ => .ok (tree.put location (.file content))

/-- Moves the file with the given content from a location to a path, in place of a file that is
there (`Path.replace`). No file takes the place of a directory, nor of one named by dots. -/
def moveFile (tree : FileTree) (source : Location) (content : Content) (path : Path) :
    Except FileError FileTree :=
  if path.name = "" ∨ path.name = ".." then .error ⟨.busy, path.text⟩
  else match tree.locate path with
    | .error fault => .error ⟨fault, path.text⟩
    | .ok location =>
      match tree.find? location with
      | some .directory => .error ⟨.isDirectory, path.text⟩
      | _ => .ok ((tree.erase source).put location (.file content))

/-- The length of the longest name in the tree. -/
def longestName (tree : FileTree) : Nat :=
  (tree.entries.map fun (location, _) => (location.getLast?.getD "").length).foldl max 0

/-- A name that no file has: it is longer than every name in the tree. -/
def freshName (tree : FileTree) (name : String) : String :=
  "." ++ name ++ "." ++ String.ofList (List.replicate tree.longestName '0') ++ ".tmp"

/-- The entries that are new or differ from an earlier state of the tree. -/
def changesSince (tree before : FileTree) : List (Location × FileEntry) :=
  tree.entries.filter fun (location, entry) => before.find? location ≠ some entry

end FileTree

end SchemaLowering
