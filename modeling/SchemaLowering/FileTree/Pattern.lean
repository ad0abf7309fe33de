import SchemaLowering.FileTree.Basic
import SchemaLowering.Text.Sorted

/-!
Patterns of paths: stars, question marks and character sets within a component, and two stars as a
whole component for any number of directories. Names that start with a dot are matched only by
components that do.
-/

namespace SchemaLowering

namespace Pattern

/-- A range of characters in a set, both ends included. -/
structure SetRange where
  first : Char
  last : Char
  deriving DecidableEq, Repr

/-- A set of characters between brackets. -/
structure CharSet where
  negated : Bool
  ranges : List SetRange
  deriving DecidableEq, Repr

def CharSet.holds (set : CharSet) (c : Char) : Bool :=
  (set.ranges.any fun range => range.first ≤ c && c ≤ range.last) != set.negated

/-- The pieces of a component. -/
inductive Piece where
  | star
  | any
  | set (set : CharSet)
  | char (value : Char)
  deriving DecidableEq, Repr

/-- Splits the inside of a set at the hyphens that make ranges. A hyphen makes one unless it is the
first character of a chunk, or follows a range. `held` is the chunk so far, last character first,
and `free` counts the characters before a hyphen may be met again. -/
def chunks (held : List Char) (free : Nat) : List Char → List (List Char)
  | [] => [held.reverse]
  | c :: rest =>
    match free with
    | 0 => if c = '-' then held.reverse :: chunks [] 2 rest else chunks (c :: held) 0 rest
    | free + 1 => chunks (c :: held) free rest

/-- A hyphen at the end of a set stands for itself. -/
def closeChunks : List (List Char) → List (List Char)
  | [] => []
  | [chunk, []] => [chunk ++ ['-']]
  | chunk :: rest => chunk :: closeChunks rest

/-- Joins the last two chunks when the range between them is empty, dropping its ends. -/
def joinEmptyRange (chunk : List Char) (later : List (List Char)) : List (List Char) :=
  match later with
  | next :: rest =>
    match chunk.getLast?, next.head? with
    | some low, some high =>
      if high < low then (chunk.dropLast ++ next.drop 1) :: rest else chunk :: later
    | _, _ => chunk :: later
  | [] => [chunk]

/-- Drops the empty ranges between chunks, the last one first. -/
def dropEmptyRanges (chunked : List (List Char)) : List (List Char) :=
  chunked.foldr joinEmptyRange []

/-- The ranges of a chunk and the ones after it: the last character of a chunk and the first of the
next one are the ends of a range. A hyphen that nothing precedes stands for itself. -/
def rangesOf : List (List Char) → List SetRange
  | [] => []
  | [chunk] => chunk.map fun c => ⟨c, c⟩
  | chunk :: next :: rest =>
    match chunk.getLast?, next with
    | some low, high :: after =>
      chunk.dropLast.map (fun c => ⟨c, c⟩) ++ ⟨low, high⟩ :: rangesOf (after :: rest)
    | _, _ => chunk.map (fun c => ⟨c, c⟩) ++ ⟨'-', '-'⟩ :: rangesOf (next :: rest)
termination_by chunked => chunked.length

/-- The set that the text between brackets describes. -/
def parseSet (inside : List Char) : Piece :=
  let chunked := if '-' ∈ inside then
      let first := if inside.head? = some '!' then 2 else 1
      dropEmptyRanges (closeChunks (chunks [] first inside))
    else [inside]
  match chunked with
  | ('!' :: chunk) :: rest => .set ⟨true, rangesOf (chunk :: rest)⟩
  | chunked => .set ⟨false, rangesOf chunked⟩

/-- The inside of a set and what follows its closing bracket. A bracket at the very beginning does
not close the set. -/
def splitSet (cs : List Char) : Option (List Char × List Char) :=
  let (mark, afterMark) := match cs with
    | '!' :: rest => (['!'], rest)
    | rest => ([], rest)
  let (bracket, afterBracket) := match afterMark with
    | ']' :: rest => ([']'], rest)
    | rest => ([], rest)
  let inner := afterBracket.takeWhile (· ≠ ']')
  match afterBracket.dropWhile (· ≠ ']') with
  | _ :: rest => some (mark ++ bracket ++ inner, rest)
  | [] => none

/-- The pieces of a component. An opening bracket that is never closed stands for itself. Every
piece takes at least one character, so the length of the component is fuel enough. -/
def parse : Nat → List Char → List Piece
  | 0, _ => []
  | _, [] => []
  | fuel + 1, c :: rest =>
    match c with
    | '*' => .star :: parse fuel rest
    | '?' => .any :: parse fuel rest
    | '[' =>
      match splitSet rest with
      | some (inside, after) => parseSet inside :: parse fuel after
      | none => .char '[' :: parse fuel rest
    | c => .char c :: parse fuel rest

/-- Whether a piece can stand for a character. -/
def Piece.takes (c : Char) : Piece → Bool
  | .star => true
  | .any => true
  | .set chosen => chosen.holds c
  | .char value => c = value

/-- For the pieces and each list of later ones, the longest first: whether they spell the empty
name. -/
def emptyRow : List Piece → List Bool
  | [] => [true]
  | piece :: pieces =>
    let later := emptyRow pieces
    (piece = .star && later.headD false) :: later

/-- For the pieces and each list of later ones, the longest first: whether they spell a character
and a name after it. The row says the same of the name alone. A star takes the character and goes
on, or takes none. -/
def nextRow (c : Char) : List Piece → List Bool → List Bool
  | [], _ => [false]
  | piece :: pieces, row =>
    let later := nextRow c pieces (row.drop 1)
    let here := if piece = .star then row.headD false || later.headD false
      else piece.takes c && (row.drop 1).headD false
    here :: later

/-- Whether the pieces spell the whole name. The rows of the name's ends are computed from the
shortest on, so that stars need no search. -/
def spells (pieces : List Piece) (name : List Char) : Bool :=
  (name.foldr (fun c row => nextRow c pieces row) (emptyRow pieces)).headD false

/-- Whether a text has characters with a special meaning. -/
def isMagic (text : String) : Bool :=
  text.toList.any fun c => c = '*' || c = '?' || c = '['

def isHidden (name : String) : Bool :=
  name.toList.head? = some '.'

/-- A component of a pattern. -/
inductive Component where
  /-- A name as it is. An empty one asks for a directory. -/
  | literal (name : String)
  | wild (hidden : Bool) (pieces : List Piece)
  /-- Any number of directories. -/
  | deep
  deriving DecidableEq, Repr

def Component.ofText (text : String) : Component :=
  if text = "**" then .deep
  else if isMagic text then .wild (isHidden text) (parse text.length text.toList)
  else .literal text

/-- The text behind a directory's, with a slash between them where none is. -/
def joinText (directory name : String) : String :=
  if directory = "" then name
  else if directory.toList.getLast? = some '/' then directory ++ name
  else directory ++ "/" ++ name

/-- Splits a text at its last slash (`os.path.split`). Slashes before it vanish, unless there is
nothing else. -/
def splitLast (text : String) : String × String :=
  let reversed := text.toList.reverse
  let last := (reversed.takeWhile (· ≠ '/')).reverse
  let head := reversed.dropWhile (· ≠ '/')
  let trimmed := head.dropWhile (· = '/')
  let kept := if trimmed.isEmpty then head else trimmed
  (String.ofList kept.reverse, String.ofList last)

/-- The part of a pattern before its first special character's component, and the components from
there on, last first. Every split shortens the text, so its length is fuel enough. -/
def components : Nat → String → String × List String
  | 0, text => (text, [])
  | fuel + 1, text =>
    let (directory, last) := splitLast text
    if isMagic directory then
      let (base, before) := components fuel directory
      (base, last :: before)
    else (directory, [last])

/-- The location of a directory that a text names. The empty text names the working directory. -/
def directoryAt? (tree : FileTree) (text : String) : Option Location :=
  match tree.locateText (if text = "" then "." else text) with
  | .ok location => if tree.find? location = some .directory then some location else none
  | .error _ => none

/-- Whether a text leads to anything. One that cannot be followed leads to nothing. -/
def leadsOn (tree : FileTree) (text : String) : Bool :=
  (tree.entryAtText text).toOption.isSome

/-- The names that a component matches in the directory named by a text (`_glob0`, `_glob1` and
`_glob2`). Components before the last one match directories only. No directories at all lead on from
any text, be it a directory's or not. Later releases of `_glob2` ask for a directory here. -/
def matchesIn (tree : FileTree) (isLast : Bool) (directory : String) : Component → List String
  | .literal "" =>
    if directory ≠ "" ∧ (directoryAt? tree directory).isSome then [""] else []
  | .literal name =>
    if leadsOn tree (joinText directory name) then [name] else []
  | .wild hidden pieces =>
    match directoryAt? tree directory with
    | none => []
    | some location =>
      (tree.children location).filterMap fun (name, entry) =>
        if (isLast || !entry.isFile) && (hidden || !isHidden name)
            && spells pieces name.toList then some name
        else none
  | .deep =>
    "" :: match directoryAt? tree directory with
      | none => []
      | some location =>
        (tree.descendants location).filterMap fun (names, entry) =>
          if (isLast || !entry.isFile) && !names.any isHidden then
            some ("/".intercalate names)
          else none

/-- The texts that a list of components matches from the given directories on. -/
def matchesFrom (tree : FileTree) : List String → List Component → List String
  | directories, [] => directories
  | directories, component :: rest =>
    let found := directories.flatMap fun directory =>
      (matchesIn tree rest.isEmpty directory component).map (joinText directory)
    matchesFrom tree found rest

/-- The directory from which a pattern is matched, and the components to be matched there. A pattern
without special characters is a text by itself. -/
def split (pattern : String) : String × List String :=
  if isMagic pattern then
    let (base, reversed) := components pattern.length pattern
    (base, reversed.reverse)
  else (pattern, [])

/-- The texts that a pattern matches, in no particular order (`glob.glob`, recursive). -/
def matchTexts (tree : FileTree) (pattern : String) : List String :=
  match split pattern with
  | (text, []) => if leadsOn tree text then [text] else []
  | (base, parts) => matchesFrom tree [base] (parts.map Component.ofText)

/-- What keeps a pattern from being matched. The directory where the matching starts is listed; a
name in it that no file can have is only searched for. -/
def fault? (pattern : String) : Option FileFault :=
  let (base, parts) := split pattern
  if depthLimit < parts.length then some .tooDeep
  else if parts ≠ [] ∧ hasNull base then some .nullByte
  else none

end Pattern

namespace FileTree

/-- The paths that lead to files. -/
def filesAmong (tree : FileTree) : List Path → Except FileError (List Path)
  | [] => .ok []
  | path :: rest => do
    let kept ← tree.isFile path
    let others ← tree.filesAmong rest
    return if kept then path :: others else others

/-- The files that a pattern matches, in the order of the texts they are matched as
(`BatchDriver.discover`). All of a tree is gone through, however deep it is; on a machine with a
bounded stack a tree of many hundred levels can be too deep for that. -/
def discover (tree : FileTree) (pattern : String) : Except FileError (List Path) :=
  match Pattern.fault? pattern with
  | some fault => .error ⟨fault, pattern⟩
  | none => tree.filesAmong ((Text.sortBy id (Pattern.matchTexts tree pattern)).map Path.ofText)

end FileTree

end SchemaLowering
