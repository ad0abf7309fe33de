/-!
Paths: a root and the components after it. Empty components and single dots vanish; double dots
stay, because they mean what the directories say.
-/

namespace SchemaLowering

/-- A path in normal form, as `pathlib` keeps it. -/
structure Path where
  /-- Empty for a path that starts from the working directory. -/
  root : String
  parts : List String
  deriving DecidableEq, Repr

namespace Path

/-- Whether a component says nothing. -/
def isIdle (part : String) : Bool :=
  part = "" || part = "."

/-- The components of a text between its slashes. -/
def splitSlashes : List Char → List (List Char)
  | [] => [[]]
  | c :: rest =>
    match splitSlashes rest with
    | [] => [[c]]
    | head :: tail => if c = '/' then [] :: head :: tail else (c :: head) :: tail

def components (text : String) : List String :=
  (splitSlashes text.toList).map String.ofList

/-- The root that a text starts with. Two slashes are a root of their own. -/
def rootOf (text : String) : String :=
  match (text.toList.takeWhile (· = '/')).length with
  | 0 => ""
  | 2 => "//"
  | _ => "/"

/-- The path that a text spells. -/
def ofText (text : String) : Path :=
  { root := rootOf text
    parts := (components text).filter (!isIdle ·) }

/-- The shortest text of a path. -/
def text (path : Path) : String :=
  if path.root = "" ∧ path.parts = [] then "." else path.root ++ "/".intercalate path.parts

def isAbsolute (path : Path) : Bool :=
  path.root ≠ ""

/-- The path behind a further text. An absolute one replaces it. -/
def join (path : Path) (text : String) : Path :=
  let further := ofText text
  if further.isAbsolute then further else { path with parts := path.parts ++ further.parts }

/-- The path without its last component. -/
def parent (path : Path) : Path :=
  { path with parts := path.parts.dropLast }

/-- The last component. -/
def name (path : Path) : String :=
  path.parts.getLast?.getD ""

/-- A name without its last suffix. A dot at either end begins no suffix. -/
def stemOf (name : String) : String :=
  let reversed := name.toList.reverse
  let suffix := reversed.takeWhile (· ≠ '.')
  let rest := (reversed.dropWhile (· ≠ '.')).drop 1
  if suffix.isEmpty || rest.isEmpty then name else String.ofList rest.reverse

/-- The last component without its last suffix. -/
def stem (path : Path) : String :=
  stemOf path.name

/-- Components with double dots taken back lexically. -/
def withoutDots (before : List String) : List String → List String
  | [] => before
  | part :: rest =>
    if isIdle part then withoutDots before rest
    else if part = ".." then withoutDots before.dropLast rest
    else withoutDots (before ++ [part]) rest

end Path

end SchemaLowering
