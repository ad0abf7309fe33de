/-!
Control sequences of terminals: an escape character and an opening bracket, then parameters,
intermediate characters and one final character. They mean nothing where no terminal reads the text.
-/

namespace SchemaLowering.Text

def isParameter (c : Char) : Bool :=
  '0' ≤ c && c ≤ '?'

def isIntermediate (c : Char) : Bool :=
  ' ' ≤ c && c ≤ '/'

def isFinal (c : Char) : Bool :=
  '@' ≤ c && c ≤ '~'

/-- How many characters the control sequence at the beginning of a text has. There may be none. -/
def controlLength : List Char → Nat
  | '\x1b' :: '[' :: rest =>
    let parameters := rest.takeWhile isParameter
    let behind := rest.dropWhile isParameter
    let intermediates := behind.takeWhile isIntermediate
    if (behind.dropWhile isIntermediate).head?.any isFinal then
      2 + parameters.length + intermediates.length + 1
    else 0
  | _ => 0

/-- Leaves out the control sequences of a text. The first `skipped` characters belong to one that
began before it. -/
def dropControls (skipped : Nat) : List Char → List Char
  | [] => []
  | c :: rest =>
    match skipped with
    | skipped + 1 => dropControls skipped rest
    | 0 =>
      match controlLength (c :: rest) with
      | 0 => c :: dropControls 0 rest
      | length + 1 => dropControls length rest

/-- The text without its control sequences. -/
def withoutControls (text : String) : String :=
  String.ofList (dropControls 0 text.toList)

end SchemaLowering.Text
