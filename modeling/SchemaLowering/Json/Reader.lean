import SchemaLowering.Json.Basic

/-!
Reading JSON text. A text that is no document is refused with the complaint and the place of the
first character that does not fit. Beyond the standard, the names of the infinities and of the
value that is not a number are numbers. Whole numbers and nesting have limits.
-/

namespace SchemaLowering.Json

/-- What is wrong with a text. -/
inductive Complaint where
  | value
  | propertyName
  | colon
  | comma
  | unterminated
  | control
  | escape
  | unicodeEscape
  | extra
  | byteOrderMark
  deriving DecidableEq, Repr

def Complaint.message : Complaint → String
  | .value => "Expecting value"
  | .propertyName => "Expecting property name enclosed in double quotes"
  | .colon => "Expecting ':' delimiter"
  | .comma => "Expecting ',' delimiter"
  | .unterminated => "Unterminated string starting at"
  | .control => "Invalid control character at"
  | .escape => "Invalid \\escape"
  | .unicodeEscape => "Invalid \\uXXXX escape"
  | .extra => "Extra data"
  | .byteOrderMark => "Unexpected UTF-8 BOM (decode using utf-8-sig)"

/-- Why a text is not read on. -/
inductive Refusal where
  /-- A complaint and the number of characters left from its place on. -/
  | misplaced (complaint : Complaint) (left : Nat)
  /-- A whole number has too many digits. -/
  | longInteger (digits : Nat)
  /-- Lists and objects are nested too deeply. -/
  | tooDeep
  deriving DecidableEq, Repr

/-- The most digits that a whole number may have. -/
def digitLimit : Nat := 4300

/-- The most lists and objects that may stand inside one another. -/
def nestingLimit : Nat := 980

def refuse {α : Type} (complaint : Complaint) (place : List Char) : Except Refusal α :=
  .error (.misplaced complaint place.length)

def isBlank (c : Char) : Bool :=
  c = ' ' || c = '\t' || c = '\n' || c = '\r'

def skipBlanks (cs : List Char) : List Char :=
  cs.dropWhile isBlank

/-- The value of a digit in base sixteen. -/
def hexDigit? (c : Char) : Option Nat :=
  if '0' ≤ c ∧ c ≤ '9' then some (c.toNat - '0'.toNat)
  else if 'a' ≤ c ∧ c ≤ 'f' then some (c.toNat - 'a'.toNat + 10)
  else if 'A' ≤ c ∧ c ≤ 'F' then some (c.toNat - 'A'.toNat + 10)
  else none

/-- The unit spelled by four hexadecimal digits. -/
def hexUnit? (a b c d : Char) : Option Nat := do
  return (((← hexDigit? a) * 16 + (← hexDigit? b)) * 16 + (← hexDigit? c)) * 16 + (← hexDigit? d)

def isHighSurrogate (unit : Nat) : Bool := 0xD800 ≤ unit && unit ≤ 0xDBFF

def isLowSurrogate (unit : Nat) : Bool := 0xDC00 ≤ unit && unit ≤ 0xDFFF

/-- The characters of a sequence of code points in which a character may be split into a high and a
low half. A half without its partner stands for no character, so a mark is put in its place. A
reader that keeps the half passes on a text that no file can hold. -/
def joinHalves : List Nat → List Char
  | [] => []
  | [code] =>
    [if isHighSurrogate code || isLowSurrogate code then Char.ofNat 0xFFFD else Char.ofNat code]
  | high :: low :: rest =>
    if isHighSurrogate high && isLowSurrogate low then
      Char.ofNat (0x10000 + (high - 0xD800) * 0x400 + (low - 0xDC00)) :: joinHalves rest
    else if isHighSurrogate high || isLowSurrogate high then
      Char.ofNat 0xFFFD :: joinHalves (low :: rest)
    else Char.ofNat high :: joinHalves (low :: rest)

/-- The character that a letter after a backslash stands for. -/
def simpleEscape? (c : Char) : Option Char :=
  match c with
  | '"' => some '"'
  | '\\' => some '\\'
  | '/' => some '/'
  | 'b' => some (Char.ofNat 8)
  | 'f' => some (Char.ofNat 12)
  | 'n' => some '\n'
  | 'r' => some '\r'
  | 't' => some '\t'
  | _ => none

/-- The code points of a string up to its closing quote. `opening` is the number of characters left
from the opening quote on. The four digits of a code never end the text. -/
def readCodes (opening : Nat) : List Char → Except Refusal (List Nat × List Char)
  | [] => .error (.misplaced .unterminated opening)
  | '"' :: rest => .ok ([], rest)
  | ['\\'] => .error (.misplaced .unterminated opening)
  | '\\' :: 'u' :: a :: b :: c :: d :: rest =>
    match rest, hexUnit? a b c d with
    | _ :: _, some code => do
      let (codes, after) ← readCodes opening rest
      return (code :: codes, after)
    | _, _ => .error (.misplaced .unicodeEscape (rest.length + 5))
  | '\\' :: c :: rest =>
    if c = 'u' then .error (.misplaced .unicodeEscape (rest.length + 1))
    else match simpleEscape? c with
      | none => .error (.misplaced .escape (rest.length + 2))
      | some escaped => do
        let (codes, after) ← readCodes opening rest
        return (escaped.toNat :: codes, after)
  | c :: rest =>
    if c.toNat < 0x20 then .error (.misplaced .control (rest.length + 1))
    else do
      let (codes, after) ← readCodes opening rest
      return (c.toNat :: codes, after)

/-- A string, from the character after its opening quote on. -/
def readString (rest : List Char) : Except Refusal (String × List Char) := do
  let (codes, after) ← readCodes (rest.length + 1) rest
  return (String.ofList (joinHalves codes), after)

def isDigit (c : Char) : Bool := '0' ≤ c && c ≤ '9'

def naturalOf (digits : List Char) : Nat :=
  digits.foldl (fun n c => n * 10 + (c.toNat - '0'.toNat)) 0

/-- The digits before the point: a zero stands alone. -/
def wholeDigits? : List Char → Option (List Char × List Char)
  | '0' :: rest => some (['0'], rest)
  | cs =>
    let digits := cs.takeWhile isDigit
    if digits.isEmpty then none else some (digits, cs.dropWhile isDigit)

/-- The digits after a point, if at least one follows it. -/
def fractionDigits (cs : List Char) : List Char × List Char :=
  match cs with
  | '.' :: rest =>
    let digits := rest.takeWhile isDigit
    if digits.isEmpty then ([], cs) else (digits, rest.dropWhile isDigit)
  | _ => ([], cs)

/-- The power of ten after a number, if it has at least one digit. -/
def exponentPart (cs : List Char) : Option Int × List Char :=
  let unsigned (negative : Bool) (rest : List Char) : Option Int × List Char :=
    let digits := rest.takeWhile isDigit
    if digits.isEmpty then (none, cs)
    else
      let power : Int := naturalOf digits
      (some (if negative then -power else power), rest.dropWhile isDigit)
  match cs with
  | mark :: rest =>
    if mark = 'e' ∨ mark = 'E' then
      match rest with
      | '-' :: rest => unsigned true rest
      | '+' :: rest => unsigned false rest
      | rest => unsigned false rest
    else (none, cs)
  | [] => (none, cs)

/-- The longest number at the start of the text. Without fraction and exponent it is whole. -/
def readNumber (cs : List Char) : Except Refusal (Json × List Char) :=
  let (negative, unsigned) := match cs with
    | '-' :: rest => (true, rest)
    | _ => (false, cs)
  match wholeDigits? unsigned with
  | none => refuse .value cs
  | some (whole, afterWhole) =>
    let (fraction, afterFraction) := fractionDigits afterWhole
    let (power, after) := exponentPart afterFraction
    if fraction.isEmpty && power.isNone then
      let value : Int := naturalOf whole
      if digitLimit < whole.length then .error (.longInteger whole.length)
      else .ok (.int (if negative then -value else value), after)
    else
      let digits := naturalOf (whole ++ fraction)
      .ok (.float (.ofDecimal negative digits (power.getD 0 - fraction.length)), after)

/-- A name or a number. -/
def readScalar (cs : List Char) : Except Refusal (Json × List Char) :=
  match cs with
  | 'n' :: 'u' :: 'l' :: 'l' :: rest => .ok (.null, rest)
  | 't' :: 'r' :: 'u' :: 'e' :: rest => .ok (.bool true, rest)
  | 'f' :: 'a' :: 'l' :: 's' :: 'e' :: rest => .ok (.bool false, rest)
  | 'N' :: 'a' :: 'N' :: rest => .ok (.float .nan, rest)
  | 'I' :: 'n' :: 'f' :: 'i' :: 'n' :: 'i' :: 't' :: 'y' :: rest =>
    .ok (.float (.infinite false), rest)
  | '-' :: 'I' :: 'n' :: 'f' :: 'i' :: 'n' :: 'i' :: 't' :: 'y' :: rest =>
    .ok (.float (.infinite true), rest)
  | _ => readNumber cs

mutual

/-- A value at the start of the text, with at most `depth` lists and objects inside one another.
Every call takes at least one of two steps per character, so twice the length of the text is fuel
enough. -/
def readValue : Nat → Nat → List Char → Except Refusal (Json × List Char)
  | 0, _, cs => refuse .value cs
  | fuel + 1, depth, cs =>
    match cs with
    | '"' :: rest => do
      let (text, after) ← readString rest
      return (.str text, after)
    | '\x7b' :: rest =>
      match depth, skipBlanks rest with
      | 0, _ => .error .tooDeep
      | _ + 1, '\x7d' :: after => .ok (.obj [], after)
      | depth + 1, inner => readMembers fuel depth [] inner
    | '[' :: rest =>
      match depth, skipBlanks rest with
      | 0, _ => .error .tooDeep
      | _ + 1, ']' :: after => .ok (.arr [], after)
      | depth + 1, inner => readItems fuel depth [] inner
    | _ => readScalar cs

/-- The items of a list that is not empty, after the ones already read, given last first. -/
def readItems : Nat → Nat → List Json → List Char → Except Refusal (Json × List Char)
  | 0, _, _, cs => refuse .value cs
  | fuel + 1, depth, before, cs => do
    let (item, after) ← readValue fuel depth cs
    match skipBlanks after with
    | ']' :: rest => return (.arr (item :: before).reverse, rest)
    | ',' :: rest => readItems fuel depth (item :: before) (skipBlanks rest)
    | other => refuse .comma other

/-- The members of an object that is not empty, after the ones already read. -/
def readMembers : Nat → Nat → Members → List Char → Except Refusal (Json × List Char)
  | 0, _, _, cs => refuse .value cs
  | fuel + 1, depth, before, cs =>
    match cs with
    | '"' :: rest => do
      let (key, after) ← readString rest
      match skipBlanks after with
      | ':' :: rest =>
        let (value, after) ← readValue fuel depth (skipBlanks rest)
        let members := setField before key value
        match skipBlanks after with
        | '\x7d' :: rest => return (.obj members, rest)
        | ',' :: rest => readMembers fuel depth members (skipBlanks rest)
        | other => refuse .comma other
      | other => refuse .colon other
    | _ => refuse .propertyName cs

end

/-- A whole document, with blanks around it. -/
def readDocument (cs : List Char) : Except Refusal Json :=
  if cs.head? = some (Char.ofNat 0xFEFF) then refuse .byteOrderMark cs
  else do
    let (value, after) ← readValue (2 * cs.length + 2) nestingLimit (skipBlanks cs)
    match skipBlanks after with
    | [] => return value
    | extra => refuse .extra extra

/-- A complaint with its place in the text: the offset from zero, line and column from one. -/
structure SyntaxError where
  complaint : Complaint
  line : Nat
  column : Nat
  offset : Nat
  deriving DecidableEq, Repr

def SyntaxError.message (error : SyntaxError) : String :=
  error.complaint.message ++ ": line " ++ toString error.line ++ " column "
    ++ toString error.column ++ " (char " ++ toString error.offset ++ ")"

/-- The place of a complaint in the text that was read, given how many characters are left. -/
def Complaint.locate (complaint : Complaint) (cs : List Char) (left : Nat) : SyntaxError :=
  let offset := cs.length - left
  let before := cs.take offset
  { complaint
    line := before.count '\n' + 1
    column := (before.reverse.takeWhile (· ≠ '\n')).length + 1
    offset }

/-- Why a text gives no document. -/
inductive Unreadable where
  | malformed (error : SyntaxError)
  | longInteger (digits : Nat)
  | tooDeep
  deriving DecidableEq, Repr

def Unreadable.message : Unreadable → String
  | .malformed error => error.message
  | .longInteger digits =>
    "Exceeds the limit (" ++ toString digitLimit
      ++ " digits) for integer string conversion: value has " ++ toString digits
      ++ " digits; use sys.set_int_max_str_digits() to increase the limit"
  | .tooDeep => "maximum recursion depth exceeded"

def Refusal.explain (cs : List Char) : Refusal → Unreadable
  | .misplaced complaint left => .malformed (complaint.locate cs left)
  | .longInteger digits => .longInteger digits
  | .tooDeep => .tooDeep

/-- The document that a text holds. -/
def parse (text : String) : Except Unreadable Json :=
  (readDocument text.toList).mapError (·.explain text.toList)

end SchemaLowering.Json
