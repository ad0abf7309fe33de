import SchemaLowering.Text.Quoted

/-!
Texts from bytes. A byte sequence is read character by character; where no character can be read,
the bytes that rule it out are refused with the reason.
-/

namespace SchemaLowering.Text

/-- Why bytes are no character. -/
inductive ByteFault where
  | start
  | continuation
  | truncated
  deriving DecidableEq, Repr

def ByteFault.message : ByteFault → String
  | .start => "invalid start byte"
  | .continuation => "invalid continuation byte"
  | .truncated => "unexpected end of data"

/-- A character, or bytes that are none. -/
inductive BytePiece where
  | char (value : Char) (size : Nat)
  | invalid (bytes : List UInt8) (fault : ByteFault)

def BytePiece.size : BytePiece → Nat
  | .char _ size => size
  | .invalid bytes _ => bytes.length

def isContinuation (byte : UInt8) : Bool :=
  0x80 ≤ byte && byte ≤ 0xBF

/-- The number of bytes that a first byte announces. -/
def announcedSize? (byte : UInt8) : Option Nat :=
  if byte < 0x80 then some 1
  else if byte < 0xC2 then none
  else if byte < 0xE0 then some 2
  else if byte < 0xF0 then some 3
  else if byte < 0xF5 then some 4
  else none

/-- Whether the second byte may follow the first one. Some first bytes leave it a shorter range, so
that no character has two forms and halves of characters have none. -/
def acceptsSecond (first second : UInt8) : Bool :=
  isContinuation second &&
    (first != 0xE0 || 0xA0 ≤ second) && (first != 0xED || second < 0xA0) &&
    (first != 0xF0 || 0x90 ≤ second) && (first != 0xF4 || second < 0x90)

/-- The number of bytes after the first one that fit a character. -/
def fittingCount (first : UInt8) : List UInt8 → Nat
  | [] => 0
  | second :: rest =>
    if acceptsSecond first second then 1 + (rest.takeWhile isContinuation).length else 0

/-- The code point of a character's bytes. -/
def codePoint (first : UInt8) (rest : List UInt8) : Nat :=
  let lead := match rest.length with
    | 0 => first.toNat
    | 1 => first.toNat % 0x20
    | 2 => first.toNat % 0x10
    | _ => first.toNat % 0x08
  rest.foldl (fun code byte => code * 0x40 + byte.toNat % 0x40) lead

/-- The first piece of a byte sequence that begins with `first`. -/
def firstPiece (first : UInt8) (rest : List UInt8) : BytePiece :=
  match announcedSize? first with
  | none => .invalid [first] .start
  | some size =>
    let following := rest.take (size - 1)
    let fitting := fittingCount first following
    if size = 1 ∨ fitting = size - 1 then
      .char (Char.ofNat (codePoint first (rest.take (size - 1)))) size
    else if fitting = following.length then .invalid (first :: following) .truncated
    else .invalid (first :: following.take fitting) .continuation

/-- The pieces of a byte sequence. No piece is empty, so its length is fuel enough. -/
def bytePieces : Nat → List UInt8 → List BytePiece
  | 0, _ => []
  | _, [] => []
  | fuel + 1, first :: rest =>
    let piece := firstPiece first rest
    piece :: bytePieces fuel ((first :: rest).drop piece.size)

/-- Bytes that are no text: their place, and why. -/
structure DecodeError where
  position : Nat
  bytes : List UInt8
  fault : ByteFault
  deriving DecidableEq, Repr

def DecodeError.message (error : DecodeError) : String :=
  let place := match error.bytes with
    | [byte] =>
      "byte 0x" ++ String.ofList (hex 2 byte.toNat) ++ " in position " ++ toString error.position
    | bytes =>
      "bytes in position " ++ toString error.position ++ "-"
        ++ toString (error.position + bytes.length - 1)
  "'utf-8' codec can't decode " ++ place ++ ": " ++ error.fault.message

/-- The characters of pieces from a position on. -/
def decodePieces (position : Nat) : List BytePiece → Except DecodeError (List Char)
  | [] => .ok []
  | .char value size :: rest => do
    let chars ← decodePieces (position + size) rest
    return value :: chars
  | .invalid bytes fault :: _ => .error ⟨position, bytes, fault⟩

/-- The text of a byte sequence. -/
def decode (bytes : List UInt8) : Except DecodeError String :=
  (decodePieces 0 (bytePieces bytes.length bytes)).map String.ofList

/-- The text of a byte sequence, with every byte that is no part of a character shown by its
code. -/
def decodeShowing (bytes : List UInt8) : String :=
  String.ofList ((bytePieces bytes.length bytes).flatMap fun
    | .char value _ => [value]
    | .invalid bytes _ => bytes.flatMap fun byte => '\\' :: 'x' :: hex 2 byte.toNat)

/-- Line ends of all three usual forms as line feeds. -/
def unifyLineEnds : List Char → List Char
  | [] => []
  | '\r' :: '\n' :: rest => '\n' :: unifyLineEnds rest
  | c :: rest => (if c = '\r' then '\n' else c) :: unifyLineEnds rest

end SchemaLowering.Text
