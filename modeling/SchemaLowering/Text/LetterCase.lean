import SchemaLowering.Text.CaseTable

/-!
Upper and lower case of characters and texts, with the letters that turn into several characters.
A capital sigma is lowered to its final form at the end of a word.
-/

namespace SchemaLowering.Text

/-- The code point a letter shifts to under one row of a case table. -/
def CaseShift.shifted? (row : CaseShift) (code : Nat) : Option Nat :=
  if row.first ≤ code ∧ code ≤ row.last ∧ (code - row.first) % row.step = 0 then
    some (Int.toNat (code + row.shift))
  else none

/-- One character under a case mapping: its expansion, else its shift, else itself. -/
def mapCase (expansions : List (Nat × List Nat)) (shifts : List CaseShift) (c : Char) :
    List Char :=
  match expansions.lookup c.toNat with
  | some codes => codes.map Char.ofNat
  | none =>
    match shifts.findSome? (·.shifted? c.toNat) with
    | some code => [Char.ofNat code]
    | none => [c]

/-- The upper case of one character. -/
def upperChar (c : Char) : List Char :=
  mapCase upperExpansions upperShifts c

/-- The lower case of one character that stands alone. -/
def lowerChar (c : Char) : List Char :=
  mapCase lowerExpansions lowerShifts c

/-- Whether the first character that is not skipped has letter case. -/
def startsCased (cs : List Char) : Bool :=
  match cs.dropWhile (CharRange.anyContains caseIgnorableRanges) with
  | [] => false
  | c :: _ => CharRange.anyContains casedRanges c

/-- A sigma is final after a cased letter, unless another one follows. The characters before it
are given nearest first. -/
def isFinalSigma (before after : List Char) : Bool :=
  startsCased before && !startsCased after

/-- Lower case of a text that continues the characters `before`, given nearest first. -/
def lowerAfter (before : List Char) : List Char → List Char
  | [] => []
  | c :: rest =>
    (if c = 'Σ' then [if isFinalSigma before rest then 'ς' else 'σ'] else lowerChar c)
      ++ lowerAfter (c :: before) rest

/-- The lower case of a whole text. -/
def lower (text : String) : String :=
  String.ofList (lowerAfter [] text.toList)

/-- The text with its first character in upper case (`upper_first`). -/
def upperFirst (text : String) : String :=
  match text.toList with
  | [] => ""
  | c :: rest => String.ofList (upperChar c ++ rest)

/-- The text with its first character in lower case (`lower_first`). -/
def lowerFirst (text : String) : String :=
  match text.toList with
  | [] => ""
  | c :: rest => String.ofList (lowerChar c ++ rest)

end SchemaLowering.Text
