/-!
Identifiers of the schema language: letters, digits and underscores of the basic alphabet.
-/

namespace SchemaLowering.Text

/-- A character that may stand in an identifier. -/
def isNameChar (c : Char) : Bool :=
  c.isAlphanum || c == '_'

/-- The character, or an underscore in place of one that no identifier holds. -/
def nameChar (c : Char) : Char :=
  if isNameChar c then c else '_'

/-- The identifier spelled like the text, with an underscore for every foreign character
(`sanitize_identifier`). -/
def identifier (text : String) : String :=
  String.ofList (text.toList.map nameChar)

theorem isNameChar_nameChar (c : Char) : isNameChar (nameChar c) = true := by
  unfold nameChar
  split
  · assumption
  · decide

theorem nameChar_of_isNameChar {c : Char} (h : isNameChar c = true) : nameChar c = c := by
  simp [nameChar, h]

/-- An identifier holds identifier characters only. -/
theorem isNameChar_of_mem_identifier {text : String} {c : Char}
    (member : c ∈ (identifier text).toList) : isNameChar c = true := by
  simp only [identifier, String.toList_ofList, List.mem_map] at member
  obtain ⟨source, _, rfl⟩ := member
  exact isNameChar_nameChar source

/-- A text of identifier characters is its own identifier. -/
theorem identifier_eq_self {text : String}
    (valid : ∀ c ∈ text.toList, isNameChar c = true) : identifier text = text := by
  have unchanged : text.toList.map nameChar = text.toList :=
    (List.map_congr_left fun c member => nameChar_of_isNameChar (valid c member)).trans
      (List.map_id _)
  simp [identifier, unchanged]

theorem identifier_identifier (text : String) :
    identifier (identifier text) = identifier text :=
  identifier_eq_self fun _ => isNameChar_of_mem_identifier

end SchemaLowering.Text
