import SchemaLowering.Proofs.ExpressionDepth
import SchemaLowering.Proofs.WrittenTexts

/-!
The type names in a text. Expressions, arguments and types of fields are made of identifiers, of
marks between them and of labels, which end in a colon; what is left without marks and labels are
names of types. Those in an expression are scalars of primitive shapes and names of the symbols that
the shape refers to, at any depth.
-/

namespace SchemaLowering

namespace Text

/-- Whether a character belongs to a word: one of an identifier, or the colon that makes it a
label. -/
def isWordChar (c : Char) : Bool :=
  isNameChar c || c == ':'

/-- The words that are no labels. -/
def unlabelled (chars : List Char) : List (List Char) :=
  (chars.splitOnP fun c => !isWordChar c).filter fun word => !word.isEmpty && !word.contains ':'

/-- The type names in a text: its words that are no labels. -/
def typeNames (text : String) : List String :=
  (unlabelled text.toList).map String.ofList

/-- Whether a text begins with a character that belongs to no word. -/
def opens (text : String) : Bool :=
  text.toList.head?.any fun c => !isWordChar c

/-- Whether a text ends in a character that belongs to no word. -/
def closes (text : String) : Bool :=
  text.toList.getLast?.any fun c => !isWordChar c

variable {first second separator text name : String}

/-- The words on both sides of a character that belongs to none are apart. -/
theorem unlabelled_break {c : Char} (breaks : (!isWordChar c) = true) (before after : List Char) :
    unlabelled (before ++ c :: after) = unlabelled before ++ unlabelled after := by
  unfold unlabelled
  rw [List.splitOnP_append_cons (p := fun c => !isWordChar c) before after breaks,
    List.filter_append]

theorem typeNames_append_of_opens (opened : opens second = true) :
    typeNames (first ++ second) = typeNames first ++ typeNames second := by
  obtain ⟨c, isHead, breaks⟩ := (Option.any_eq_true ..).mp opened
  obtain ⟨rest, spelled⟩ := List.head?_eq_some_iff.mp isHead
  have apart := unlabelled_break breaks first.toList rest
  have alone := unlabelled_break breaks [] rest
  rw [typeNames, typeNames, typeNames, String.toList_append, spelled, apart, ← List.map_append]
  exact congrArg (fun words => (unlabelled first.toList ++ words).map String.ofList) alone.symm

theorem typeNames_append_of_closes (closed : closes first = true) :
    typeNames (first ++ second) = typeNames first ++ typeNames second := by
  obtain ⟨c, isLast, breaks⟩ := (Option.any_eq_true ..).mp closed
  obtain ⟨rest, spelled⟩ := List.getLast?_eq_some_iff.mp isLast
  have apart := unlabelled_break breaks rest second.toList
  have alone : unlabelled (rest ++ [c]) = unlabelled rest :=
    (unlabelled_break breaks rest []).trans (List.append_nil _)
  rw [typeNames, typeNames, typeNames, String.toList_append, spelled, List.append_assoc,
    List.singleton_append, apart, alone, List.map_append]

/-- A text between two others that it keeps apart. -/
theorem typeNames_append_append (opened : opens separator = true)
    (closed : closes separator = true) :
    typeNames (first ++ separator ++ second)
      = typeNames first ++ typeNames separator ++ typeNames second := by
  rw [String.append_assoc, typeNames_append_of_opens, typeNames_append_of_closes closed,
    List.append_assoc]
  obtain ⟨c, isHead, breaks⟩ := (Option.any_eq_true ..).mp opened
  exact (Option.any_eq_true ..).mpr ⟨c, by simp [isHead], breaks⟩

/-- A text of identifier characters is one name. -/
theorem eq_of_mem_typeNames (named : ∀ c ∈ text.toList, isNameChar c = true)
    (written : name ∈ typeNames text) : name = text := by
  have single : text.toList.splitOnP (fun c => !isWordChar c) = [text.toList] :=
    List.splitOnP_eq_singleton fun c member => by simp [isWordChar, named c member]
  obtain ⟨word, isWord, rfl⟩ := List.mem_map.mp written
  rw [unlabelled, single] at isWord
  rw [List.mem_singleton.mp (List.mem_of_mem_filter isWord), String.ofList_toList]

/-- A label is no name. -/
theorem typeNames_label (named : ∀ c ∈ first.toList, isNameChar c = true) :
    typeNames (first ++ ": " ++ second) = typeNames second := by
  have single : (first.toList ++ [':']).splitOnP (fun c => !isWordChar c)
      = [first.toList ++ [':']] := by
    refine List.splitOnP_eq_singleton fun c member => ?_
    rcases List.mem_append.mp member with ofName | isColon
    · simp [isWordChar, named c ofName]
    · simp [isWordChar, List.mem_singleton.mp isColon]
  have labelled : unlabelled (first.toList ++ [':']) = [] := by
    rw [unlabelled, single]
    simp
  have spelled : (first ++ ": " ++ second).toList
      = (first.toList ++ [':']) ++ ' ' :: second.toList := by simp
  rw [typeNames, spelled, unlabelled_break (by decide), labelled, List.nil_append, typeNames]

theorem mem_typeNames_intercalate {texts : List String} (opened : opens separator = true)
    (closed : closes separator = true) (empty : typeNames separator = [])
    (written : name ∈ typeNames (separator.intercalate texts)) :
    ∃ text ∈ texts, name ∈ typeNames text := by
  induction texts with
  | nil =>
    have none : typeNames (separator.intercalate []) = [] := by
      rw [String.intercalate_nil]
      decide
    rw [none] at written
    cases written
  | cons first rest ih =>
    by_cases alone : rest = []
    · subst alone
      exact ⟨first, List.mem_cons_self, by simpa using written⟩
    rw [String.intercalate_cons_of_ne_nil alone, typeNames_append_append opened closed, empty,
      List.append_nil, List.mem_append] at written
    rcases written with ofFirst | ofRest
    · exact ⟨first, List.mem_cons_self, ofFirst⟩
    · obtain ⟨text, isText, ofText⟩ := ih ofRest
      exact ⟨text, List.mem_cons_of_mem _ isText, ofText⟩

end Text

namespace Expression

open Text

variable {ctx : Context} {name : String}

/-- The scalars that primitive shapes are written as. -/
def primitiveScalars : List String :=
  ["String", "Float", "Boolean"]

/-- The symbols that the expression of a shape names, by a recursion of bounded depth. -/
def referencesWithin (graph : Graph) : Nat → Option String → Node → List String
  | 0, _, _ => []
  | _ + 1, _, .reference target => [target]
  | depth + 1, origin, node =>
    (operands graph origin node).flatMap (referencesWithin graph depth none)

/-- The symbols that the expression of a shape names: the references in it, at any depth. -/
def references (ctx : Context) (node : Node) : List String :=
  referencesWithin ctx.graph (depthBound ctx node) none node

theorem operands_of_inlineMembers {graph : Graph} {origin : Option String} {node : Node}
    {members : List Property} (listed : Inheritance.inlineMembers graph origin node = .ok members) :
    operands graph origin node = Property.signatures members := by
  cases node with
  | object | interface => simp only [operands, listed]
  | _ => cases listed

/-- A name in a field that is written in place stands in its type. -/
theorem mem_typeNames_fieldText {label type : String}
    (written : name ∈ typeNames (fieldText label type)) : name ∈ typeNames type := by
  rwa [fieldText, typeNames_label fun c member => isNameChar_of_mem_identifier member] at written

theorem mem_typeNames_inlineText {options : Options}
    {lowerType : Node → Except LoweringError String} {members : List Property} {expression : String}
    (inlined : inlineText options lowerType members = .ok expression)
    (written : name ∈ typeNames expression) :
    name = "Boolean" ∨ ∃ type ∈ Property.signatures members, ∃ lowered,
      lowerType type = .ok lowered ∧ name ∈ typeNames lowered := by
  unfold inlineText at inlined
  split at inlined
  · obtain ⟨label, _, same⟩ := Traversal.bind_eq_ok.mp inlined
    cases same
    have boolean := mem_typeNames_fieldText written
    exact .inl (eq_of_mem_typeNames (List.all_eq_true.mp (by decide)) boolean)
  · obtain ⟨fields, lowered, same⟩ := Traversal.bind_eq_ok.mp inlined
    cases same
    obtain ⟨field, isField, ofField⟩ :=
      mem_typeNames_intercalate (by decide) (by decide) (by decide) written
    obtain ⟨member, isMember, ofMember⟩ := Traversal.exists_of_mem_results lowered isField
    cases signature : member.signature with
    | none =>
      rw [inlineField, signature] at ofMember
      cases ofMember
      cases mem_typeNames_fieldText ofField
    | some type =>
      rw [inlineField, signature] at ofMember
      obtain ⟨text, ofType, same⟩ := Traversal.bind_eq_ok.mp ofMember
      cases same
      refine .inr ⟨type, ?_, text, ofType, mem_typeNames_fieldText ofField⟩
      exact List.mem_flatMap.mpr ⟨member, isMember, by simp [signature]⟩

/-- A name in the expression of a shape is a scalar or names a symbol that the shape refers to. -/
theorem mem_typeNames_lowerWithin {depth : Nat} {origin : Option String} {node : Node}
    {expression : String} (lowered : lowerWithin ctx depth origin node = .ok expression)
    (written : name ∈ typeNames expression) :
    name ∈ primitiveScalars ∨
      ∃ target ∈ referencesWithin ctx.graph depth origin node, name = ctx.name target := by
  induction depth generalizing origin node expression with
  | zero => cases lowered
  | succ depth ih =>
    -- What stands in an operand is a reference of the whole.
    have inside : ∀ {part text}, part ∈ operands ctx.graph origin node →
        (∀ target, node ≠ .reference target) → lowerWithin ctx depth none part = .ok text →
        name ∈ typeNames text → name ∈ primitiveScalars ∨
          ∃ target ∈ referencesWithin ctx.graph (depth + 1) origin node,
            name = ctx.name target := by
      intro part text isOperand other ofPart inPart
      refine (ih ofPart inPart).imp_right ?_
      rintro ⟨target, isReference, named⟩
      refine ⟨target, ?_, named⟩
      rw [referencesWithin.eq_3 _ _ _ _ other]
      exact List.mem_flatMap.mpr ⟨part, isOperand, isReference⟩
    cases node with
    | primitive kind =>
      left
      cases kind with
      | any => cases lowered
      | _ =>
        cases lowered
        rw [eq_of_mem_typeNames (List.all_eq_true.mp (by decide)) written]
        decide
    | reference target =>
      cases lowered
      right
      refine ⟨target, List.mem_singleton_self _, ?_⟩
      exact eq_of_mem_typeNames (fun c member => Context.isNameChar_of_mem_name member) written
    | array elements =>
      obtain ⟨parts, each, same⟩ := Traversal.bind_eq_ok.mp lowered
      cases same
      rw [typeNames_append_of_opens (by decide), typeNames_append_of_closes (by decide)] at written
      have between : name ∈ typeNames (" | ".intercalate parts) := by
        have marks : typeNames "[" = [] ∧ typeNames "]" = [] := by decide
        simpa [marks] using written
      obtain ⟨part, isPart, inPart⟩ :=
        mem_typeNames_intercalate (by decide) (by decide) (by decide) between
      obtain ⟨element, isElement, ofElement⟩ := Traversal.exists_of_mem_results each isPart
      exact inside isElement (by simp) ofElement inPart
    | object _ | interface _ =>
      obtain ⟨found, listed, inlined⟩ := Traversal.bind_eq_ok.mp lowered
      rw [operands_of_inlineMembers listed] at inside
      rcases mem_typeNames_inlineText inlined written with
        rfl | ⟨type, isType, text, ofType, inType⟩
      · exact .inl (by decide)
      · exact inside isType (by simp) ofType inType
    | _ => cases lowered

end Expression

end SchemaLowering
