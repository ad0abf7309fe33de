import SchemaLowering.Proofs.InheritedMembers
import SchemaLowering.Proofs.Pass

/-!
The characters that a schema is written with. Line breaks and braces give a schema its layout. Names
and type expressions never hold one, so inside a line they can only come from a text that is written
as it is: a value of an enum, a fixed text, a description of a remark, the name of a member or the
placeholder.
-/

namespace SchemaLowering

namespace Text

/-- The characters that give a schema its layout. -/
def layoutChars : List Char :=
  ['\n', '\x7b', '\x7d']

/-- A text without any character of the layout. -/
def Plain (text : String) : Prop :=
  ∀ c ∈ text.toList, c ∉ layoutChars

instance (text : String) : Decidable (Plain text) :=
  decidable_of_iff (text.toList.all fun c => !layoutChars.contains c) (by simp [Plain])

/-- A text without a certain character. -/
def Lacks (c : Char) (text : String) : Prop :=
  c ∉ text.toList

instance (c : Char) (text : String) : Decidable (Lacks c text) :=
  decidable_of_iff (!text.toList.contains c) (by simp [Lacks])

variable {c : Char} {text : String}

theorem Plain.lacks (plain : Plain text) (layout : c ∈ layoutChars) : Lacks c text :=
  fun member => plain c member layout

theorem plain_empty : Plain "" := by decide

theorem plain_append {first second : String} :
    Plain (first ++ second) ↔ Plain first ∧ Plain second := by
  simp only [Plain, String.toList_append, List.forall_mem_append]

theorem lacks_append {first second : String} :
    Lacks c (first ++ second) ↔ Lacks c first ∧ Lacks c second := by
  simp only [Lacks, String.toList_append, List.mem_append, not_or]

theorem mem_intercalate {separator : String} {texts : List String}
    (member : c ∈ (separator.intercalate texts).toList) :
    c ∈ separator.toList ∨ ∃ text ∈ texts, c ∈ text.toList := by
  induction texts with
  | nil => simp at member
  | cons first rest ih =>
    by_cases alone : rest = []
    · subst alone
      exact .inr ⟨first, List.mem_cons_self, by simpa using member⟩
    rw [String.intercalate_cons_of_ne_nil alone, String.toList_append, String.toList_append,
      List.mem_append, List.mem_append] at member
    rcases member with (ofFirst | between) | ofRest
    · exact .inr ⟨first, List.mem_cons_self, ofFirst⟩
    · exact .inl between
    · rcases ih ofRest with between | ⟨text, isText, member⟩
      · exact .inl between
      · exact .inr ⟨text, List.mem_cons_of_mem _ isText, member⟩

theorem plain_intercalate {separator : String} {texts : List String} (between : Plain separator)
    (each : ∀ text ∈ texts, Plain text) : Plain (separator.intercalate texts) := by
  intro c member
  rcases mem_intercalate member with member | ⟨text, isText, member⟩
  · exact between c member
  · exact each text isText c member

theorem lacks_intercalate {separator : String} {texts : List String} (between : Lacks c separator)
    (each : ∀ text ∈ texts, Lacks c text) : Lacks c (separator.intercalate texts) := by
  intro member
  rcases mem_intercalate member with member | ⟨text, isText, member⟩
  · exact between member
  · exact each text isText member

theorem lacks_join {texts : List String} (each : ∀ text ∈ texts, Lacks c text) :
    Lacks c (String.join texts) := by
  intro member
  rw [String.toList_join, List.mem_flatMap] at member
  obtain ⟨text, isText, member⟩ := member
  exact each text isText member

theorem plain_of_isNameChar (named : ∀ c ∈ text.toList, isNameChar c = true) : Plain text := by
  intro c member layout
  have isName := named c member
  simp only [layoutChars, List.mem_cons, List.not_mem_nil, or_false] at layout
  rcases layout with rfl | rfl | rfl
  · exact absurd isName (by decide)
  · exact absurd isName (by decide)
  · exact absurd isName (by decide)

theorem plain_identifier (text : String) : Plain (identifier text) :=
  plain_of_isNameChar fun _ => isNameChar_of_mem_identifier

theorem toNat_lt_of_isNameChar {c : Char} (named : isNameChar c = true) : c.toNat < 128 := by
  delta isNameChar Char.isAlphanum Char.isAlpha Char.isUpper Char.isLower Char.isDigit at named
  simp only [Bool.or_eq_true, Bool.and_eq_true, decide_eq_true_eq, beq_iff_eq,
    UInt32.le_iff_toNat_le, ge_iff_le] at named
  change (((65 ≤ c.toNat ∧ c.toNat ≤ 90) ∨ 97 ≤ c.toNat ∧ c.toNat ≤ 122) ∨
    48 ≤ c.toNat ∧ c.toNat ≤ 57) ∨ c = '_' at named
  rcases named with range | rfl
  · omega
  · decide

/-- Upper case leads from identifier characters to identifier characters, and so does lower case. -/
theorem isNameChar_of_mem_case {c d : Char} (named : isNameChar c = true)
    (member : d ∈ upperChar c ∨ d ∈ lowerChar c) : isNameChar d = true := by
  have each : ∀ n < 128, isNameChar (Char.ofNat n) = true →
      (upperChar (Char.ofNat n) ++ lowerChar (Char.ofNat n)).all isNameChar = true := by
    decide +kernel
  have small := each c.toNat (toNat_lt_of_isNameChar named)
  rw [Char.ofNat_toNat, List.all_eq_true] at small
  exact small named d (List.mem_append.mpr member)

/-- An identifier keeps to identifier characters when its first one changes case. -/
theorem plain_upperFirst (named : ∀ c ∈ text.toList, isNameChar c = true) :
    Plain (upperFirst text) := by
  apply plain_of_isNameChar
  unfold upperFirst
  split
  · simp
  · next first rest characters =>
    rw [characters, List.forall_mem_cons] at named
    rw [String.toList_ofList, List.forall_mem_append]
    exact ⟨fun d member => isNameChar_of_mem_case named.1 (.inl member), named.2⟩

theorem plain_lowerFirst (named : ∀ c ∈ text.toList, isNameChar c = true) :
    Plain (lowerFirst text) := by
  apply plain_of_isNameChar
  unfold lowerFirst
  split
  · simp
  · next first rest characters =>
    rw [characters, List.forall_mem_cons] at named
    rw [String.toList_ofList, List.forall_mem_append]
    exact ⟨fun d member => isNameChar_of_mem_case named.1 (.inr member), named.2⟩

end Text

/-- The descriptions of the remarks of a documentation block. -/
def descriptions (documentation : Option Documentation) : List String :=
  (documentation.getD []).map (·.description)

mutual

/-- The texts of a shape that may be written as they are: values of enums, fixed texts, names of
members and descriptions of remarks. -/
def Node.freeTexts : Node → List String
  | .primitive _ | .reference _ => []
  | .literal value => [value]
  | .array elements => nodesFreeTexts elements
  | .enum values => values
  | .union types => nodesFreeTexts types
  | .object members => propertiesFreeTexts members
  | .alias target documentation => target.freeTexts ++ descriptions documentation
  | .interface declaration => declaration.freeTexts
  | .member declaration => declaration.freeTexts

def nodesFreeTexts : List Node → List String
  | [] => []
  | node :: rest => node.freeTexts ++ nodesFreeTexts rest

def optionalFreeTexts : Option Node → List String
  | none => []
  | some node => node.freeTexts

def parametersFreeTexts : List (String × Node) → List String
  | [] => []
  | (_, node) :: rest => node.freeTexts ++ parametersFreeTexts rest

def Property.freeTexts : Property → List String
  | ⟨name, signature, _, documentation⟩ =>
    name :: (optionalFreeTexts signature ++ descriptions documentation)

def propertiesFreeTexts : List Property → List String
  | [] => []
  | property :: rest => property.freeTexts ++ propertiesFreeTexts rest

def Method.freeTexts : Method → List String
  | ⟨name, parameters, returns, _, documentation⟩ =>
    name :: (parametersFreeTexts parameters ++ optionalFreeTexts returns
      ++ descriptions documentation)

def Member.freeTexts : Member → List String
  | .property declaration => declaration.freeTexts
  | .method declaration => declaration.freeTexts

def membersFreeTexts : List Member → List String
  | [] => []
  | member :: rest => member.freeTexts ++ membersFreeTexts rest

def Interface.freeTexts : Interface → List String
  | ⟨members, _, _, documentation⟩ => membersFreeTexts members ++ descriptions documentation

end

theorem nodesFreeTexts_eq_flatMap (nodes : List Node) :
    nodesFreeTexts nodes = nodes.flatMap Node.freeTexts := by
  induction nodes with
  | nil => rfl
  | cons node rest ih => rw [nodesFreeTexts, ih, List.flatMap_cons]

theorem membersFreeTexts_eq_flatMap (members : List Member) :
    membersFreeTexts members = members.flatMap Member.freeTexts := by
  induction members with
  | nil => rfl
  | cons member rest ih => rw [membersFreeTexts, ih, List.flatMap_cons]

theorem Member.name_mem_freeTexts (member : Member) : member.name ∈ member.freeTexts := by
  cases member with
  | property declaration =>
    cases declaration
    exact List.mem_cons_self
  | method declaration =>
    cases declaration
    exact List.mem_cons_self

theorem Member.descriptions_subset_freeTexts (member : Member) :
    descriptions member.documentation ⊆ member.freeTexts := by
  intro text described
  cases member with
  | property declaration =>
    cases declaration
    exact List.mem_cons_of_mem _ (List.mem_append_right _ described)
  | method declaration =>
    cases declaration
    exact List.mem_cons_of_mem _ (List.mem_append_right _ described)

theorem Interface.member_subset_freeTexts {declaration : Interface} {member : Member}
    (own : member ∈ declaration.members) : member.freeTexts ⊆ declaration.freeTexts := by
  intro text written
  cases declaration
  rw [freeTexts, membersFreeTexts_eq_flatMap]
  exact List.mem_append_left _ (List.mem_flatMap.mpr ⟨member, own, written⟩)

theorem Interface.descriptions_subset_freeTexts (declaration : Interface) :
    descriptions declaration.documentation ⊆ declaration.freeTexts := by
  cases declaration
  exact List.subset_append_right _ _

/-- The texts of a graph that may be written as they are. -/
def Graph.freeTexts (graph : Graph) : List String :=
  graph.entries.flatMap (·.2.freeTexts)

/-- A graph and options none of whose texts that may be written as they are holds a character. -/
structure Graph.Avoids (options : Options) (graph : Graph) (c : Char) : Prop where
  texts : ∀ text ∈ graph.freeTexts, Text.Lacks c text
  placeholder : Text.Lacks c options.placeholder.text

instance (options : Options) (graph : Graph) (c : Char) : Decidable (graph.Avoids options c) :=
  decidable_of_iff
    ((∀ text ∈ graph.freeTexts, Text.Lacks c text) ∧ Text.Lacks c options.placeholder.text)
    ⟨fun both => ⟨both.1, both.2⟩, fun avoids => ⟨avoids.texts, avoids.placeholder⟩⟩

namespace Graph.Avoids

variable {options : Options} {graph : Graph} {c : Char}

theorem entry (avoids : graph.Avoids options c) {entry : String × Node}
    (member : entry ∈ graph.entries) : ∀ text ∈ entry.2.freeTexts, Text.Lacks c text :=
  fun text written => avoids.texts text (List.mem_flatMap.mpr ⟨entry, member, written⟩)

theorem found (avoids : graph.Avoids options c) {symbol : String} {node : Node}
    (found : graph.find? symbol = some node) : ∀ text ∈ node.freeTexts, Text.Lacks c text :=
  avoids.entry (mem_entries_of_find? found)

/-- The name and the remarks of a member that a declaration shows lack the character. -/
theorem shown {ctx : Context} (avoids : ctx.graph.Avoids ctx.options c) {origin : Option String}
    {declaration : Interface} {members : List Member}
    (own : ∀ text ∈ declaration.freeTexts, Text.Lacks c text)
    (shown : Inheritance.shownMembers ctx origin declaration = .ok members) {member : Member}
    (chosen : member ∈ members) :
    Text.Lacks c member.name ∧
      ∀ text ∈ descriptions member.documentation, Text.Lacks c text := by
  suffices standIn : (∃ name, ctx.options.placeholder = .str name ∧
      member = .property (Inheritance.placeholder name)) ∨
      ∀ text ∈ member.freeTexts, Text.Lacks c text by
    rcases standIn with ⟨name, given, rfl⟩ | lacks
    · have named := avoids.placeholder
      rw [given] at named
      exact ⟨named, by simp [descriptions, Inheritance.placeholder, Member.documentation]⟩
    · exact ⟨lacks _ member.name_mem_freeTexts,
        fun text described => lacks text (member.descriptions_subset_freeTexts described)⟩
  rcases Inheritance.mem_shownMembers shown chosen with standIn | own' | ⟨name, parent, found, own'⟩
  · exact .inl standIn
  · exact .inr fun text written => own text (Interface.member_subset_freeTexts own' written)
  · exact .inr fun text written =>
      avoids.found found text (Interface.member_subset_freeTexts own' written)

end Graph.Avoids

namespace Mark

variable {c : Char}

theorem text_mem_descriptions {documentation : Option Documentation} {mark : Mark}
    (member : mark ∈ ofDocumentation documentation) : mark.text ∈ descriptions documentation := by
  obtain ⟨tag, isTag, recognised⟩ := List.mem_filterMap.mp member
  unfold ofTag? at recognised
  split at recognised
  · obtain ⟨kind, _, rfl⟩ := Option.map_eq_some_iff.mp recognised
    exact List.mem_map.mpr ⟨tag, isTag, rfl⟩
  · cases recognised

theorem lacks_render (layout : c ∈ Text.layoutChars) {mark : Mark}
    (lacks : Text.Lacks c mark.text) : Text.Lacks c mark.render := by
  have payload : Text.Lacks c mark.payload := by
    intro member
    rw [Mark.payload, String.toList_ofList] at member
    exact lacks (List.mem_of_mem_drop member)
  unfold render
  split
  · exact Text.lacks_append.mpr ⟨Text.Plain.lacks (by decide) layout, payload⟩
  · exact Text.lacks_append.mpr ⟨Text.Plain.lacks (by decide) layout, payload⟩
  · rw [Text.lacks_append, Text.lacks_append]
    exact ⟨⟨Text.Plain.lacks (by decide) layout, payload⟩, Text.Plain.lacks (by decide) layout⟩
  · exact Text.Plain.lacks (by decide) layout

variable {marks : List Mark}

theorem lacks_renderKind (layout : c ∈ Text.layoutChars)
    (lacks : ∀ mark ∈ marks, Text.Lacks c mark.text) (kind : TagKind) :
    Text.Lacks c (String.join ((ofKind marks kind).map render)) := by
  apply Text.lacks_join
  intro text written
  obtain ⟨mark, chosen, rfl⟩ := List.mem_map.mp written
  exact lacks_render layout (lacks mark (List.mem_of_mem_filter chosen))

theorem lacks_renderCost (layout : c ∈ Text.layoutChars)
    (lacks : ∀ mark ∈ marks, Text.Lacks c mark.text) : Text.Lacks c (renderCost marks) := by
  unfold renderCost first?
  cases found : marks.find? (·.kind = .cost) with
  | none => exact Text.Plain.lacks (by decide) layout
  | some mark => exact lacks_render layout (lacks mark (List.mem_of_find?_eq_some found))

end Mark

namespace Context

theorem isNameChar_of_mem_name {ctx : Context} {symbol : String} {c : Char}
    (member : c ∈ (ctx.name symbol).toList) : Text.isNameChar c = true :=
  Text.isNameChar_of_mem_identifier member

theorem plain_name (ctx : Context) (symbol : String) : Text.Plain (ctx.name symbol) :=
  Text.plain_identifier _

end Context

namespace Expression

open Text

variable {ctx : Context}

theorem plain_fieldText {type : String} (name : String) (plain : Plain type) :
    Plain (fieldText name type) := by
  rw [fieldText, plain_append, plain_append]
  exact ⟨⟨plain_identifier name, by decide⟩, plain⟩

theorem plain_inlineText {options : Options} {lowerType : Node → Except LoweringError String}
    {members : List Property} {expression : String}
    (each : ∀ node expression, lowerType node = .ok expression → Plain expression)
    (inlined : inlineText options lowerType members = .ok expression) : Plain expression := by
  unfold inlineText at inlined
  split at inlined
  · obtain ⟨name, _, same⟩ := Traversal.bind_eq_ok.mp inlined
    cases same
    exact plain_fieldText name (by decide)
  · obtain ⟨fields, lowered, same⟩ := Traversal.bind_eq_ok.mp inlined
    cases same
    apply plain_intercalate (by decide)
    intro field isField
    obtain ⟨member, _, ofMember⟩ := Traversal.exists_of_mem_results lowered isField
    cases signature : member.signature with
    | none =>
      rw [inlineField, signature] at ofMember
      cases ofMember
      exact plain_fieldText member.name (by decide)
    | some node =>
      rw [inlineField, signature] at ofMember
      obtain ⟨type, ofType, same⟩ := Traversal.bind_eq_ok.mp ofMember
      cases same
      exact plain_fieldText member.name (each node type ofType)

/-- An expression consists of names and of marks between them. -/
theorem plain_lowerWithin {depth : Nat} {origin : Option String} {node : Node} {expression : String}
    (lowered : lowerWithin ctx depth origin node = .ok expression) : Plain expression := by
  induction depth generalizing origin node expression with
  | zero => cases lowered
  | succ depth ih =>
    cases node with
    | primitive kind =>
      cases kind with
      | any => cases lowered
      | _ =>
        cases lowered
        decide
    | reference target =>
      cases lowered
      exact ctx.plain_name target
    | array elements =>
      obtain ⟨parts, each, same⟩ := Traversal.bind_eq_ok.mp lowered
      cases same
      rw [plain_append, plain_append]
      refine ⟨⟨by decide, plain_intercalate (by decide) ?_⟩, by decide⟩
      intro part isPart
      obtain ⟨element, _, ofElement⟩ := Traversal.exists_of_mem_results each isPart
      exact ih ofElement
    | object members =>
      obtain ⟨members, _, inlined⟩ := Traversal.bind_eq_ok.mp lowered
      exact plain_inlineText (fun _ _ => ih) inlined
    | interface declaration =>
      obtain ⟨members, _, inlined⟩ := Traversal.bind_eq_ok.mp lowered
      exact plain_inlineText (fun _ _ => ih) inlined
    | _ => cases lowered

theorem plain_lower {node : Node} {expression : String}
    (lowered : lower ctx node = .ok expression) : Plain expression :=
  plain_lowerWithin lowered

theorem plain_lowerOptional {node : Option Node} {expression : String}
    (lowered : lowerOptional ctx node = .ok expression) : Plain expression := by
  cases node with
  | none =>
    cases lowered
    decide
  | some node => exact plain_lower lowered

end Expression

end SchemaLowering
