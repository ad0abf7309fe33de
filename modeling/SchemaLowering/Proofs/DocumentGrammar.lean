import SchemaLowering.TypeGraph.Reader

/-!
The format of type graph documents as a grammar. One table gives each form of a shape its fields and
the format of each. From the table come the rule that a part of a document has to obey by itself and
the parts inside it that have rules of their own. A part is well-formed when it obeys its rule and
everything inside it does so too, at any depth.
-/

namespace SchemaLowering

namespace NodeForm

/-- The word by which documents name a form. -/
def word : NodeForm → String
  | .primitive kind => kind.word
  | .literal => "string literal"
  | .reference => "reference"
  | .array => "array"
  | .enum => "enum"
  | .union => "union"
  | .alias => "alias"
  | .object => "literal object"
  | .interface => "interface"
  | .property => "property"
  | .method => "method"

def all : List NodeForm :=
  [.primitive .string, .primitive .number, .primitive .boolean, .primitive .any, .literal,
    .reference, .array, .enum, .union, .alias, .object, .interface, .property, .method]

/-- The form whose word is the `type` of an object. -/
def named? (members : Json.Members) : Option NodeForm :=
  match Json.field? members "type" with
  | some (.str word) => all.find? fun form => form.word == word
  | _ => none

theorem ofJson?_str (word : String) :
    ofJson? (.str word) = all.find? fun form => form.word == word := by
  by_cases known : word ∈ all.map NodeForm.word
  · obtain ⟨form, _, rfl⟩ := List.mem_map.mp known
    cases form with
    | primitive kind => cases kind <;> decide
    | _ => decide
  · have missed : (all.find? fun form => form.word == word) = none := by
      rw [List.find?_eq_none]
      intro form listed same
      exact known (List.mem_map.mpr ⟨form, listed, beq_iff_eq.mp same⟩)
    rw [missed]
    unfold ofJson?
    split
    case h_15 => rfl
    all_goals
      next same =>
      cases same
      exact absurd (by decide) known

theorem named?_eq (members : Json.Members) :
    named? members = ofJson? (Json.field members "type") := by
  unfold named? Json.field
  split
  · next word found => rw [found, Option.getD_some, ofJson?_str]
  · next other =>
    cases found : Json.field? members "type" with
    | none => rfl
    | some value =>
      cases value with
      | str word => exact absurd found (other word)
      | _ => rfl

end NodeForm

namespace Grammar

/-- What a part of a document is there for. -/
inductive Role where
  | node
  /-- A member of a shape with fields, of which only some may have methods. -/
  | member (methods : Bool)
  | documentation
  | tag
  deriving DecidableEq, Repr

/-- What a field has to hold. -/
inductive Format where
  | text
  /-- A list, which may be missing if it is not required. Its items are free or have a role. -/
  | list (required : Bool) (items : Option Role)
  | node
  /-- A node that may be missing or `null`. -/
  | optionalNode
  /-- An object of nodes, which may be missing. -/
  | namedNodes
  /-- Documentation, which may be missing or `null`. -/
  | documentation
  deriving DecidableEq, Repr

/-- The fields of each form. Fields that may hold anything are left out. -/
def fields : NodeForm → List (String × Format)
  | .primitive _ => []
  | .literal => [("value", .text)]
  | .reference => [("target", .text)]
  | .array => [("elements", .list true (some .node))]
  | .enum => [("values", .list true none)]
  | .union => [("types", .list true (some .node))]
  | .alias => [("target", .node), ("documentation", .documentation)]
  | .object => [("members", .list false (some (.member false)))]
  | .interface =>
    [("inherits", .list false none), ("members", .list false (some (.member true))),
      ("documentation", .documentation)]
  | .property =>
    [("name", .text), ("signature", .optionalNode), ("documentation", .documentation)]
  | .method =>
    [("name", .text), ("parameters", .namedNodes), ("returns", .optionalNode),
      ("documentation", .documentation)]

/-- Whether a form may stand among the members of a shape. -/
def isMember (methods : Bool) : NodeForm → Bool
  | .property => true
  | .method => methods
  | _ => false

/-- The fields that a part has in its role, if its `type` is one that the role knows. -/
def Role.fields? (members : Json.Members) : Role → Option (List (String × Format))
  | .node => (NodeForm.named? members).map fields
  | .member methods => ((NodeForm.named? members).filter (isMember methods)).map fields
  | .documentation => some [("tags", .list false (some .tag))]
  | .tag => some []

/-- Whether a field holds the right kind of value, where `none` is a missing field. What a node has
to be is a matter of its own rule. -/
def Format.admits : Format → Option Json → Bool
  | .text, some (.str _) => true
  | .list _ _, some (.arr _) => true
  | .list required _, none => !required
  | .node, _ => true
  | .optionalNode, _ => true
  | .namedNodes, some (.obj _) => true
  | .namedNodes, none => true
  | .documentation, some (.obj _) => true
  | .documentation, some .null => true
  | .documentation, none => true
  | _, _ => false

/-- The rule of a part by itself: an object of a known type whose fields hold the right kinds of
values. -/
def Role.admits (role : Role) : Json → Bool
  | .obj members =>
    (role.fields? members).any fun fields =>
      fields.all fun field => field.2.admits (Json.field? members field.1)
  | _ => false

/-- The parts with rules of their own in the value of a field, with the steps to them. -/
inductive Format.Part (value : Json) : Format → Place → Role → Json → Prop
  | node : Part value .node [] .node value
  | optionalNode (present : value ≠ .null) : Part value .optionalNode [] .node value
  | documentation (present : value ≠ .null) :
      Part value .documentation [] .documentation value
  | item {required : Bool} {role : Role} {position : Nat} {part : Json}
      (found : value.items[position]? = some part) :
      Part value (.list required (some role)) [.index position] role part
  | named {name : String} {part : Json} (member : (name, part) ∈ value.members) :
      Part value .namedNodes [.key name] .node part

/-- The parts with rules of their own directly inside a part. -/
inductive Role.Part : Role → Json → Place → Role → Json → Prop
  | field {role inner : Role} {members : Json.Members} {fields : List (String × Format)}
      {key : String} {format : Format} {steps : Place} {part : Json}
      (known : role.fields? members = some fields) (listed : (key, format) ∈ fields)
      (held : format.Part (Json.field members key) steps inner part) :
      Part role (.obj members) (.key key :: steps) inner part

/-- A part that obeys its rule, with everything inside it. -/
inductive WellFormed : Role → Json → Prop
  | intro {role : Role} {value : Json} (rule : role.admits value = true)
      (parts : ∀ steps inner part, role.Part value steps inner part → WellFormed inner part) :
      WellFormed role value

/-- The parts at any depth inside a part, itself included, with the steps to them. -/
inductive Within : Role → Json → Place → Role → Json → Prop
  | self {role : Role} {value : Json} : Within role value [] role value
  | step {role middle inner : Role} {value outer part : Json} {steps rest : Place}
      (first : role.Part value steps middle outer) (deeper : Within middle outer rest inner part) :
      Within role value (steps ++ rest) inner part

/-- A part at the given place breaks its own rule. -/
def Faulty (role : Role) (value : Json) (place : Place) : Prop :=
  ∃ inner part, Within role value place inner part ∧ inner.admits part = false

theorem WellFormed.admits_within {role inner : Role} {value part : Json} {place : Place}
    (formed : WellFormed role value) (within : Within role value place inner part) :
    inner.admits part = true := by
  induction within with
  | self =>
    cases formed with
    | intro rule _ => exact rule
  | step first _ ih =>
    cases formed with
    | intro _ parts => exact ih (parts _ _ _ first)

theorem WellFormed.not_faulty {role : Role} {value : Json} {place : Place}
    (formed : WellFormed role value) : ¬ Faulty role value place := by
  rintro ⟨inner, part, within, broken⟩
  have obeyed := formed.admits_within within
  rw [broken] at obeyed
  cases obeyed

theorem Faulty.of_rule {role : Role} {value : Json} (broken : role.admits value = false) :
    Faulty role value [] :=
  ⟨role, value, .self, broken⟩

theorem Faulty.of_part {role inner : Role} {value part : Json} {steps rest : Place}
    (first : role.Part value steps inner part) (faulty : Faulty inner part rest) :
    Faulty role value (steps ++ rest) := by
  obtain ⟨deepest, broken, within, breaks⟩ := faulty
  exact ⟨deepest, broken, .step first within, breaks⟩

end Grammar

namespace Json

/-- The keys and positions that lead to a part of a document. A missing member is `null`. -/
inductive Reaches : Json → Place → Json → Prop
  | self {value : Json} : Reaches value [] value
  | key {members : Members} {name : String} {inner part : Json} {place : Place}
      (member : (name, inner) ∈ members) (deeper : Reaches inner place part) :
      Reaches (.obj members) (.key name :: place) part
  | missing {members : Members} {name : String} (missing : field? members name = none) :
      Reaches (.obj members) [.key name] .null
  | index {items : List Json} {position : Nat} {inner part : Json} {place : Place}
      (found : items[position]? = some inner) (deeper : Reaches inner place part) :
      Reaches (.arr items) (.index position :: place) part

theorem Reaches.trans {value middle part : Json} {first second : Place}
    (reached : Reaches value first middle) (deeper : Reaches middle second part) :
    Reaches value (first ++ second) part := by
  induction reached with
  | self => exact deeper
  | key member _ ih => exact .key member (ih deeper)
  | missing absent =>
    cases deeper with
    | self => exact .missing absent
  | index found _ ih => exact .index found (ih deeper)

theorem reaches_field {members : Members} {key : String} {place : Place} {part : Json}
    (deeper : (field members key).Reaches place part) :
    (Json.obj members).Reaches (.key key :: place) part := by
  unfold field at deeper
  cases found : field? members key with
  | none =>
    rw [found, Option.getD_none] at deeper
    cases deeper with
    | self => exact .missing found
  | some value =>
    rw [found, Option.getD_some] at deeper
    exact .key (mem_of_field? found) deeper

end Json

namespace Grammar

theorem Format.Part.reaches {format : Format} {value part : Json} {steps : Place} {role : Role}
    (held : format.Part value steps role part) : value.Reaches steps part := by
  cases held with
  | node => exact .self
  | optionalNode _ => exact .self
  | documentation _ => exact .self
  | item found =>
    cases value with
    | arr items => exact .index found .self
    | _ => cases found
  | named member =>
    cases value with
    | obj members => exact .key member .self
    | _ => cases member

theorem Within.reaches {role inner : Role} {value part : Json} {place : Place}
    (within : Within role value place inner part) : value.Reaches place part := by
  induction within with
  | self => exact .self
  | step first _ ih =>
    cases first with
    | field _ _ held => exact (Json.reaches_field held.reaches).trans ih

end Grammar

end SchemaLowering
