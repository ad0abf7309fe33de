import SchemaLowering.Proofs.DocumentReading

/-!
The documents that are read. Every reader succeeds on a well-formed part only, and otherwise reports
a place inside it at which a part breaks its own rule. So a document is read exactly when the
grammar derives it, and errors lead to what is wrong.
-/

namespace SchemaLowering

namespace Loading

open Grammar

/-- A named part of an object is at fault. -/
def EntryFault (entries : List (String × Json)) (place : Place) : Prop :=
  ∃ name value rest, (name, value) ∈ entries ∧ place = .key name :: rest ∧ Faulty .node value rest

theorem Reads.entries {α : Type} {place : Place} {value : Json} {reading : Except LoadError α}
    (reads : Reads place (∀ entry ∈ value.members, WellFormed .node entry.2)
      (EntryFault value.members) reading) :
    Reads place (PartsFormed .namedNodes value) (PartFault .namedNodes value) reading := by
  refine reads.imp ?_ ?_
  · intro formed steps inner part held
    cases held with
    | named member => exact formed _ member
  · rintro _ ⟨name, part, rest, member, rfl, faulty⟩
    exact ⟨[.key name], .node, part, rest, .named member, rfl, faulty⟩

theorem known_node {members : Json.Members} {form : NodeForm}
    (named : NodeForm.named? members = some form) :
    Role.node.fields? members = some (fields form) := by
  rw [Role.fields?, named]
  rfl

theorem known_member (methods : Bool) {members : Json.Members} {form : NodeForm}
    (named : NodeForm.named? members = some form) (allowed : isMember methods form = true) :
    (Role.member methods).fields? members = some (fields form) := by
  rw [Role.fields?, named, Option.filter_some, if_pos allowed]
  rfl

/-- A member that is of no form for its role. -/
theorem faulty_member {value : Json} {methods : Bool}
    (unlike : ∀ form, NodeForm.named? value.members = some form → isMember methods form = false) :
    Faulty (.member methods) value [] := by
  apply faulty_of_unknown
  rw [Role.fields?]
  cases named : NodeForm.named? value.members with
  | none => rfl
  | some form =>
    rw [Option.filter_some, unlike form named]
    rfl

theorem obj_members {value : Json} {form : NodeForm}
    (named : NodeForm.named? value.members = some form) : Json.obj value.members = value := by
  cases value with
  | obj members => rfl
  | _ => cases named

-- The readers call each other on smaller values only, and the proof follows them: each form gives
-- its fields in the order in which they are read.
mutual

theorem reads_readNode (place : Place) (value : Json) :
    Reads place (WellFormed .node value) (Faulty .node value) (readNode place value) := by
  cases value with
  | obj members =>
    rw [readNode, ← NodeForm.named?_eq]
    cases named : NodeForm.named? members with
    | none =>
      refine .refuse _ (faulty_of_unknown ?_)
      rw [Role.fields?, Json.members, named]
      rfl
    | some form =>
      have known := known_node named
      cases form with
      | primitive kind => exact wellFormed_of_fields known (List.forall_mem_nil _)
      | literal => exact reads_plain_object known (checks_requireText ..) (partsFormed_text _) _
      | reference => exact reads_plain_object known (checks_requireText ..) (partsFormed_text _) _
      | array =>
        exact reads_list_object known (checks_requireList ..)
          (reads_readNodes _ 0 (Json.field members "elements").items) _
      | enum => exact reads_plain_object known (checks_requireList ..) (partsFormed_free _ _) _
      | union =>
        exact reads_list_object known (checks_requireList ..)
          (reads_readNodes _ 0 (Json.field members "types").items) _
      | object =>
        exact reads_list_object known (checks_optionalList ..)
          (reads_readProperties _ 0 (Json.field members "members").items) _
      | «alias» =>
        have target := reads_readNode (place ++ [.key "target"]) (Json.field members "target")
        refine (target.node.parts known List.mem_cons_self).bind ?_
        intro formed _
        refine (reads_readDocumentation known (by decide)).bind ?_
        intro documented _
        exact wellFormed_of_fields known
          (List.forall_mem_cons.mpr ⟨⟨rfl, formed⟩, List.forall_mem_singleton.mpr documented⟩)
      | interface =>
        refine ((checks_optionalList ..).field known List.mem_cons_self).bind ?_
        intro inherits _
        have listed : ("members", Format.list false (some (.member true))) ∈ fields .interface := by
          decide
        refine ((checks_optionalList ..).field known listed).bind ?_
        intro admitted _
        have declared := reads_readMembers (place ++ [.key "members"]) 0
          (Json.field members "members").items
        refine (declared.items.parts known listed).bind ?_
        intro formed _
        refine (reads_readDocumentation known (by decide)).bind ?_
        intro documented _
        exact wellFormed_of_fields known (List.forall_mem_cons.mpr
          ⟨⟨inherits, partsFormed_free _ _⟩, List.forall_mem_cons.mpr
            ⟨⟨admitted, formed⟩, List.forall_mem_singleton.mpr documented⟩⟩)
      | property => exact (reads_readProperty place members known).returning _
      | method => exact (reads_readMethod place members known).returning _
  | _ =>
    rw [readNode]
    · exact .refuse _ (.of_rule rfl)
    · intro members same
      cases same
termination_by (sizeOf value, 1)
decreasing_by
  · exact Prod.Lex.left _ _ (Json.sizeOf_fieldItems_lt _ _)
  · exact Prod.Lex.left _ _ (Json.sizeOf_fieldItems_lt _ _)
  · exact Prod.Lex.left _ _ (Json.sizeOf_field_lt _ _)
  · exact Prod.Lex.left _ _ (Json.sizeOf_fieldItems_lt _ _)
  · exact Prod.Lex.left _ _ (Json.sizeOf_fieldItems_lt _ _)
  · exact Prod.Lex.right _ Nat.zero_lt_one
  · exact Prod.Lex.right _ Nat.zero_lt_one

theorem reads_readNodes (place : Place) (position : Nat) (values : List Json) :
    Reads place (∀ value ∈ values, WellFormed .node value) (ItemFault .node values position)
      (readNodes place position values) := by
  cases values with
  | nil =>
    rw [readNodes]
    exact reads_nil []
  | cons value rest =>
    rw [readNodes]
    refine (reads_readNode _ value).cons ?_
    intro _
    exact (reads_readNodes place (position + 1) rest).returning _
termination_by (sizeOf values, 0)

theorem reads_readOptional (place : Place) (value : Json) :
    Reads place (PartsFormed .optionalNode value) (PartFault .optionalNode value)
      (readOptional place value) := by
  by_cases missing : value = .null
  · rw [missing, readOptional]
    intro steps inner part held
    cases held with
    | optionalNode present => exact absurd rfl present
  · rw [readOptional]
    · have node := reads_readNode place value
      refine (node.returning _).single (.optionalNode missing) ?_
      intro steps inner part held
      cases held with
      | optionalNode _ => exact ⟨rfl, rfl⟩
    · exact missing
termination_by (sizeOf value, 2)

theorem reads_readParameters (place : Place) (parameters : List (String × Json)) :
    Reads place (∀ entry ∈ parameters, WellFormed .node entry.2) (EntryFault parameters)
      (readParameters place parameters) := by
  cases parameters with
  | nil =>
    rw [readParameters]
    exact List.forall_mem_nil _
  | cons entry rest =>
    obtain ⟨name, value⟩ := entry
    rw [readParameters]
    have head : Reads place (WellFormed .node value) (EntryFault ((name, value) :: rest))
        (readNode (place ++ [.key name]) value) := by
      refine (reads_readNode (place ++ [.key name]) value).outside ?_
      intro deeper faulty
      exact ⟨name, value, deeper, List.mem_cons_self, rfl, faulty⟩
    refine head.bind ?_
    intro formed _
    refine ((reads_readParameters place rest).returning _).imp ?_ ?_
    · intro others
      exact List.forall_mem_cons.mpr ⟨formed, others⟩
    · rintro _ ⟨other, part, deeper, listed, rfl, faulty⟩
      exact ⟨other, part, deeper, List.mem_cons_of_mem _ listed, rfl, faulty⟩
termination_by (sizeOf parameters, 0)

theorem reads_readProperty {role : Role} (place : Place) (members : Json.Members)
    (known : role.fields? members = some (fields .property)) :
    Reads place (WellFormed role (.obj members)) (Faulty role (.obj members))
      (readProperty place members) := by
  rw [readProperty]
  refine ((checks_requireText ..).field known List.mem_cons_self).bind ?_
  intro named _
  have signature := reads_readOptional (place ++ [.key "signature"])
    (Json.field members "signature")
  refine (signature.parts known (by decide)).bind ?_
  intro formed _
  refine (reads_readDocumentation known (by decide)).bind ?_
  intro documented _
  exact wellFormed_of_fields known (List.forall_mem_cons.mpr
    ⟨⟨named, partsFormed_text _⟩, List.forall_mem_cons.mpr
      ⟨⟨rfl, formed⟩, List.forall_mem_singleton.mpr documented⟩⟩)
termination_by (sizeOf (Json.obj members), 0)
decreasing_by
  exact Prod.Lex.left _ _ (Json.sizeOf_field_lt _ _)

theorem reads_readMethod {role : Role} (place : Place) (members : Json.Members)
    (known : role.fields? members = some (fields .method)) :
    Reads place (WellFormed role (.obj members)) (Faulty role (.obj members))
      (readMethod place members) := by
  have listed : ("parameters", Format.namedNodes) ∈ fields .method := by decide
  rw [readMethod]
  refine ((checks_optionalParameters ..).field known listed).bind ?_
  intro admitted _
  refine ((checks_requireText ..).field known List.mem_cons_self).bind ?_
  intro named _
  have parameters := reads_readParameters (place ++ [.key "parameters"])
    (Json.field members "parameters").members
  refine (parameters.entries.parts known listed).bind ?_
  intro each _
  have returns := reads_readOptional (place ++ [.key "returns"]) (Json.field members "returns")
  refine (returns.parts known (by decide)).bind ?_
  intro formed _
  refine (reads_readDocumentation known (by decide)).bind ?_
  intro documented _
  exact wellFormed_of_fields known (List.forall_mem_cons.mpr
    ⟨⟨named, partsFormed_text _⟩, List.forall_mem_cons.mpr
      ⟨⟨admitted, each⟩, List.forall_mem_cons.mpr
        ⟨⟨rfl, formed⟩, List.forall_mem_singleton.mpr documented⟩⟩⟩)
termination_by (sizeOf (Json.obj members), 0)
decreasing_by
  · exact Prod.Lex.left _ _ (Json.sizeOf_fieldMembers_lt _ _)
  · exact Prod.Lex.left _ _ (Json.sizeOf_field_lt _ _)

theorem reads_readProperties (place : Place) (position : Nat) (values : List Json) :
    Reads place (∀ value ∈ values, WellFormed (.member false) value)
      (ItemFault (.member false) values position) (readProperties place position values) := by
  cases values with
  | nil =>
    rw [readProperties]
    exact reads_nil []
  | cons value rest =>
    rw [readProperties, ← NodeForm.named?_eq]
    split
    · next named =>
      have property := reads_readProperty (place ++ [.index position]) value.members
        (known_member false named rfl)
      rw [obj_members named] at property
      refine property.cons ?_
      intro _
      exact (reads_readProperties place (position + 1) rest).returning _
    · next unlike =>
      refine .refuseItem _ (faulty_member ?_)
      intro form named
      cases form with
      | property => exact absurd named unlike
      | _ => rfl
termination_by (sizeOf values, 0)
decreasing_by
  · exact Prod.Lex.left _ _ (Json.sizeOf_asObject_lt _ _)
  · exact Prod.Lex.left _ _ (Json.sizeOf_tail_lt _ _)

theorem reads_readMembers (place : Place) (position : Nat) (values : List Json) :
    Reads place (∀ value ∈ values, WellFormed (.member true) value)
      (ItemFault (.member true) values position) (readMembers place position values) := by
  cases values with
  | nil =>
    rw [readMembers]
    exact reads_nil []
  | cons value rest =>
    rw [readMembers, ← NodeForm.named?_eq]
    split
    · next named =>
      have property := reads_readProperty (place ++ [.index position]) value.members
        (known_member true named rfl)
      rw [obj_members named] at property
      refine property.cons ?_
      intro _
      exact (reads_readMembers place (position + 1) rest).returning _
    · next named =>
      have method := reads_readMethod (place ++ [.index position]) value.members
        (known_member true named rfl)
      rw [obj_members named] at method
      refine method.cons ?_
      intro _
      exact (reads_readMembers place (position + 1) rest).returning _
    · next unlikeProperty unlikeMethod =>
      refine .refuseItem _ (faulty_member ?_)
      intro form named
      cases form with
      | property => exact absurd named unlikeProperty
      | method => exact absurd named unlikeMethod
      | _ => rfl
termination_by (sizeOf values, 0)
decreasing_by
  · exact Prod.Lex.left _ _ (Json.sizeOf_asObject_lt _ _)
  · exact Prod.Lex.left _ _ (Json.sizeOf_tail_lt _ _)
  · exact Prod.Lex.left _ _ (Json.sizeOf_asObject_lt _ _)
  · exact Prod.Lex.left _ _ (Json.sizeOf_tail_lt _ _)

end

end Loading

namespace Graph

open Grammar Loading

theorem reads_ofJson (members : Json.Members) :
    Reads [] (∀ entry ∈ members, WellFormed .node entry.2) (EntryFault members)
      (ofJson (.obj members)) := by
  rw [ofJson, readEntries_eq]
  exact (reads_readParameters [] members).returning _

/-- A document is read exactly when it is an object of well-formed nodes. When an object is refused,
the error gives the keys and positions that lead to a part which breaks its own rule. -/
theorem ofJson_accepts_grammar (document : Json) :
    ((∃ graph, ofJson document = .ok graph) ↔
      ∃ members, document = .obj members ∧ ∀ entry ∈ members, WellFormed .node entry.2) ∧
    ∀ members error, document = .obj members → ofJson document = .error error →
      ∃ symbol value rest role part complaint,
        (symbol, value) ∈ members ∧ Within .node value rest role part ∧
          role.admits part = false ∧ document.Reaches (.key symbol :: rest) part ∧
          error = .shape (.key symbol :: rest) complaint ∧
          error.message = placeText (.key symbol :: rest) ++ ": " ++ complaint.message := by
  refine ⟨⟨?_, ?_⟩, ?_⟩
  · rintro ⟨graph, read⟩
    cases document with
    | obj members =>
      have reads := reads_ofJson members
      rw [read] at reads
      exact ⟨members, rfl, reads⟩
    | _ => cases read
  · rintro ⟨members, rfl, formed⟩
    have reads := reads_ofJson members
    cases read : ofJson (.obj members) with
    | ok graph => exact ⟨graph, rfl⟩
    | error error =>
      rw [read] at reads
      obtain ⟨_, _, _, symbol, value, rest, listed, _, faulty⟩ := reads
      exact absurd faulty (formed _ listed).not_faulty
  · rintro members error rfl read
    have reads := reads_ofJson members
    rw [read] at reads
    obtain ⟨_, complaint, rfl, symbol, value, rest, listed, rfl, role, part, within, broken⟩ :=
      reads
    have reached : (Json.obj members).Reaches (.key symbol :: rest) part :=
      .key listed within.reaches
    exact ⟨symbol, value, rest, role, part, complaint, listed, within, broken, reached, rfl, rfl⟩

def unfinished : Json.Members :=
  [("Post", .obj [("type", .str "interface"), ("members", .arr [.obj [("type", .str "method"),
    ("name", .str "related"), ("parameters", .obj [("to", .obj [("type", .str "array"),
      ("elements", .arr [.obj [("type", .str "string")], .obj [("type", .str "alias")]])])])]])])]

theorem ofJson_accepts_grammar_unfinished :
    ∃ error part, ∃ role : Role, ofJson (.obj unfinished) = .error error ∧
      error.message = "#/Post/members/0/parameters/to/elements/1/target: " ++
        "Expected a node object, got NoneType" ∧
      (Json.obj unfinished).Reaches [.key "Post", .key "members", .index 0, .key "parameters",
        .key "to", .key "elements", .index 1, .key "target"] part ∧
      role.admits part = false := by
  have read : ofJson (.obj unfinished) = .error (.shape [.key "Post", .key "members", .index 0,
      .key "parameters", .key "to", .key "elements", .index 1, .key "target"]
      (.notNode .null)) := by
    simp [ofJson, unfinished, readEntries, readNode, readNodes, readMembers, readMethod,
      readParameters, Json.field, Json.field?, List.lookup_cons, Json.items, Json.members,
      NodeForm.ofJson?, requireText, requireList, optionalList, optionalParameters, bind,
      Except.bind]
  obtain ⟨symbol, value, rest, role, part, complaint, _, _, broken, reached, same, _⟩ :=
    (ofJson_accepts_grammar (.obj unfinished)).2 unfinished _ rfl read
  cases same
  exact ⟨_, part, role, read, by decide +kernel, reached, broken⟩

end Graph

end SchemaLowering
