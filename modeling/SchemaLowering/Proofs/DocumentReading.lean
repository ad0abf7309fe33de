import SchemaLowering.Proofs.DocumentGrammar

/-!
Rules for readings of a document against its grammar. One judgement says of a reading what its
success shows and where its failure is reported; the rules follow the steps of a reader, field by
field and item by item.
-/

namespace SchemaLowering

namespace Loading

open Grammar

/-- A reading of the part at a place: its success shows `sound`, and a failure is reported at that
place followed by steps to a fault. -/
def Reads {α : Type} (place : Place) (sound : Prop) (fault : Place → Prop) :
    Except LoadError α → Prop
  | .ok _ => sound
  | .error error => ∃ rest complaint, error = .shape (place ++ rest) complaint ∧ fault rest

namespace Reads

variable {α β : Type} {place : Place} {sound further : Prop} {fault wider : Place → Prop}

theorem bindOk {first : Except LoadError α} {next : α → Except LoadError β}
    (reads : Reads place sound fault first)
    (continued : sound → ∀ result, first = .ok result → Reads place further fault (next result)) :
    Reads place further fault (first >>= next) := by
  cases first with
  | error error => exact reads
  | ok result => exact continued reads result rfl

theorem bind {first : Except LoadError α} {next : α → Except LoadError β}
    (reads : Reads place sound fault first)
    (continued : sound → ∀ result, Reads place further fault (next result)) :
    Reads place further fault (first >>= next) :=
  reads.bindOk fun holds result _ => continued holds result

theorem returning {reading : Except LoadError α} (reads : Reads place sound fault reading)
    (finish : α → β) : Reads place sound fault (do return finish (← reading)) :=
  reads.bind fun holds _ => holds

theorem imp {reading : Except LoadError α} (reads : Reads place sound fault reading)
    (weaker : sound → further) (shifted : ∀ rest, fault rest → wider rest) :
    Reads place further wider reading := by
  cases reading with
  | error error =>
    obtain ⟨rest, complaint, same, faulty⟩ := reads
    exact ⟨rest, complaint, same, shifted rest faulty⟩
  | ok result => exact weaker reads

/-- A reading further inside is a reading from outside whose faults begin with the steps between. -/
theorem outside {steps : Place} {reading : Except LoadError α}
    (reads : Reads (place ++ steps) sound fault reading)
    (shifted : ∀ rest, fault rest → wider (steps ++ rest)) : Reads place sound wider reading := by
  cases reading with
  | error error =>
    obtain ⟨rest, complaint, same, faulty⟩ := reads
    refine ⟨steps ++ rest, complaint, ?_, shifted rest faulty⟩
    rw [same, List.append_assoc]
  | ok result => exact reads

/-- A failure at the place itself. -/
theorem refuse (complaint : ShapeComplaint) (here : fault []) :
    Reads place sound fault (.error (.shape place complaint) : Except LoadError α) :=
  ⟨[], complaint, by rw [List.append_nil], here⟩

end Reads

/-! ### Fields -/

/-- Everything in the value of a field is well-formed. -/
def PartsFormed (format : Format) (value : Json) : Prop :=
  ∀ steps inner part, format.Part value steps inner part → WellFormed inner part

/-- A part in the value of a field is at fault. -/
def PartFault (format : Format) (value : Json) (place : Place) : Prop :=
  ∃ steps inner part rest,
    format.Part value steps inner part ∧ place = steps ++ rest ∧ Faulty inner part rest

theorem partsFormed_text (value : Json) : PartsFormed .text value := by
  intro steps inner part held
  cases held

theorem partsFormed_free (required : Bool) (value : Json) :
    PartsFormed (.list required none) value := by
  intro steps inner part held
  cases held

section Fields

variable {α : Type} {place : Place} {role : Role} {members : Json.Members}
  {fields : List (String × Format)} {key : String} {format : Format}

theorem wellFormed_of_fields (known : role.fields? members = some fields)
    (each : ∀ field ∈ fields, field.2.admits (Json.field? members field.1) = true ∧
      PartsFormed field.2 (Json.field members field.1)) : WellFormed role (.obj members) := by
  refine .intro ?_ ?_
  · rw [Role.admits, known, Option.any_some, List.all_eq_true]
    intro field listed
    exact (each field listed).1
  · intro steps inner part first
    cases first with
    | field known' listed held =>
      rw [known] at known'
      cases known'
      exact (each _ listed).2 _ _ _ held

theorem faulty_of_unknown {value : Json} (unknown : role.fields? value.members = none) :
    Faulty role value [] := by
  apply Faulty.of_rule
  cases value with
  | obj members =>
    have unknown' : role.fields? members = none := unknown
    rw [Role.admits, unknown', Option.any_none]
  | _ => rfl

theorem faulty_of_field (known : role.fields? members = some fields)
    (listed : (key, format) ∈ fields)
    (broken : format.admits (Json.field? members key) = false) : Faulty role (.obj members) [] := by
  apply Faulty.of_rule
  rw [Role.admits, known, Option.any_some, List.all_eq_false]
  refine ⟨_, listed, ?_⟩
  rw [broken]
  exact Bool.false_ne_true

/-- The reading of the parts in a field. -/
theorem Reads.parts {reading : Except LoadError α} (known : role.fields? members = some fields)
    (listed : (key, format) ∈ fields)
    (reads : Reads (place ++ [.key key]) (PartsFormed format (Json.field members key))
      (PartFault format (Json.field members key)) reading) :
    Reads place (PartsFormed format (Json.field members key)) (Faulty role (.obj members))
      reading := by
  refine reads.outside ?_
  rintro _ ⟨steps, inner, part, rest, held, rfl, faulty⟩
  rw [← List.append_assoc]
  exact faulty.of_part (.field known listed held)

/-- A reading that fails exactly when a field holds the wrong kind of value. -/
def Checks (place : Place) (format : Format) (found : Option Json) : Except LoadError α → Prop :=
  Reads place (format.admits found = true) fun rest => rest = [] ∧ format.admits found = false

/-- The check of a field is part of the rule of the object that has it. -/
theorem Checks.field {reading : Except LoadError α} (known : role.fields? members = some fields)
    (listed : (key, format) ∈ fields)
    (checks : Checks place format (Json.field? members key) reading) :
    Reads place (format.admits (Json.field? members key) = true) (Faulty role (.obj members))
      reading := by
  refine checks.imp id ?_
  rintro _ ⟨rfl, broken⟩
  exact faulty_of_field known listed broken

end Fields

theorem checks_requireText (place : Place) (members : Json.Members) (key : String) :
    Checks place .text (Json.field? members key) (requireText place members key) := by
  unfold requireText
  cases Json.field? members key with
  | none => exact .refuse _ ⟨rfl, rfl⟩
  | some value =>
    cases value with
    | str text => rfl
    | _ => exact .refuse _ ⟨rfl, rfl⟩

theorem checks_requireList (place : Place) (members : Json.Members) (key : String)
    (items : Option Role) :
    Checks place (.list true items) (Json.field? members key) (requireList place members key) := by
  unfold requireList
  cases Json.field? members key with
  | none => exact .refuse _ ⟨rfl, rfl⟩
  | some value =>
    cases value with
    | arr items => rfl
    | _ => exact .refuse _ ⟨rfl, rfl⟩

theorem checks_optionalList (place : Place) (members : Json.Members) (key : String)
    (complaint : ShapeComplaint) (items : Option Role) :
    Checks place (.list false items) (Json.field? members key)
      (optionalList place members key complaint) := by
  unfold optionalList
  cases Json.field? members key with
  | none => rfl
  | some value =>
    cases value with
    | arr items => rfl
    | _ => exact .refuse _ ⟨rfl, rfl⟩

theorem checks_optionalParameters (place : Place) (members : Json.Members) :
    Checks place .namedNodes (Json.field? members "parameters")
      (optionalParameters place members) := by
  unfold optionalParameters
  cases Json.field? members "parameters" with
  | none => rfl
  | some value =>
    cases value with
    | obj parameters => rfl
    | _ => exact .refuse _ ⟨rfl, rfl⟩

/-- An object whose one field has no parts. -/
theorem reads_plain_object {α β : Type} {place : Place} {role : Role} {members : Json.Members}
    {key : String} {format : Format} {check : Except LoadError α}
    (known : role.fields? members = some [(key, format)])
    (checks : Checks place format (Json.field? members key) check)
    (plain : PartsFormed format (Json.field members key)) (finish : α → β) :
    Reads place (WellFormed role (.obj members)) (Faulty role (.obj members))
      (do return finish (← check)) := by
  refine (checks.field known List.mem_cons_self).bind ?_
  intro admitted _
  exact wellFormed_of_fields known (List.forall_mem_singleton.mpr ⟨admitted, plain⟩)

/-- A value that is the one part of its field. -/
theorem Reads.single {α : Type} {place : Place} {role : Role} {format : Format} {value : Json}
    {reading : Except LoadError α} (held : format.Part value [] role value)
    (only : ∀ steps inner part, format.Part value steps inner part → inner = role ∧ part = value)
    (reads : Reads place (WellFormed role value) (Faulty role value) reading) :
    Reads place (PartsFormed format value) (PartFault format value) reading := by
  refine reads.imp ?_ ?_
  · intro formed steps inner part found
    obtain ⟨rfl, rfl⟩ := only steps inner part found
    exact formed
  · intro rest faulty
    exact ⟨[], role, value, rest, held, rfl, faulty⟩

theorem Reads.node {α : Type} {place : Place} {value : Json} {reading : Except LoadError α}
    (reads : Reads place (WellFormed .node value) (Faulty .node value) reading) :
    Reads place (PartsFormed .node value) (PartFault .node value) reading := by
  refine reads.single .node ?_
  intro steps inner part found
  cases found with
  | node => exact ⟨rfl, rfl⟩

/-! ### Lists -/

/-- An item of a list is at fault, where the list begins at a position. -/
def ItemFault (role : Role) (values : List Json) (position : Nat) (place : Place) : Prop :=
  ∃ value found rest,
    (value, found) ∈ values.zipIdx position ∧ place = .index found :: rest ∧ Faulty role value rest

section Items

variable {α : Type} {place : Place} {role : Role} {value : Json} {values : List Json}
  {position : Nat}

theorem reads_nil (result : α) :
    Reads place (∀ value ∈ [], WellFormed role value) (ItemFault role [] position)
      (.ok result) := by
  intro value member
  cases member

theorem Reads.rest {reading : Except LoadError α} (formed : WellFormed role value)
    (reads : Reads place (∀ item ∈ values, WellFormed role item)
      (ItemFault role values (position + 1)) reading) :
    Reads place (∀ item ∈ value :: values, WellFormed role item)
      (ItemFault role (value :: values) position) reading := by
  refine reads.imp ?_ ?_
  · intro others
    exact List.forall_mem_cons.mpr ⟨formed, others⟩
  · rintro _ ⟨item, found, rest, listed, rfl, faulty⟩
    exact ⟨item, found, rest, List.mem_cons_of_mem _ listed, rfl, faulty⟩

theorem Reads.cons {β : Type} {first : Except LoadError α} {next : α → Except LoadError β}
    (reads : Reads (place ++ [.index position]) (WellFormed role value) (Faulty role value) first)
    (continued : ∀ result, Reads place (∀ item ∈ values, WellFormed role item)
      (ItemFault role values (position + 1)) (next result)) :
    Reads place (∀ item ∈ value :: values, WellFormed role item)
      (ItemFault role (value :: values) position) (first >>= next) := by
  have head : Reads place (WellFormed role value) (ItemFault role (value :: values) position)
      first := by
    refine reads.outside ?_
    intro rest faulty
    exact ⟨value, position, rest, List.mem_cons_self, rfl, faulty⟩
  exact head.bind fun formed result => (continued result).rest formed

theorem Reads.refuseItem (complaint : ShapeComplaint) (faulty : Faulty role value []) :
    Reads place (∀ item ∈ value :: values, WellFormed role item)
      (ItemFault role (value :: values) position)
      (.error (.shape (place ++ [.index position]) complaint) : Except LoadError α) :=
  ⟨[.index position], complaint, rfl, value, position, [], List.mem_cons_self, rfl, faulty⟩

/-- The items of a list are the parts of the field that holds it. -/
theorem Reads.items {required : Bool} {reading : Except LoadError α}
    (reads : Reads place (∀ item ∈ value.items, WellFormed role item)
      (ItemFault role value.items 0) reading) :
    Reads place (PartsFormed (.list required (some role)) value)
      (PartFault (.list required (some role)) value) reading := by
  refine reads.imp ?_ ?_
  · intro formed steps inner part held
    cases held with
    | item found => exact formed part (List.mem_of_getElem? found)
  · rintro _ ⟨item, found, rest, listed, rfl, faulty⟩
    have placed : value.items[found]? = some item := List.mk_mem_zipIdx_iff_getElem?.mp listed
    exact ⟨[.index found], role, item, rest, .item placed, rfl, faulty⟩

/-- An object whose one field is a list of parts. -/
theorem reads_list_object {β γ : Type} {inner : Role} {members : Json.Members} {key : String}
    {required : Bool} {check : Except LoadError α} {reading : Except LoadError β}
    (known : role.fields? members = some [(key, .list required (some inner))])
    (checks : Checks place (.list required (some inner)) (Json.field? members key) check)
    (reads : Reads (place ++ [.key key])
      (∀ item ∈ (Json.field members key).items, WellFormed inner item)
      (ItemFault inner (Json.field members key).items 0) reading) (finish : β → γ) :
    Reads place (WellFormed role (.obj members)) (Faulty role (.obj members)) (do
      let _ ← check
      return finish (← reading)) := by
  refine (checks.field known List.mem_cons_self).bind ?_
  intro admitted _
  refine (reads.items.parts known List.mem_cons_self).bind ?_
  intro formed _
  exact wellFormed_of_fields known (List.forall_mem_singleton.mpr ⟨admitted, formed⟩)

end Items

theorem reads_readTags (place : Place) (position : Nat) (values : List Json) :
    Reads place (∀ value ∈ values, WellFormed .tag value) (ItemFault .tag values position)
      (readTags place position values) := by
  induction values generalizing position with
  | nil => exact reads_nil []
  | cons value rest ih =>
    cases value with
    | obj members =>
      have formed : WellFormed .tag (.obj members) :=
        wellFormed_of_fields rfl (List.forall_mem_nil _)
      rw [readTags]
      exact ((ih (position + 1)).returning _).rest formed
    | _ => exact .refuseItem _ (.of_rule rfl)

/-! ### Documentation -/

theorem items_of_optionalList {place : Place} {members : Json.Members} {key : String}
    {complaint : ShapeComplaint} {items : List Json}
    (read : optionalList place members key complaint = .ok items) :
    items = (Json.field members key).items := by
  unfold optionalList at read
  unfold Json.field
  split at read
  · next missing =>
    cases read
    rw [missing]
    rfl
  · next found =>
    cases read
    rw [found]
    rfl
  · cases read

theorem reads_documentation (place : Place) (documentation : Json.Members) :
    Reads place (WellFormed .documentation (.obj documentation))
      (Faulty .documentation (.obj documentation)) (do
        let items ← optionalList place documentation "tags" .tagsNotList
        let tags ← readTags (place ++ [.key "tags"]) 0 items
        return some tags) := by
  have known : Role.documentation.fields? documentation
    = some [("tags", .list false (some .tag))] := rfl
  -- The tags are read from the checked list itself, which is that of the field.
  refine ((checks_optionalList ..).field known List.mem_cons_self).bindOk ?_
  intro admitted items read
  rw [items_of_optionalList read]
  refine ((reads_readTags ..).items.parts known List.mem_cons_self).bind ?_
  intro formed _
  exact wellFormed_of_fields known (List.forall_mem_singleton.mpr ⟨admitted, formed⟩)

theorem reads_readDocumentation {place : Place} {role : Role} {members : Json.Members}
    {fields : List (String × Format)} (known : role.fields? members = some fields)
    (listed : ("documentation", Format.documentation) ∈ fields) :
    Reads place (Format.documentation.admits (Json.field? members "documentation") = true ∧
        PartsFormed .documentation (Json.field members "documentation"))
      (Faulty role (.obj members)) (readDocumentation place members) := by
  have undocumented : PartsFormed .documentation .null := by
    intro steps inner part held
    cases held with
    | documentation present => exact absurd rfl present
  unfold readDocumentation
  cases found : Json.field? members "documentation" with
  | none =>
    have held : Json.field members "documentation" = .null := by rw [Json.field, found]; rfl
    rw [held]
    exact ⟨rfl, undocumented⟩
  | some value =>
    have held : Json.field members "documentation" = value := by rw [Json.field, found]; rfl
    rw [held]
    cases value with
    | null => exact ⟨rfl, undocumented⟩
    | obj documentation =>
      have inside := reads_documentation (place ++ [.key "documentation"]) documentation
      have present : Json.obj documentation ≠ .null := by
        intro same
        cases same
      rw [← held] at inside present
      have parts := (inside.single (.documentation present) ?_).parts known listed
      · rw [held] at parts
        exact parts.imp (fun formed => ⟨rfl, formed⟩) fun _ faulty => faulty
      · intro steps inner part found
        cases found with
        | documentation _ => exact ⟨rfl, rfl⟩
    | _ =>
      refine .refuse _ (faulty_of_field known listed ?_)
      rw [found]
      rfl

end Loading

end SchemaLowering
