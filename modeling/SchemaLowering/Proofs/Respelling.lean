import SchemaLowering.Mark

/-!
Shapes whose field types refer to other symbols than before. A reference is respelled where it
stands in the type of a property or in the result of a method of an interface, at any depth of
lists, object shapes and interfaces written in place; all others stay: parameters, members of
unions, targets of aliases and supertypes.
-/

namespace SchemaLowering

variable (spell : String → String)

mutual

/-- The shape with its field types respelled. `inField` tells whether the shape itself stands in the
type of a field. -/
def Node.respell (inField : Bool) : Node → Node
  | .primitive kind => .primitive kind
  | .literal value => .literal value
  | .reference target => .reference (if inField then spell target else target)
  | .array elements => .array (respellNodes inField elements)
  | .enum values => .enum values
  | .union types => .union (respellNodes false types)
  | .object members => .object (respellProperties inField members)
  | .alias target documentation => .alias (target.respell false) documentation
  | .interface declaration => .interface declaration.respell
  | .member declaration => .member (declaration.respell false)

def respellNodes (inField : Bool) : List Node → List Node
  | [] => []
  | node :: rest => node.respell inField :: respellNodes inField rest

def respellOptional (inField : Bool) : Option Node → Option Node
  | none => none
  | some node => some (node.respell inField)

def respellParameters : List (String × Node) → List (String × Node)
  | [] => []
  | (name, node) :: rest => (name, node.respell false) :: respellParameters rest

def Property.respell (inField : Bool) : Property → Property
  | ⟨name, signature, optional, documentation⟩ =>
    ⟨name, respellOptional inField signature, optional, documentation⟩

def respellProperties (inField : Bool) : List Property → List Property
  | [] => []
  | property :: rest => property.respell inField :: respellProperties inField rest

def Method.respell (inField : Bool) : Method → Method
  | ⟨name, parameters, returns, optional, documentation⟩ =>
    ⟨name, respellParameters parameters, respellOptional inField returns, optional, documentation⟩

/-- The member with its type respelled, if it belongs to an interface. -/
def Member.respell (inField : Bool) : Member → Member
  | .property declaration => .property (declaration.respell inField)
  | .method declaration => .method (declaration.respell inField)

def respellMembers (inField : Bool) : List Member → List Member
  | [] => []
  | member :: rest => member.respell inField :: respellMembers inField rest

def Interface.respell : Interface → Interface
  | ⟨members, inherits, concrete, documentation⟩ =>
    ⟨respellMembers true members, inherits, concrete, documentation⟩

end

theorem respellNodes_eq_map (inField : Bool) (nodes : List Node) :
    respellNodes spell inField nodes = nodes.map (Node.respell spell inField) := by
  induction nodes with
  | nil => rfl
  | cons node rest ih => rw [respellNodes, ih, List.map_cons]

theorem respellProperties_eq_map (inField : Bool) (properties : List Property) :
    respellProperties spell inField properties
      = properties.map (Property.respell spell inField) := by
  induction properties with
  | nil => rfl
  | cons property rest ih => rw [respellProperties, ih, List.map_cons]

theorem respellMembers_eq_map (inField : Bool) (members : List Member) :
    respellMembers spell inField members = members.map (Member.respell spell inField) := by
  induction members with
  | nil => rfl
  | cons member rest ih => rw [respellMembers, ih, List.map_cons]

theorem respellParameters_eq_map (parameters : List (String × Node)) :
    respellParameters spell parameters
      = parameters.map fun parameter => (parameter.1, parameter.2.respell spell false) := by
  induction parameters with
  | nil => rfl
  | cons parameter rest ih => rw [respellParameters, ih, List.map_cons]

theorem respellOptional_eq_map (inField : Bool) (node : Option Node) :
    respellOptional spell inField node = node.map (Node.respell spell inField) := by
  cases node with
  | none => rfl
  | some node => rfl

@[simp] theorem Property.respell_name (inField : Bool) (property : Property) :
    (property.respell spell inField).name = property.name := by
  cases property
  rfl

@[simp] theorem Property.respell_signature (inField : Bool) (property : Property) :
    (property.respell spell inField).signature
      = property.signature.map (Node.respell spell inField) := by
  cases property
  exact respellOptional_eq_map spell inField _

@[simp] theorem Property.respell_optional (inField : Bool) (property : Property) :
    (property.respell spell inField).optional = property.optional := by
  cases property
  rfl

@[simp] theorem Method.respell_name (inField : Bool) (method : Method) :
    (method.respell spell inField).name = method.name := by
  cases method
  rfl

@[simp] theorem Method.respell_parameters (inField : Bool) (method : Method) :
    (method.respell spell inField).parameters
      = method.parameters.map fun parameter => (parameter.1, parameter.2.respell spell false) := by
  cases method
  exact respellParameters_eq_map spell _

@[simp] theorem Method.respell_returns (inField : Bool) (method : Method) :
    (method.respell spell inField).returns = method.returns.map (Node.respell spell inField) := by
  cases method
  exact respellOptional_eq_map spell inField _

@[simp] theorem Method.respell_optional (inField : Bool) (method : Method) :
    (method.respell spell inField).optional = method.optional := by
  cases method
  rfl

@[simp] theorem Member.respell_name (inField : Bool) (member : Member) :
    (member.respell spell inField).name = member.name := by
  cases member with
  | property declaration => exact Property.respell_name spell inField declaration
  | method declaration => exact Method.respell_name spell inField declaration

@[simp] theorem Member.respell_documentation (inField : Bool) (member : Member) :
    (member.respell spell inField).documentation = member.documentation := by
  cases member with
  | property declaration => cases declaration; rfl
  | method declaration => cases declaration; rfl

@[simp] theorem Interface.respell_members (declaration : Interface) :
    (declaration.respell spell).members = declaration.members.map (Member.respell spell true) := by
  cases declaration
  exact respellMembers_eq_map spell true _

@[simp] theorem Interface.respell_inherits (declaration : Interface) :
    (declaration.respell spell).inherits = declaration.inherits := by
  cases declaration
  rfl

@[simp] theorem Interface.respell_concrete (declaration : Interface) :
    (declaration.respell spell).concrete = declaration.concrete := by
  cases declaration
  rfl

@[simp] theorem Interface.respell_documentation (declaration : Interface) :
    (declaration.respell spell).documentation = declaration.documentation := by
  cases declaration
  rfl

namespace Node

@[simp] theorem respell_isPrimitive (inField : Bool) (node : Node) :
    (node.respell spell inField).isPrimitive = node.isPrimitive := by
  cases node <;> rfl

@[simp] theorem respell_isEnum (inField : Bool) (node : Node) :
    (node.respell spell inField).isEnum = node.isEnum := by
  cases node <;> rfl

@[simp] theorem respell_isLiteral (inField : Bool) (node : Node) :
    (node.respell spell inField).isLiteral = node.isLiteral := by
  cases node <;> rfl

end Node

mutual

/-- Respelling does not change how many shapes occur. -/
theorem Node.respell_weight (inField : Bool) (node : Node) :
    (node.respell spell inField).weight = node.weight := by
  cases node with
  | primitive kind => rfl
  | literal value => rfl
  | reference target => rfl
  | array elements => rw [Node.respell, Node.weight, Node.weight, respellNodes_weight]
  | enum values => rfl
  | union types => rw [Node.respell, Node.weight, Node.weight, respellNodes_weight]
  | object members => rw [Node.respell, Node.weight, Node.weight, respellProperties_weight]
  | «alias» target documentation =>
    rw [Node.respell, Node.weight, Node.weight, target.respell_weight]
  | interface declaration => rw [Node.respell, Node.weight, Node.weight, declaration.respell_weight]
  | member declaration => rw [Node.respell, Node.weight, Node.weight, declaration.respell_weight]

theorem respellNodes_weight (inField : Bool) (nodes : List Node) :
    nodesWeight (respellNodes spell inField nodes) = nodesWeight nodes := by
  cases nodes with
  | nil => rfl
  | cons node rest =>
    rw [respellNodes, nodesWeight, nodesWeight, node.respell_weight, respellNodes_weight]

theorem respellOptional_weight (inField : Bool) (node : Option Node) :
    optionalWeight (respellOptional spell inField node) = optionalWeight node := by
  cases node with
  | none => rfl
  | some node => exact node.respell_weight inField

theorem respellParameters_weight (parameters : List (String × Node)) :
    parametersWeight (respellParameters spell parameters) = parametersWeight parameters := by
  cases parameters with
  | nil => rfl
  | cons parameter rest =>
    obtain ⟨name, node⟩ := parameter
    rw [respellParameters, parametersWeight, parametersWeight, node.respell_weight,
      respellParameters_weight]

theorem Property.respell_weight (inField : Bool) (property : Property) :
    (property.respell spell inField).weight = property.weight := by
  obtain ⟨name, signature, optional, documentation⟩ := property
  exact respellOptional_weight inField signature

theorem respellProperties_weight (inField : Bool) (properties : List Property) :
    propertiesWeight (respellProperties spell inField properties)
      = propertiesWeight properties := by
  cases properties with
  | nil => rfl
  | cons property rest =>
    rw [respellProperties, propertiesWeight, propertiesWeight, property.respell_weight,
      respellProperties_weight]

theorem Method.respell_weight (inField : Bool) (method : Method) :
    (method.respell spell inField).weight = method.weight := by
  obtain ⟨name, parameters, returns, optional, documentation⟩ := method
  rw [Method.respell, Method.weight, Method.weight, respellParameters_weight,
    respellOptional_weight]

theorem Member.respell_weight (inField : Bool) (member : Member) :
    (member.respell spell inField).weight = member.weight := by
  cases member with
  | property declaration => exact declaration.respell_weight inField
  | method declaration => exact declaration.respell_weight inField

theorem respellMembers_weight (inField : Bool) (members : List Member) :
    membersWeight (respellMembers spell inField members) = membersWeight members := by
  cases members with
  | nil => rfl
  | cons member rest =>
    rw [respellMembers, membersWeight, membersWeight, member.respell_weight, respellMembers_weight]

theorem Interface.respell_weight (declaration : Interface) :
    (declaration.respell spell).weight = declaration.weight := by
  obtain ⟨members, inherits, concrete, documentation⟩ := declaration
  exact respellMembers_weight true members

end

mutual

/-- Respelling every symbol as itself changes nothing. -/
theorem Node.respell_id (inField : Bool) (node : Node) : node.respell id inField = node := by
  cases node with
  | primitive kind => rfl
  | literal value => rfl
  | reference target => simp only [Node.respell, id, ite_self]
  | array elements => rw [Node.respell, respellNodes_id]
  | enum values => rfl
  | union types => rw [Node.respell, respellNodes_id]
  | object members => rw [Node.respell, respellProperties_id]
  | «alias» target documentation => rw [Node.respell, target.respell_id]
  | interface declaration => rw [Node.respell, declaration.respell_id]
  | member declaration => rw [Node.respell, declaration.respell_id]

theorem respellNodes_id (inField : Bool) (nodes : List Node) :
    respellNodes id inField nodes = nodes := by
  cases nodes with
  | nil => rfl
  | cons node rest => rw [respellNodes, node.respell_id, respellNodes_id]

theorem respellOptional_id (inField : Bool) (node : Option Node) :
    respellOptional id inField node = node := by
  cases node with
  | none => rfl
  | some node => rw [respellOptional, node.respell_id]

theorem respellParameters_id (parameters : List (String × Node)) :
    respellParameters id parameters = parameters := by
  cases parameters with
  | nil => rfl
  | cons parameter rest =>
    obtain ⟨name, node⟩ := parameter
    rw [respellParameters, node.respell_id, respellParameters_id]

theorem Property.respell_id (inField : Bool) (property : Property) :
    property.respell id inField = property := by
  obtain ⟨name, signature, optional, documentation⟩ := property
  rw [Property.respell, respellOptional_id]

theorem respellProperties_id (inField : Bool) (properties : List Property) :
    respellProperties id inField properties = properties := by
  cases properties with
  | nil => rfl
  | cons property rest => rw [respellProperties, property.respell_id, respellProperties_id]

theorem Method.respell_id (inField : Bool) (method : Method) :
    method.respell id inField = method := by
  obtain ⟨name, parameters, returns, optional, documentation⟩ := method
  rw [Method.respell, respellParameters_id, respellOptional_id]

theorem Member.respell_id (inField : Bool) (member : Member) :
    member.respell id inField = member := by
  cases member with
  | property declaration => rw [Member.respell, declaration.respell_id]
  | method declaration => rw [Member.respell, declaration.respell_id]

theorem respellMembers_id (inField : Bool) (members : List Member) :
    respellMembers id inField members = members := by
  cases members with
  | nil => rfl
  | cons member rest => rw [respellMembers, member.respell_id, respellMembers_id]

theorem Interface.respell_id (declaration : Interface) : declaration.respell id = declaration := by
  obtain ⟨members, inherits, concrete, documentation⟩ := declaration
  rw [Interface.respell, respellMembers_id]

end

theorem map_respell_id (inField : Bool) (members : List Member) :
    members.map (Member.respell id inField) = members := by
  rw [← respellMembers_eq_map, respellMembers_id]

end SchemaLowering
