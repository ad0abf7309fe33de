/-!
Type graphs: named data shapes that refer to each other by symbol. Symbols keep the order in which
they are declared.
-/

namespace SchemaLowering

/-- The shapes without parts. -/
inductive Primitive where
  | string
  | number
  | boolean
  | any
  deriving DecidableEq, Repr

/-- A titled remark in the documentation of a declaration. -/
structure DocTag where
  title : String
  description : String
  deriving DecidableEq, Repr

/-- The remarks of a documentation block, in order. -/
abbrev Documentation := List DocTag

mutual

/-- A data shape. -/
inductive Node where
  | primitive (kind : Primitive)
  /-- A fixed text, which has a meaning only inside a union. -/
  | literal (value : String)
  | reference (target : String)
  /-- A list, whose elements have one of the given shapes. -/
  | array (elements : List Node)
  | enum (values : List String)
  | union (types : List Node)
  /-- An object shape without a name. -/
  | object (members : List Property)
  | alias (target : Node) (documentation : Option Documentation)
  | interface (declaration : Interface)
  | member (declaration : Member)

/-- A field without arguments. -/
structure Property where
  name : String
  signature : Option Node
  optional : Bool
  documentation : Option Documentation

/-- A field with arguments. -/
structure Method where
  name : String
  parameters : List (String × Node)
  returns : Option Node
  optional : Bool
  documentation : Option Documentation

inductive Member where
  | property (declaration : Property)
  | method (declaration : Method)

/-- An object shape that may inherit fields from one other. -/
structure Interface where
  members : List Member
  inherits : List String
  concrete : Bool
  documentation : Option Documentation

end

instance : Inhabited Node := ⟨.primitive .any⟩

/-- The word for a primitive shape in documents and messages. -/
def Primitive.word : Primitive → String
  | .string => "string"
  | .number => "number"
  | .boolean => "boolean"
  | .any => "any"

namespace Member

/-- The word for a member's kind in documents and messages. -/
def kind : Member → String
  | .property _ => "property"
  | .method _ => "method"

def name : Member → String
  | .property declaration => declaration.name
  | .method declaration => declaration.name

def documentation : Member → Option Documentation
  | .property declaration => declaration.documentation
  | .method declaration => declaration.documentation

end Member

namespace Node

/-- The word for a shape's kind in documents and messages. -/
def kind : Node → String
  | .primitive kind => kind.word
  | .literal _ => "string literal"
  | .reference _ => "reference"
  | .array _ => "array"
  | .enum _ => "enum"
  | .union _ => "union"
  | .object _ => "literal object"
  | .alias _ _ => "alias"
  | .interface _ => "interface"
  | .member declaration => declaration.kind

/-- The documentation of a shape that can have one. -/
def documentation : Node → Option Documentation
  | .alias _ documentation => documentation
  | .interface declaration => declaration.documentation
  | .member declaration => declaration.documentation
  | _ => none

def isPrimitive : Node → Bool
  | .primitive _ => true
  | _ => false

/-- The kind of a primitive shape. -/
def primitive? : Node → Option Primitive
  | .primitive kind => some kind
  | _ => none

def isEnum : Node → Bool
  | .enum _ => true
  | _ => false

def isLiteral : Node → Bool
  | .literal _ => true
  | _ => false

end Node

mutual

/-- The number of shapes that occur in a shape, itself included. -/
def Node.weight : Node → Nat
  | .primitive _ | .literal _ | .reference _ | .enum _ => 1
  | .array elements => 1 + nodesWeight elements
  | .union types => 1 + nodesWeight types
  | .object members => 1 + propertiesWeight members
  | .alias target _ => 1 + target.weight
  | .interface declaration => 1 + declaration.weight
  | .member declaration => 1 + declaration.weight

def nodesWeight : List Node → Nat
  | [] => 0
  | node :: rest => node.weight + nodesWeight rest

def optionalWeight : Option Node → Nat
  | none => 0
  | some node => node.weight

def parametersWeight : List (String × Node) → Nat
  | [] => 0
  | (_, node) :: rest => node.weight + parametersWeight rest

def Property.weight : Property → Nat
  | ⟨_, signature, _, _⟩ => optionalWeight signature

def propertiesWeight : List Property → Nat
  | [] => 0
  | property :: rest => property.weight + propertiesWeight rest

def Method.weight : Method → Nat
  | ⟨_, parameters, returns, _, _⟩ => parametersWeight parameters + optionalWeight returns

def Member.weight : Member → Nat
  | .property declaration => declaration.weight
  | .method declaration => declaration.weight

def membersWeight : List Member → Nat
  | [] => 0
  | member :: rest => member.weight + membersWeight rest

def Interface.weight : Interface → Nat
  | ⟨members, _, _, _⟩ => membersWeight members

end

/-- Named shapes in the order of their declaration. -/
structure Graph where
  entries : List (String × Node)
  deriving Inhabited

namespace Graph

def symbols (graph : Graph) : List String :=
  graph.entries.map (·.1)

/-- The shape that a symbol names. -/
def find? (graph : Graph) (symbol : String) : Option Node :=
  graph.entries.lookup symbol

/-- The number of shapes that occur in the graph. -/
def weight (graph : Graph) : Nat :=
  graph.entries.foldr (fun (_, node) total => node.weight + total) 0

theorem mem_symbols_of_find? {graph : Graph} {symbol : String} {node : Node}
    (found : graph.find? symbol = some node) : symbol ∈ graph.symbols := by
  obtain ⟨entries⟩ := graph
  simp only [find?, symbols] at found ⊢
  induction entries with
  | nil => simp at found
  | cons head rest ih =>
    obtain ⟨name, shape⟩ := head
    rw [List.lookup_cons] at found
    split at found
    · next same =>
      rw [beq_iff_eq] at same
      simp [same]
    · simp only [List.map_cons, List.mem_cons]
      exact Or.inr (ih found)

end Graph

end SchemaLowering
