import SchemaLowering.Options

/-!
Why a type graph has no schema.
-/

namespace SchemaLowering

/-- What is wrong with the members of a union. -/
inductive UnionError where
  | empty (name : String)
  | notReference (kind : String)
  | notEnum (kind target : String)
  | notInterface (kind target : String)
  | unsupported (kind : String)
  deriving DecidableEq, Repr

def UnionError.message : UnionError → String
  | .empty name => "Union " ++ name ++ " has no members"
  | .notReference kind =>
    "GraphQL unions require that all types are references. Got a " ++ kind
  | .notEnum kind target =>
    "Expected a union of only enums since first child is an enum. Got a " ++ kind ++ " ("
      ++ target ++ ")"
  | .notInterface kind target =>
    "Expected a union of only interfaces since first child is an interface. Got a " ++ kind ++ " ("
      ++ target ++ ")"
  | .unsupported kind => "No support for unions of type: " ++ kind

/-- Why lowering fails. -/
inductive LoweringError where
  /-- A shape stands where its kind has no form. -/
  | unsupported (kind context : String)
  | multipleInheritance (supertypes : List String)
  | notInterface (name kind : String)
  /-- The supertypes from a shape on lead back to one of them. -/
  | cyclic (chain : List String)
  | tooManyParameters (method : String) (count : Nat)
  | union (error : UnionError)
  | unresolved (target : String)
  /-- The expression of a shape contains itself. -/
  | endless
  /-- An option or a shape is used as what it is not. -/
  | misuse (misuse : Misuse)
  deriving DecidableEq, Repr

def LoweringError.message : LoweringError → String
  | .unsupported kind context => "Can't serialize " ++ kind ++ " as " ++ context
  | .multipleInheritance supertypes =>
    "No support for multiple inheritance: " ++ Json.spelledTexts supertypes
  | .notInterface name kind =>
    "Expected supertype " ++ Text.quoted name ++ " to be an interface node, got " ++ kind
  | .cyclic chain => "Cyclic inheritance: " ++ " -> ".intercalate chain
  | .tooManyParameters method count =>
    "Methods can have a maximum of 1 argument: " ++ method ++ " has " ++ toString count
  | .union error => error.message
  | .unresolved target => "Reference to unknown symbol: " ++ target
  | .endless => ""
  | .misuse _ => ""

/-- An option that cannot be used stops the lowering. -/
def Misuse.lift {α : Type} (result : Except Misuse α) : Except LoweringError α :=
  result.mapError .misuse

end SchemaLowering
