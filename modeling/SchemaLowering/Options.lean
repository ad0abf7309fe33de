import SchemaLowering.Json.Spelling
import SchemaLowering.Text.LetterCase

/-!
Options of a run. A settings document may give an option a value of the wrong kind; it is kept as it
is, and using it then fails.
-/

namespace SchemaLowering

/-- How a value is used as what it is not. -/
inductive Misuse where
  /-- An operation that values of this kind do not have. -/
  | operation
  /-- A part that values of this kind do not have. -/
  | attribute
  deriving DecidableEq, Repr

/-- The values of a list without repetitions, the first of equal ones kept. Lists and objects have
no identity by which they could be told apart. -/
def Json.distinct (items : List Json) : Except Misuse (List Json) :=
  if items.all Json.isScalar then .ok (items.eraseDupsBy Json.sameScalar) else .error .operation

/-- What happens to an output file that exists. -/
inductive OutputMode where
  | refuse
  | force
  /-- A value that is no mode. It counts as not overwriting. -/
  | other (value : Json)

/-- Options for writing files. -/
structure OutputOptions where
  mode : OutputMode := .refuse
  validate : Json := .bool true
  atomic : Json := .bool true

/-- The output section as the settings give it. -/
inductive OutputSetting where
  | options (options : OutputOptions)
  | other (value : Json)

/-- The operations on options in whose place a settings document can put a value. -/
inductive OptionsOperation where
  | isReserved
  | toJson
  deriving DecidableEq, Repr

/-- The options of a run. -/
structure Options where
  /-- Whether concrete types get the derived declarations. -/
  crud : Json := .bool true
  /-- The field that stands in for missing members. -/
  placeholder : Json := .str "_placeholder"
  /-- Types that get no derived declarations, in any letter case. Settings can take the list
  away. -/
  reservedNames : Option Json := some (.arr [.str "query", .str "mutation"])
  /-- Types that start like this get none either. -/
  reservedStart : Json := .str "_"
  /-- Scalars that are compared by order but not searched as text. Settings can take the list
  away. -/
  dateScalars : Option Json := some (.arr [.str "Date", .str "DateTime"])
  /-- Whether a comment precedes each schema. -/
  comment : Json := .bool true
  /-- The ending of output file names. -/
  suffix : Json := .str ".graphql"
  output : OutputSetting := .options {}
  /-- The operations that a value stands in the place of. -/
  replaced : List OptionsOperation := []

/-- Why settings are refused. -/
inductive SettingsError where
  | misuse (misuse : Misuse)
  | unknownMode (text : String)
  deriving DecidableEq, Repr

def SettingsError.message : SettingsError → String
  | .misuse _ => ""
  | .unknownMode text => Text.quoted text ++ " is not a valid OutputMode"

def OutputMode.ofJson : Json → Except SettingsError OutputMode
  | .str "error" => .ok .refuse
  | .str "force" => .ok .force
  | .str text => .error (.unknownMode text)
  | value => .ok (.other value)

def OutputMode.isForce : OutputMode → Bool
  | .force => true
  | _ => false

/-- The output section of a settings document. -/
def OutputSetting.ofJson : Json → Except SettingsError OutputSetting
  | .obj members => do
    let mode ← match Json.field? members "mode" with
      | none => pure .refuse
      | some value => OutputMode.ofJson value
    return .options
      { mode
        validate := (Json.field? members "validate_before_write").getD (.bool true)
        atomic := (Json.field? members "atomic_write").getD (.bool true) }
  | value => .ok (.other value)

namespace Options

/-- Puts a value, as it is, in the place that a key names. Unknown keys change nothing. -/
def put (options : Options) (key : String) (value : Json) : Options :=
  match key with
  | "emit_crud_artifacts" => { options with crud := value }
  | "placeholder_field" => { options with placeholder := value }
  | "reserved_type_names" => { options with reservedNames := some value }
  | "reserved_prefix" => { options with reservedStart := value }
  | "date_scalar_names" => { options with dateScalars := some value }
  | "add_generation_comment" => { options with comment := value }
  | "output_suffix" => { options with suffix := value }
  | "output" => { options with output := .other value }
  | "is_reserved_type_name" => { options with replaced := .isReserved :: options.replaced }
  | "to_dict" => { options with replaced := .toJson :: options.replaced }
  | _ => options

/-- The options when their whole content is replaced. The lists and the output section have no
defaults then. -/
def ofContent (members : List (String × Json)) : Options :=
  members.foldl (fun options (key, value) => options.put key value)
    { reservedNames := none, dateScalars := none, output := .other .null }

/-- Sets the option that a key of the settings names. A list that was taken away cannot be set
again. The options as a whole have a kind and a handle, which cannot be set, and a content, which an
object replaces. -/
def set (options : Options) (key : String) (value : Json) : Except SettingsError Options :=
  match key, value with
  | "output", .obj _ => do
    let output ← OutputSetting.ofJson value
    return { options with output }
  | "reserved_type_names", _ =>
    .ok (if options.reservedNames.isSome then options.put key value else options)
  | "date_scalar_names", _ =>
    .ok (if options.dateScalars.isSome then options.put key value else options)
  | "__class__", _ => .error (.misuse .operation)
  | "__weakref__", _ => .error (.misuse .attribute)
  | "__dict__", .obj members => .ok (ofContent members)
  | "__dict__", _ => .error (.misuse .operation)
  | _, _ => .ok (options.put key value)

/-- The defaults, changed by each member of a settings document in turn (`from_dict`). -/
def ofJson : Json → Except SettingsError Options
  | .obj members => members.foldlM (fun options (key, value) => options.set key value) {}
  | _ => .error (.misuse .attribute)

def outputOptions (options : Options) : Except Misuse OutputOptions :=
  match options.output with
  | .options output => .ok output
  | .other _ => .error .attribute

def OutputMode.toJson : OutputMode → Except Misuse Json
  | .refuse => .ok (.str "error")
  | .force => .ok (.str "force")
  | .other _ => .error .attribute

/-- A value that may have been taken away. -/
def present : Option Json → Except Misuse Json
  | some value => .ok value
  | none => .error .attribute

/-- The settings document of the options (`to_dict`). -/
def toJson (options : Options) : Except Misuse Json := do
  if .toJson ∈ options.replaced then throw .operation
  let reservedNames ← present options.reservedNames
  let dateScalars ← present options.dateScalars
  let output ← options.outputOptions
  let mode ← OutputMode.toJson output.mode
  return .obj
    [("emit_crud_artifacts", options.crud),
     ("placeholder_field", options.placeholder),
     ("reserved_type_names", reservedNames),
     ("reserved_prefix", options.reservedStart),
     ("date_scalar_names", dateScalars),
     ("add_generation_comment", options.comment),
     ("output_suffix", options.suffix),
     ("output", .obj
       [("mode", mode), ("validate_before_write", output.validate),
        ("atomic_write", output.atomic)])]

/-- The texts of a collection: the items of a list, the keys of an object, the characters of a
text. -/
def texts : Json → Except Misuse (List String)
  | .arr items => items.mapM fun
    | .str text => .ok text
    | _ => .error .attribute
  | .obj members => .ok (members.map (·.1))
  | .str text => .ok (text.toList.map fun c => String.ofList [c])
  | _ => .error .operation

/-- Whether a type gets no derived declarations (`is_reserved_type_name`). Names are compared in
lower case. -/
def isReserved (options : Options) (name : String) : Except Misuse Bool := do
  if .isReserved ∈ options.replaced then throw .operation
  let reserved ← texts (← present options.reservedNames)
  if Text.lower name ∈ reserved.map Text.lower then return true
  if !options.reservedStart.isTrue then return false
  match options.reservedStart with
  | .str start => return start.toList.isPrefixOf name.toList
  | _ => throw .operation

/-- The name of the field that stands in for missing members. -/
def placeholderName (options : Options) : Except Misuse String :=
  match options.placeholder with
  | .str name => .ok name
  | _ => .error .operation

/-- Whether a text occurs in another one. -/
def occursIn (part : List Char) : List Char → Bool
  | [] => part.isEmpty
  | c :: rest => part.isPrefixOf (c :: rest) || occursIn part rest

/-- Whether an expression names a date scalar. In a text given for the list it is searched as a
part. -/
def isDateScalar (options : Options) (expression : String) : Except Misuse Bool :=
  match options.dateScalars with
  | some (.arr items) => .ok (items.any fun
    | .str text => text == expression
    | _ => false)
  | some (.obj members) => .ok (members.any (·.1 == expression))
  | some (.str text) => .ok (occursIn expression.toList text.toList)
  | some _ => .error .operation
  | none => .error .attribute

end Options

end SchemaLowering
