import ScopedCss.Value.Method
import ScopedCss.Value.Parameters

/-!
Reading parts of values: attributes, subscripts and calls. A mapping theme gives its members as
attributes and as items, and objects among them come out as views.
-/
namespace ScopedCss.Value

/-! ### Attributes -/

/-- The class of a value. -/
def classOf (v : Value) : ClassRef :=
  match v with
  | .text _ => .text
  | .view _ | .theme (.mapping _) => .mappingTheme
  | .theme .empty => .emptyTheme
  | .counter _ => .counter
  | .record name fields => .generated name (fields.map (·.1))
  | .feature => .builtin "__future__._Feature"
  | v => .builtin v.typeName

/-- Whether a name is one of those that all values have more of than is described here. -/
def isSpecial (name : String) : Bool :=
  ['_', '_'].isPrefixOf name.toList && ['_', '_'].isSuffixOf name.toList

/-- The attributes of a mapping theme. Its methods hide members of their names, and of the other
names that start with an underscore only those for the data and the class are known. -/
def mappingAttribute (receiver : Value) (members : Members) (name : String) :
    Except EvalError Value :=
  if ["fast_cmp", "_wrap", "__init__", "__getattr__", "__getitem__", "__repr__"].contains name then
    .ok (.method receiver name)
  else if name = "_data" then .ok (.dict members)
  else if name = "__dict__" then .ok (.dict [("_data", .object members)])
  else if name = "__class__" then .ok (.classRef receiver.classOf)
  else if isSpecial name then .error .undescribed
  else if name.toList.head? = some '_' then .error (.hiddenAttribute name)
  else match members.lookup (name : Text) with
    | some v => .ok (wrap v)
    | Option.none => .error (.noThemeValue name)

/-- The parts of a whole number. -/
def intAttribute? (n : Int) (name : String) : Option Value :=
  if name = "real" ∨ name = "numerator" then some (.int n)
  else if name = "imag" then some (.int 0)
  else if name = "denominator" then some (.int 1)
  else Option.none

/-- The methods that a class has, as functions. -/
def ownFunctions : ClassRef → List String
  | .emptyTheme => ["fast_cmp"]
  | .mappingTheme => ["fast_cmp", "_wrap"]
  | .sink => ["write"]
  | .base | .generated _ _ => ["generate"]
  | _ => []

/-- The methods that a class has itself. -/
def ownMethods : ClassRef → List String
  | .base | .generated _ _ => ["new", "use_style"]
  | _ => []

/-- The attributes of a class that are known. -/
def classAttribute? (c : ClassRef) (name : String) : Option Value :=
  let (home, methods) := methodsOf c.name
  if name = "__name__" then some (.text c.name)
  else if name = "mro" then some (.function (.builtin name))
  else if (ownFunctions c).contains name then some (.function (.defined c.name name))
  else if (ownMethods c).contains name then some (.method (.classRef c) name)
  else if c.home = "" ∧ methods.contains name then
    some (.function (if isOfType name then .builtin name else .unbound home name))
  else Option.none

/-- The name of a function. -/
def functionName : Function → String
  | .pixels => "px"
  | .dataclass => "dataclass"
  | .builtin name | .defined _ name | .unbound _ name => name

/-- The methods of a value of a built-in type. -/
def builtinMethod? (v : Value) (name : String) : Option Value :=
  if v.isPrimitive ∧ (methodsOf v.typeName).2.contains name then some (.method v name)
  else Option.none

/-- The attributes that values other than mapping themes have. -/
def attribute? (v : Value) (name : String) : Option Value :=
  match v with
  | .bool b => intAttribute? (if b then 1 else 0) name
  | .int n => intAttribute? n name
  | .float _ | .nan =>
    if name = "real" then some v else if name = "imag" then some (.float 0.0) else Option.none
  | .theme (.custom _ c) =>
    if name = "color" then some (ofJson c)
    else if name = "fast_cmp" then some (.method v name)
    else Option.none
  | .theme .empty => if name = "fast_cmp" then some (.method v name) else Option.none
  | .record _ fields => fields.lookup name
  | .counter n => if name = "value" then some (.int n) else Option.none
  | .classRef c => classAttribute? c name
  | .function f => if name = "__name__" then some (.text (functionName f)) else Option.none
  | .method receiver own =>
    if name = "__name__" then some (.text own)
    else if name = "__self__" then some receiver
    else Option.none
  | _ => Option.none

/-- Whether an attribute that is not known may be there all the same. -/
def mayHave (v : Value) (name : String) : Bool :=
  isSpecial name ||
  match v with
  | .sink | .feature | .classRef (.builtin _) | .classRef .text => true
  | .classRef _ => name.toList.head? = some '_'
  | .record _ _ => ["generate", "new", "use_style"].contains name
  | _ => false

/-- The type that is said to lack an attribute. Methods are asked for those of their functions. -/
def attributeHolder (v : Value) : String :=
  match v with
  | .method receiver _ => if receiver.isPrimitive then v.typeName else "function"
  | v => v.typeName

def attributeOf (v : Value) (name : String) : Except EvalError Value :=
  match v with
  | .view members => mappingAttribute v members name
  | .theme (.mapping members) => mappingAttribute v members name
  | .theme (.derived _ members) => mappingAttribute v members name
  | v =>
    match (attribute? v name).or (builtinMethod? v name), v with
    | some a, _ => .ok a
    | Option.none, .classRef c =>
      if name = "__class__" then
        .ok (.classRef (.builtin (if c = .sink then "typing._ProtocolMeta" else "type")))
      else if v.mayHave name then .error .undescribed
      else .error (.noTypeAttribute c.name name)
    | Option.none, v =>
      if name = "__class__" then .ok (.classRef v.classOf)
      else if v.mayHave name then .error .undescribed
      else .error (.noAttribute v.attributeHolder name)

/-! ### Subscripts -/

/-- The type of data that cannot be looked up. -/
def unhashableData? : Json → Option String
  | .list _ => some "list"
  | .object _ => some "dict"
  | _ => Option.none

mutual

/-- The type of the first part of a key that cannot be looked up. -/
def unhashable? : Value → Option String
  | .list _ => some "list"
  | .dict _ => some "dict"
  | .tuple items => unhashableItem? items
  | .record _ fields => unhashableField? fields
  | .theme (.custom _ c) => unhashableData? c
  | _ => Option.none

def unhashableItem? : List Value → Option String
  | [] => Option.none
  | v :: vs =>
    match unhashable? v with
    | some t => some t
    | Option.none => unhashableItem? vs

def unhashableField? : List (String × Value) → Option String
  | [] => Option.none
  | (_, v) :: fs =>
    match unhashable? v with
    | some t => some t
    | Option.none => unhashableField? fs

end

/-- The member under a key. Only texts are keys. -/
def member (members : Members) (key : Value) : Except EvalError Json :=
  match unhashable? key, key with
  | some t, _ => .error (.unhashable t)
  | Option.none, .text t =>
    match members.lookup t with
    | some v => .ok v
    | Option.none => .error (.noKey t.display)
  | Option.none, key => do throw (.noKey (← key.display))

/-- The position that an index means in a sequence; negative ones count from the end. -/
def position (kind : SequenceKind) (length : Nat) (index : Value) : Except EvalError Nat :=
  match index.integer? with
  | Option.none => .error (.wrongIndex kind index.typeName)
  | some i =>
    if i ≥ Int.pow 2 63 ∨ i < -Int.pow 2 63 then .error .hugeIndex
    else
      let j := if i < 0 then i + length else i
      if 0 ≤ j ∧ j < length then .ok j.toNat else .error (.outOfRange kind)

def nth (kind : SequenceKind) (items : List Value) (index : Value) : Except EvalError Value := do
  let i ← position kind items.length index
  return items.getD i .none

def subscript (v index : Value) : Except EvalError Value :=
  match v with
  | .view members => (member members index).map wrap
  | .theme (.mapping members) => (member members index).map wrap
  | .theme (.derived _ members) => (member members index).map wrap
  | .dict members => (member members index).map ofJson
  | .list items => nth .list items index
  | .tuple items => nth .tuple items index
  | .text t => do
    let i ← position .text t.length index
    return .text (.ofLetters (t.letters[i]?.toList))
  | .classRef .sink => .error (.notGeneric ClassRef.sink.shown)
  | .classRef (.builtin _) => .error .undescribed
  | .classRef c => .error (.typeNotSubscriptable c.name)
  | v => .error (.notSubscriptable v.typeName)

/-! ### Calls -/

/-- The names of the arguments that the text of a value may be asked for with. -/
def textNames : List String := ["object", "encoding", "errors"]

/-- Checks a further argument of the text of a value. -/
def checkTextArgument (name : String) : Option Value → Except TextFault Unit
  | Option.none => .ok ()
  | some (.text t) =>
    if t.toString?.isNone then .error .unencodable
    else if t.contains (Char.ofNat 0) then .error .nullCharacter
    else .ok ()
  | some .none => .error (.notText name "None")
  | some v => .error (.notText name v.typeName)

/-- The values of the three arguments of the text of a value. -/
def textArguments (args : List Value) (keywords : List (String × Value)) :
    Except TextFault (List (Option Value)) := do
  let count := args.length + keywords.length
  if count > textNames.length then throw (.tooMany args.isEmpty count)
  match textNames.zipIdx.find? fun p => p.2 < args.length && keywords.any (·.1 == p.1) with
  | some (name, i) => throw (.repeated name (i + 1))
  | Option.none =>
    match keywords.find? fun k => !textNames.contains k.1 with
    | some (name, _) => throw (.unexpected name)
    | Option.none => return args.map some ++ (textNames.drop args.length).map fun n => keywords.lookup n

/-- The text of its first argument. More arguments would ask for a decoding, which no value here
has. -/
def callText (args : List Value) (keywords : List (String × Value)) : Except EvalError Value := do
  match ← (textArguments args keywords).mapError EvalError.textCall with
  | [object, encoding, errors] =>
    (checkTextArgument "encoding" encoding).mapError EvalError.textCall
    (checkTextArgument "errors" errors).mapError EvalError.textCall
    match object, encoding.isSome || errors.isSome with
    | Option.none, _ => return .text ""
    | some v, false => return .text (← v.toText)
    | some (.text _), true => throw (.textCall .cannotDecodeText)
    | some v, true => throw (.textCall (.cannotDecode v.typeName))
  | _ => return .text ""

/-- The values of the parameters of a function. -/
def arguments (p : Parameters) (args : List Value) (keywords : List (String × Value)) :
    Except EvalError (List (Option Value)) :=
  (p.bind args keywords).mapError EvalError.call

/-- Its one argument with the unit behind it. -/
def callPixels (args : List Value) (keywords : List (String × Value)) : Except EvalError Value := do
  match ← arguments ⟨"px", ["n"], 0⟩ args keywords with
  | [some v] => return .text ((← v.toText) ++ Text.ofString "px")
  | _ => return .text "px"

/-- The fields of a generated class as the parameters of what makes an instance. The first one is
the instance itself, which is called otherwise if a field has its name. A field with the name of an
attribute that every class has needs no value. -/
def fieldParameters (className : String) (fields : List String) : Parameters where
  function := className ++ ".__init__"
  names := (if fields.contains "self" then "__dataclass_self__" else "self") :: fields
  optional := if fields.getLast? = some "mro" then 1 else 0

/-- An instance of a generated class. -/
def callClass (className : String) (fields : List String) (args : List Value)
    (keywords : List (String × Value)) : Except EvalError Value := do
  let values ← arguments (fieldParameters className fields) (.none :: args) keywords
  return .record className
    (fields.zip ((values.drop 1).map fun v => v.getD (.function (.builtin "mro"))))

/-- The members of a mapping theme or a view. -/
def members? : Value → Option Members
  | .view members | .theme (.mapping members) | .theme (.derived _ members) => some members
  | _ => Option.none

/-- The quick comparison of a theme with another value. -/
def quickSame : Value → Value → Bool
  | .theme .empty, _ => true
  | .theme (.custom _ c), .theme (.custom _ d) => c.same d
  | .theme (.custom _ _), _ => false
  | v, other =>
    match v.members?, other.members? with
    | some ms, some ns => (Json.object ms).same (.object ns)
    | _, _ => false

def callMethod (receiver : Value) (name : String) (args : List Value)
    (keywords : List (String × Value)) : Except EvalError Value := do
  let function := receiver.methodOwner name ++ "." ++ name
  match name with
  | "fast_cmp" =>
    match ← arguments ⟨function, ["self", "other"], 0⟩ (receiver :: args) keywords with
    | [_, some other] => return .bool (quickSame receiver other)
    | _ => return .bool false
  | "_wrap" =>
    match ← arguments ⟨function, ["self", "value"], 0⟩ (receiver :: args) keywords with
    | [_, some (.dict members)] => return .view members
    | [_, some v] => return v
    | _ => return .none
  | _ => throw .undescribed

/-- Calls a value. What functions, classes and methods do beyond those that are named here is not
described. -/
def call (f : Value) (args : List Value) (keywords : List (String × Value)) :
    Except EvalError Value :=
  match f with
  | .function .pixels => callPixels args keywords
  | .classRef .text => callText args keywords
  | .classRef (.generated name fields) => callClass name fields args keywords
  | .classRef .emptyTheme => do
    discard (arguments ⟨"EmptyTheme.__init__", ["self"], 0⟩ (.none :: args) keywords)
    return .theme .empty
  | .method receiver name => callMethod receiver name args keywords
  | .function _ | .classRef _ => .error .undescribed
  | f => .error (.notCallable f.typeName)

end ScopedCss.Value
