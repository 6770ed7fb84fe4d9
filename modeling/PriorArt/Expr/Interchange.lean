import PriorArt.Json
import PriorArt.Expr.Basic

/-!
# Expressions as JSON

An expression is exchanged as an object whose `type` names its form and whose other members are
the parts. Writing is total. Reading accepts exactly the documents of this shape, ignores
further members, and reports the first fault it meets: the parts of an object are checked in a
fixed order, a set operator before its operands and the operands before a distance.
-/

namespace PriorArt

/-- The name of a distance unit in documents. -/
def DistanceUnit.modeName : DistanceUnit → String
  | .words => "NNn"
  | .sentences => "NNc"

/-- A distance that a document gives in a wrong way. -/
inductive DistanceError where
  /-- The mode is not the name of a unit. -/
  | unknownMode (mode : Json)
  /-- The count is not a natural number. -/
  | badCount

/-- The message for a distance error. -/
def DistanceError.message : DistanceError → String
  | .unknownMode mode => s!"{String.ofList mode.literal} is not a valid ProximityMode"
  | .badCount => "Invalid k: must be a non-negative integer"

/-- The unit that a mode names. -/
def DistanceUnit.ofMode (mode : Json) : Except DistanceError DistanceUnit :=
  match mode with
  | .str text =>
    if text = "NNn".toList then .ok .words
    else if text = "NNc".toList then .ok .sentences
    else .error (.unknownMode mode)
  | _ => .error (.unknownMode mode)

/-- A count of words or sentences. Only whole numbers from zero on count; a number written with
a fraction does not, even where the fraction is zero. -/
def distanceCount (count : Json) : Except DistanceError Nat :=
  match count with
  | .int (.ofNat number) => .ok number
  | _ => .error .badCount

/-- A distance given by a mode and a count, the mode being checked first. -/
def Distance.ofJson (mode count : Json) : Except DistanceError Distance := do
  let unit ← DistanceUnit.ofMode mode
  let number ← distanceCount count
  return ⟨unit, number⟩

namespace Expr

/-- The forms of an expression, each with a type of its own in documents. -/
inductive Form where
  | word
  | reference
  | logical
  | proximity
  | simultaneous
  deriving DecidableEq

/-- The name of a form in documents. -/
def Form.name : Form → String
  | .word => "word"
  | .reference => "entityRef"
  | .logical => "logical"
  | .proximity => "proximity"
  | .simultaneous => "simulProx"

/-- The forms in the order in which a type is compared with their names. -/
def Form.all : List Form := [.word, .reference, .logical, .proximity, .simultaneous]

/-- The form that a type names. -/
def Form.ofType? : Json → Option Form
  | .str text => Form.all.find? (fun form => form.name.toList = text)
  | _ => none

/-- The form of an expression. -/
def form : Expr → Form
  | word _ => .word
  | reference _ => .reference
  | logical .. => .logical
  | proximity .. => .proximity
  | simultaneous .. => .simultaneous

/-- Why a document is not an expression. -/
inductive FormatError where
  | notAnObject (document : Json)
  | unknownType (type : Json)
  | missingText (form : Form) (key : String)
  | missingOperands (form : Form)
  | wrongOperandCount (form : Form) (expected actual : Nat)
  | unknownConnective (sign : Json)
  | noOperands
  | distance (form : Form) (error : DistanceError)
  | notWordDistance (mode : Json)

/-- The message for a format error. -/
def FormatError.message : FormatError → String
  | .notAnObject document => s!"Expected an object, got {document.typeName}"
  | .unknownType type => s!"Unknown AST node type: {String.ofList type.literal}"
  | .missingText form key => s!"'{form.name}' node needs a string '{key}'"
  | .missingOperands form => s!"'{form.name}' node needs a 'children' array"
  | .wrongOperandCount form expected actual =>
    s!"'{form.name}' node needs exactly {expected} children, got {actual}"
  | .unknownConnective sign =>
    s!"Invalid 'logical' node: {String.ofList sign.literal} is not a valid LogicalOp"
  | .noOperands => "Invalid 'logical' node: Invalid children: at least one child is required"
  | .distance form error => s!"Invalid '{form.name}' node: {error.message}"
  | .notWordDistance mode =>
    s!"simulProx mode must be word distance, got {String.ofList mode.literal}"

/-- An object of a form with further members. -/
def formObject (form : Form) (members : List (String × Json)) : Json :=
  .obj ((("type", Json.ofString form.name) :: members).map
    (fun (key, value) => (key.toList, value)))

mutual

/-- The document for an expression. -/
def toJson : Expr → Json
  | word text => formObject .word [("token", .str text)]
  | reference id => formObject .reference [("id", .str id)]
  | logical connective first others =>
    formObject .logical
      [("op", .str [connective.sign]), ("children", .arr (toJson first :: toJsons others))]
  | proximity distance left right =>
    formObject .proximity
      [("mode", Json.ofString distance.unit.modeName), ("k", .int distance.count),
        ("children", .arr [toJson left, toJson right])]
  | simultaneous count first second third =>
    formObject .simultaneous
      [("mode", Json.ofString DistanceUnit.words.modeName), ("k", .int count),
        ("children", .arr [toJson first, toJson second, toJson third])]

/-- The documents for several expressions. -/
def toJsons : List Expr → List Json
  | [] => []
  | expr :: exprs => toJson expr :: toJsons exprs

end

/-- A text member that a form requires. -/
def requiredText (form : Form) (key : String) (document : Json) : Except FormatError Text :=
  match document.get? key with
  | some (.str text) => .ok text
  | _ => .error (.missingText form key)

/-- The set operator that a sign names. -/
def connectiveOf (sign : Json) : Except FormatError Connective :=
  match sign with
  | .str ['+'] => .ok .or
  | .str ['*'] => .ok .and
  | _ => .error (.unknownConnective sign)

/-- The member of a document under a key, where a missing member counts as null. -/
def memberOrNull (key : String) (document : Json) : Json := (document.get? key).getD .null

/-- Check the mode of the three-operand form, which may be left out. -/
def checkWordDistance (document : Json) : Except FormatError Unit :=
  match document.get? "mode" with
  | none => .ok ()
  | some mode =>
    match DistanceUnit.ofMode mode with
    | .ok .words => .ok ()
    | _ => .error (.notWordDistance mode)

/-- Put together an expression from an object and the readings of its operands, if it has
any. -/
def assemble (document : Json) (operands : Option (List (Except FormatError Expr))) :
    Except FormatError Expr :=
  let type := memberOrNull "type" document
  match Form.ofType? type with
  | none => .error (.unknownType type)
  | some .word => (requiredText .word "token" document).map word
  | some .reference => (requiredText .reference "id" document).map reference
  | some .logical => do
    let connective ← connectiveOf (memberOrNull "op" document)
    match operands with
    | none => .error (.missingOperands .logical)
    | some readings =>
      match ← readings.mapM id with
      | [] => .error .noOperands
      | first :: others => return logical connective first others
  | some .proximity =>
    match operands with
    | none => .error (.missingOperands .proximity)
    | some [left, right] => do
      let left ← left
      let right ← right
      let distance ← (Distance.ofJson (memberOrNull "mode" document)
        (memberOrNull "k" document)).mapError (.distance .proximity)
      return proximity distance left right
    | some readings => .error (.wrongOperandCount .proximity 2 readings.length)
  | some .simultaneous => do
    checkWordDistance document
    match operands with
    | none => .error (.missingOperands .simultaneous)
    | some [first, second, third] => do
      let first ← first
      let second ← second
      let third ← third
      let count ← (distanceCount (memberOrNull "k" document)).mapError (.distance .simultaneous)
      return simultaneous count first second third
    | some readings => .error (.wrongOperandCount .simultaneous 3 readings.length)

mutual

/-- Read an expression from a document. -/
def ofJson : Json → Except FormatError Expr
  | .obj members => assemble (.obj members) (operandReadings? members)
  | document => .error (.notAnObject document)

/-- Read the items of the array under `children`, if there is one. -/
def operandReadings? : List (Text × Json) → Option (List (Except FormatError Expr))
  | [] => none
  | (key, .arr items) :: members =>
    if key = "children".toList then some (readings items) else operandReadings? members
  | (key, _) :: members =>
    if key = "children".toList then none else operandReadings? members

/-- Read each of several documents. -/
def readings : List Json → List (Except FormatError Expr)
  | [] => []
  | item :: items => ofJson item :: readings items

end

end Expr

end PriorArt
