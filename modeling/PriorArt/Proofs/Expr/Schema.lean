import Mathlib.Data.List.Forall2
import PriorArt.Expr.Interchange

/-!
# The schema of expressions in documents

A document is an expression if it is an object of a known type with the members that the type asks
for, and if its operands are expressions in turn. This module says so without any reader. It also
says what remains of a document when nothing is kept but the members of the schema, and when two
documents are the same, whatever the order of the members in their objects.
-/

namespace PriorArt

namespace Json

/-- Documents that hold the same: objects under the same keys, whatever the order of their members,
and arrays in the same order. -/
inductive Same : Json → Json → Prop where
  | refl (document : Json) : Same document document
  | arr {items others : List Json} (each : List.Forall₂ Same items others) :
      Same (.arr items) (.arr others)
  | obj {members others : List (Text × Json)}
      (each : ∀ key, Option.Rel Same (members.lookup key) (others.lookup key)) :
      Same (.obj members) (.obj others)

end Json

namespace Expr

/-- The keys of an object of a form. -/
def Form.keys : Form → List String
  | .word => ["type", "token"]
  | .reference => ["type", "id"]
  | .logical => ["type", "op", "children"]
  | .proximity => ["type", "mode", "k", "children"]
  | .simultaneous => ["type", "mode", "k", "children"]

/-- Whether a key is one of a form. -/
def Form.hasKey (form : Form) (key : Text) : Bool := form.keys.any (fun name => name.toList = key)

/-- The members of an object with the mode of the three-operand form, which may be left out. -/
def withMode (form : Form) (members : List (Text × Json)) : List (Text × Json) :=
  match form, members.lookup "mode".toList with
  | .simultaneous, none => ("mode".toList, Json.ofString DistanceUnit.words.modeName) :: members
  | _, _ => members

mutual

/-- A document without the members outside the schema, at every level, and with every mode that was
left out. -/
def tidied : Json → Json
  | .arr items => .arr (tidiedItems items)
  | .obj members =>
    match Form.ofType? (memberOrNull "type" (.obj members)) with
    | some form => .obj (withMode form (tidiedMembers form members))
    | none => .obj members
  | document => document

/-- The members of an object that belong to a form. -/
def tidiedMembers (form : Form) : List (Text × Json) → List (Text × Json)
  | [] => []
  | (key, value) :: members =>
    if form.hasKey key then (key, tidied value) :: tidiedMembers form members
    else tidiedMembers form members

/-- The items of an array, each of them tidied. -/
def tidiedItems : List Json → List Json
  | [] => []
  | item :: items => tidied item :: tidiedItems items

end

/-- A document is of a form. -/
def IsOfForm (document : Json) (form : Form) : Prop :=
  document.get? "type" = some (Json.ofString form.name)

/-- A document gives a count of words or sentences, a whole number that is not negative. -/
def HasCount (document : Json) : Prop :=
  ∃ count : Int, document.get? "k" = some (.int count) ∧ 0 ≤ count

/-- A document follows the schema of expressions. -/
inductive Conforms : Json → Prop where
  | word {document : Json} {text : Text} (type : IsOfForm document .word)
      (token : document.get? "token" = some (.str text)) : Conforms document
  | reference {document : Json} {text : Text} (type : IsOfForm document .reference)
      (id : document.get? "id" = some (.str text)) : Conforms document
  | logical {document first : Json} {others : List Json} (type : IsOfForm document .logical)
      (op : document.get? "op" = some (.str ['+']) ∨ document.get? "op" = some (.str ['*']))
      (children : document.get? "children" = some (.arr (first :: others)))
      (each : ∀ operand ∈ first :: others, Conforms operand) : Conforms document
  | proximity {document left right : Json} (type : IsOfForm document .proximity)
      (mode : document.get? "mode" = some (Json.ofString "NNn") ∨
        document.get? "mode" = some (Json.ofString "NNc"))
      (count : HasCount document)
      (children : document.get? "children" = some (.arr [left, right]))
      (ofLeft : Conforms left) (ofRight : Conforms right) : Conforms document
  | simultaneous {document first second third : Json} (type : IsOfForm document .simultaneous)
      (mode : document.get? "mode" = some (Json.ofString "NNn") ∨ document.get? "mode" = none)
      (count : HasCount document)
      (children : document.get? "children" = some (.arr [first, second, third]))
      (ofFirst : Conforms first) (ofSecond : Conforms second) (ofThird : Conforms third) :
      Conforms document

end Expr

end PriorArt
