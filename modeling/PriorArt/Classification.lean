import PriorArt.Expr.LogicalForm

/-!
# Classification codes

A group of classification codes is defined by an expression that only unites plain codes. This
module says which expressions do, why another does not, and which codes one contains.
-/

namespace PriorArt

/-- The first construct of an expression that does not belong into a group of codes. -/
inductive CodesError where
  | intersection (expr : Expr)
  | nearness (expr : Expr)
  | reference (id : Text)
  | noCode
  deriving DecidableEq

/-- The message for a definition that is no group of codes. -/
def CodesError.message : CodesError → String
  | .intersection expr =>
    s!"'*' is not allowed in a classification definition: {String.ofList expr.text}"
  | .nearness expr =>
    "Proximity operators are not allowed in a classification definition: "
      ++ String.ofList expr.text
  | .reference id =>
    "Entity references are not allowed in a classification definition: " ++ String.ofList id
  | .noCode => "No classification code found"

/-- The distinct codes of a list without the blanks around them, in order of first
occurrence. Blank codes are dropped. -/
def distinctCodes (codes : List Text) : List Text :=
  ((codes.map Text.trim).filter (fun code => !code.isEmpty)).eraseDups

namespace Expr

mutual

/-- Check that an expression only unites words, reporting the first part that does not. -/
def checkPlainUnion : Expr → Except CodesError Unit
  | word _ => .ok ()
  | reference id => .error (.reference id)
  | logical .or first others => do
    checkPlainUnion first
    checkPlainUnions others
  | logical .and first others => .error (.intersection (logical .and first others))
  | proximity distance left right => .error (.nearness (proximity distance left right))
  | simultaneous count first second third =>
    .error (.nearness (simultaneous count first second third))

/-- Check several expressions in order. -/
def checkPlainUnions : List Expr → Except CodesError Unit
  | [] => .ok ()
  | expr :: exprs => do
    checkPlainUnion expr
    checkPlainUnions exprs

end

/-- Whether an expression only unites words. -/
def isPlainUnion (expr : Expr) : Bool := (checkPlainUnion expr).isOk

/-- The codes of an expression that defines a group of them. There is at least one. -/
def codes (expr : Expr) : Except CodesError (List Text) := do
  checkPlainUnion expr
  match distinctCodes expr.words with
  | [] => .error .noCode
  | codes => return codes

end Expr

end PriorArt
