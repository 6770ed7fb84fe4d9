import PriorArt.Brackets
import PriorArt.Expr.Basic

/-!
# The logical form

The logical form of an expression is the line a person would write for it, without field
suffixes. Brackets stand where the operators bind too loosely: a union inside an intersection,
and any operator inside nearness, except the three-operand form, which has brackets of its own.
An operator with a single operand is written as that operand.

References are written by name. The form is taken over a naming function, so that expressions
can be written both by themselves and among stored entities.
-/

namespace PriorArt.Expr

/-- Enclose the text of an operand of nearness unless it is primary. -/
def operandText (operand : Expr) (text : Text) : Text :=
  if operand.isPrimary then text else Brackets.parenthesized text

/-- Enclose the text of an operand of a set operator where it binds too loosely. -/
def factorText (connective : Connective) (operand : Expr) (text : Text) : Text :=
  if connective = .and && operand.isUnion then Brackets.parenthesized text else text

/-- The three-operand form around the texts of its operands. -/
def bracedText (first second third : Text) (count : Nat) : Text :=
  '{' :: first ++ ',' :: second ++ ',' :: third ++ '}' :: ',' :: decimal count ++ ['n']

mutual

/-- The logical form, with references written by the given names. -/
def logicalForm (name : Text → Text) : Expr → Text
  | word text => text
  | reference id => name id
  | logical connective first others =>
    factorText connective first (logicalForm name first)
      ++ logicalForms name connective others
  | proximity distance left right =>
    operandText left (logicalForm name left) ++ ',' :: distance.text
      ++ ',' :: operandText right (logicalForm name right)
  | simultaneous count first second third =>
    bracedText (operandText first (logicalForm name first))
      (operandText second (logicalForm name second))
      (operandText third (logicalForm name third)) count

/-- The further operands of a set operator, each behind its sign. -/
def logicalForms (name : Text → Text) (connective : Connective) : List Expr → Text
  | [] => []
  | operand :: operands =>
    connective.sign :: factorText connective operand (logicalForm name operand)
      ++ logicalForms name connective operands

end

/-- The logical form with references written by their ids. -/
def text (expr : Expr) : Text := logicalForm id expr

end PriorArt.Expr
