import PriorArt.Text.Basic

/-!
# Search expressions

An expression combines words and references to named entities by union (`+`), intersection
(`*`) and nearness. Two operands can be near each other within a distance of words or of
sentences; three can occur together within a distance of words.

Malformed trees have no representation: an operator has at least one operand, the two kinds of
nearness have exactly two and three, and a distance is a natural number.
-/

namespace PriorArt

/-- The two set operators. -/
inductive Connective where
  | or
  | and
  deriving DecidableEq, Repr

/-- The sign by which an expression shows a set operator. -/
def Connective.sign : Connective → Char
  | .or => '+'
  | .and => '*'

/-- What a distance counts. -/
inductive DistanceUnit where
  | words
  | sentences
  deriving DecidableEq, Repr

/-- The letter behind the number of a distance. -/
def DistanceUnit.letter : DistanceUnit → Char
  | .words => 'n'
  | .sentences => 'c'

/-- The unit that a letter of either case names. -/
def DistanceUnit.ofLetter? : Char → Option DistanceUnit
  | 'n' | 'N' => some .words
  | 'c' | 'C' => some .sentences
  | _ => none

/-- The largest distance at which two operands count as near each other. -/
structure Distance where
  unit : DistanceUnit
  count : Nat
  deriving DecidableEq, Repr

/-- A distance as it is written, the number followed by the letter of its unit. -/
def Distance.text (distance : Distance) : Text := decimal distance.count ++ [distance.unit.letter]

/-- A search expression. -/
inductive Expr where
  /-- A search word or a classification code, or a name that a workbook resolves. -/
  | word (text : Text)
  /-- The entity with this id. -/
  | reference (id : Text)
  /-- One or more operands under a set operator. -/
  | logical (connective : Connective) (first : Expr) (others : List Expr)
  /-- The left operand near the right one. -/
  | proximity (distance : Distance) (left right : Expr)
  /-- Three operands within so many words of each other, in any order. -/
  | simultaneous (count : Nat) (first second third : Expr)

namespace Expr

mutual

/-- Whether two expressions are the same tree. -/
def decideEq : (left right : Expr) → Decidable (left = right)
  | word text, word text' => decidable_of_iff (text = text') (by simp)
  | reference id, reference id' => decidable_of_iff (id = id') (by simp)
  | logical connective first others, logical connective' first' others' =>
    match decEq connective connective', decideEq first first', decideEqAll others others' with
    | isTrue sameConnective, isTrue sameFirst, isTrue sameOthers =>
      isTrue (by rw [sameConnective, sameFirst, sameOthers])
    | isFalse different, _, _ => isFalse (by simp [different])
    | _, isFalse different, _ => isFalse (by simp [different])
    | _, _, isFalse different => isFalse (by simp [different])
  | proximity distance left right, proximity distance' left' right' =>
    match decEq distance distance', decideEq left left', decideEq right right' with
    | isTrue sameDistance, isTrue sameLeft, isTrue sameRight =>
      isTrue (by rw [sameDistance, sameLeft, sameRight])
    | isFalse different, _, _ => isFalse (by simp [different])
    | _, isFalse different, _ => isFalse (by simp [different])
    | _, _, isFalse different => isFalse (by simp [different])
  | simultaneous count first second third, simultaneous count' first' second' third' =>
    match decEq count count', decideEq first first', decideEq second second',
      decideEq third third' with
    | isTrue sameCount, isTrue sameFirst, isTrue sameSecond, isTrue sameThird =>
      isTrue (by rw [sameCount, sameFirst, sameSecond, sameThird])
    | isFalse different, _, _, _ => isFalse (by simp [different])
    | _, isFalse different, _, _ => isFalse (by simp [different])
    | _, _, isFalse different, _ => isFalse (by simp [different])
    | _, _, _, isFalse different => isFalse (by simp [different])
  | word _, reference _ | word _, logical .. | word _, proximity .. | word _, simultaneous ..
  | reference _, word _ | reference _, logical .. | reference _, proximity ..
  | reference _, simultaneous .. | logical .., word _ | logical .., reference _
  | logical .., proximity .. | logical .., simultaneous .. | proximity .., word _
  | proximity .., reference _ | proximity .., logical .. | proximity .., simultaneous ..
  | simultaneous .., word _ | simultaneous .., reference _ | simultaneous .., logical ..
  | simultaneous .., proximity .. => isFalse nofun

/-- Whether two lists of operands are the same. -/
def decideEqAll : (lefts rights : List Expr) → Decidable (lefts = rights)
  | [], [] => isTrue rfl
  | left :: lefts, right :: rights =>
    match decideEq left right, decideEqAll lefts rights with
    | isTrue sameFirst, isTrue sameOthers => isTrue (by rw [sameFirst, sameOthers])
    | isFalse different, _ => isFalse (by simp [different])
    | _, isFalse different => isFalse (by simp [different])
  | [], _ :: _ | _ :: _, [] => isFalse nofun

end

instance : DecidableEq Expr := decideEq

/-- Join operands by a set operator; a single operand stands for itself. -/
def join (connective : Connective) (first : Expr) : List Expr → Expr
  | [] => first
  | second :: others => logical connective first (second :: others)

/-- The expression below any operators with a single operand, which leave no trace in the
written form. -/
def unwrap : Expr → Expr
  | logical _ first [] => unwrap first
  | expr => expr

/-- Whether the written form of the expression is a union, which an intersection encloses. -/
def isUnion (expr : Expr) : Bool :=
  match unwrap expr with
  | logical .or _ _ => true
  | _ => false

/-- Whether the written form of the expression needs no brackets as an operand of nearness. -/
def isPrimary (expr : Expr) : Bool :=
  match unwrap expr with
  | word _ | reference _ | simultaneous .. => true
  | _ => false

mutual

/-- The expression and its parts at every depth, each before its own parts, in order. -/
def subexpressions : Expr → List Expr
  | word text => [word text]
  | reference id => [reference id]
  | logical connective first others =>
    logical connective first others :: subexpressions first ++ subexpressionsOfAll others
  | proximity distance left right =>
    proximity distance left right :: subexpressions left ++ subexpressions right
  | simultaneous count first second third =>
    simultaneous count first second third ::
      subexpressions first ++ subexpressions second ++ subexpressions third

/-- The parts of several expressions in order. -/
def subexpressionsOfAll : List Expr → List Expr
  | [] => []
  | expr :: exprs => subexpressions expr ++ subexpressionsOfAll exprs

end

/-- The text of a word. -/
def word? : Expr → Option Text
  | word text => some text
  | _ => none

/-- The id of a reference. -/
def reference? : Expr → Option Text
  | reference id => some id
  | _ => none

/-- The words of an expression in order, with repetitions. -/
def words (expr : Expr) : List Text := expr.subexpressions.filterMap word?

/-- The ids of the references of an expression in order, with repetitions. -/
def references (expr : Expr) : List Text := expr.subexpressions.filterMap reference?

/-- Whether the top operator is one of nearness. -/
def isNearness : Expr → Bool
  | proximity .. | simultaneous .. => true
  | _ => false

/-- Whether nearness occurs anywhere in the expression. -/
def containsNearness (expr : Expr) : Bool := expr.subexpressions.any isNearness

mutual

/-- Put an expression in the place of every word. -/
def replaceWords (meaning : Text → Expr) : Expr → Expr
  | word text => meaning text
  | reference id => reference id
  | logical connective first others =>
    logical connective (replaceWords meaning first) (replaceWordsOfAll meaning others)
  | proximity distance left right =>
    proximity distance (replaceWords meaning left) (replaceWords meaning right)
  | simultaneous count first second third =>
    simultaneous count (replaceWords meaning first) (replaceWords meaning second)
      (replaceWords meaning third)

/-- Put an expression in the place of every word of several expressions. -/
def replaceWordsOfAll (meaning : Text → Expr) : List Expr → List Expr
  | [] => []
  | expr :: exprs => replaceWords meaning expr :: replaceWordsOfAll meaning exprs

end

end Expr

end PriorArt
