import PriorArt.Catalogue
import PriorArt.Expr.LogicalForm
import PriorArt.Parts

/-!
# The meaning of expressions

An expression means the parts of a query, made bottom-up. An intersection puts the factors of its
operands together. A union joins operands that search for words, or operands that search for
codes. The operands of nearness must search for words. What a query has no notation for, such as
a union of words with codes, is never an error: the logical form of the whole operator becomes a
single word factor.

The meanings of words and references are parameters. Among stored entities a reference to an
expression means what that expression means; one that refers to itself, directly or through
others, is written by name instead.
-/

namespace PriorArt

namespace Parts

/-- The nearness of the first of several branches that is a nearness and nothing else, and the
other branches. -/
def takeNear? : List Parts → Option (Nearness × List Parts)
  | [] => none
  | ⟨[.near nearness], _⟩ :: rest => some (nearness, rest)
  | branch :: rest =>
    match takeNear? rest with
    | some (nearness, others) => some (nearness, branch :: others)
    | none => none

/-- The union of branches that search for words. The first nearness takes the other branches as
further alternatives of its right side; without one, the texts of the branches are united. -/
def uniteWords (branches : List Parts) : Parts :=
  match takeNear? branches with
  | some (nearness, others) =>
    ofFactor (.near (nearness.withAlternatives (others.map wordsText)))
  | none =>
    ofText (Text.join '+' (branches.map (fun branch =>
      Brackets.parenthesized (Brackets.strip branch.wordsText))))

/-- The union of branches that search for codes. -/
def uniteClasses (branches : List Parts) : Parts :=
  ofClass (Brackets.parenthesized (Text.join '+' (branches.map classesText)))

/-- The branches with one kind of content. -/
def branchesOf (kind : ContentKind) (branches : List Parts) : List Parts :=
  branches.filter (fun branch => branch.kind = kind)

/-- The union of branches, or the fallback where the branches search for both words and codes.
Branches without content do not count. -/
def unite (fallback : Parts) (branches : List Parts) : Parts :=
  let kinds := branches.map kind
  if kinds.contains .mixed || (kinds.contains .words && kinds.contains .classes) then fallback
  else if kinds.contains .words then uniteWords (branchesOf .words branches)
  else if kinds.contains .classes then uniteClasses (branchesOf .classes branches)
  else empty

/-- One branch near another, or the fallback where one of them does not search for words
alone. -/
def relate (fallback : Parts) (distance : Distance) (left right : Parts) : Parts :=
  if left.kind = .words && right.kind = .words then
    ofFactor (.near (.ofDistance left.wordsText right.wordsText distance))
  else fallback

/-- Three branches together, or the fallback where one of them does not search for words
alone. -/
def gather (fallback : Parts) (count : Nat) (first second third : Parts) : Parts :=
  if first.kind = .words && second.kind = .words && third.kind = .words then
    ofText (Expr.bracedText (Brackets.regroup first.wordsText)
      (Brackets.regroup second.wordsText) (Brackets.regroup third.wordsText) count)
  else fallback

end Parts

/-- The meanings of the leaves of an expression. -/
structure Meaning where
  word : Text → Parts
  reference : Text → Parts
  /-- The name by which a reference is written. -/
  name : Text → Text

namespace Expr

/-- An expression as a single word factor, its logical form. -/
def verbatim (name : Text → Text) (expr : Expr) : Parts := .ofText (logicalForm name expr)

mutual

/-- The parts of an expression whose leaves have the given meanings. -/
def partsWith (meaning : Meaning) : Expr → Parts
  | word text => meaning.word text
  | reference id => meaning.reference id
  | logical .and first others =>
    partsWith meaning first ++ productParts meaning others
  | logical .or first others =>
    Parts.unite (verbatim meaning.name (logical .or first others))
      (partsWith meaning first :: eachParts meaning others)
  | proximity distance left right =>
    Parts.relate (verbatim meaning.name (proximity distance left right)) distance
      (partsWith meaning left) (partsWith meaning right)
  | simultaneous count first second third =>
    Parts.gather (verbatim meaning.name (simultaneous count first second third)) count
      (partsWith meaning first) (partsWith meaning second) (partsWith meaning third)

/-- The parts of several operands together. -/
def productParts (meaning : Meaning) : List Expr → Parts
  | [] => .empty
  | expr :: exprs => partsWith meaning expr ++ productParts meaning exprs

/-- The parts of each of several operands. -/
def eachParts (meaning : Meaning) : List Expr → List Parts
  | [] => []
  | expr :: exprs => partsWith meaning expr :: eachParts meaning exprs

end

end Expr

namespace Catalogue

/-- The meaning of a word among stored entities: the definition of the word that it is the token
of, or else the word itself. -/
def wordParts (catalogue : Catalogue) (text : Text) : Parts :=
  match catalogue.wordOfToken? text with
  | some entity => .ofTrimmed (if entity.definition.allBlank then text else entity.definition)
  | none => .ofTrimmed text

/-- The meaning of a reference while the expressions of a list are being written out. An expression
among them is written by name. Every expression on the way is another one, so a depth of the
number of entities is never used up. -/
def referenceParts (catalogue : Catalogue) : Nat → List Text → Text → Parts
  | depth, expanding, id =>
    match catalogue.find? id with
    | none => .empty
    | some (.word entity) => .ofTrimmed entity.content
    | some (.classification group) =>
      if group.codes.isEmpty then .empty else .ofClass group.union
    | some (.expression entity) =>
      match entity.root, depth with
      | none, _ => .empty
      | some _, 0 => .ofText (catalogue.nameOf id)
      | some root, depth + 1 =>
        if expanding.contains id then .ofText (catalogue.nameOf id)
        else root.partsWith
          ⟨catalogue.wordParts, referenceParts catalogue depth (id :: expanding), catalogue.nameOf⟩

/-- The meanings of leaves among stored entities. -/
def meaning (catalogue : Catalogue) : Meaning :=
  ⟨catalogue.wordParts, catalogue.referenceParts catalogue.entities.length [], catalogue.nameOf⟩

/-- The parts of an expression among stored entities. -/
def parts (catalogue : Catalogue) (expr : Expr) : Parts := expr.partsWith catalogue.meaning

/-- The kind of content that an expression searches for. -/
def contentKind (catalogue : Catalogue) (expr : Expr) : ContentKind :=
  (catalogue.parts expr).kind

/-- The query for an expression. -/
def query (catalogue : Catalogue) (expr : Expr) : Text := (catalogue.parts expr).render

end Catalogue

end PriorArt
