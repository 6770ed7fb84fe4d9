import PriorArt.Proofs.Query.Terminals

/-!
# Derivations of queries

A derivation shows how the grammar of queries produces a text. It keeps every choice of the grammar:
each kind of bracket, each chain of operands with its length, each field, and each terminal as it is
spelled. A gap may stand in front of every terminal, and terminals are matched greedily in the text
that is left.

A derivation is a tree of its own, defined without any reader of queries. The main result is that the
text determines the derivation, so the grammar is unambiguous. What can stand behind an atom, a union
or a product tells where it ends; and a term, a group or a brace ends where its last terminal does,
whatever follows.
-/

namespace PriorArt.Query

open Phrase (isGap isTermChar skipGap)

mutual

/-- What can take a field: a term, a group, or a brace of three products with its distance. -/
inductive OpenTree where
  | term (lexeme : Text)
  | group (inner : InsideTree)
  | brace (first second third : ProductTree) (distance : Text)

/-- An atom: what can take a field, with one or without, or a bracket. -/
inductive AtomTree where
  | plain (inner : OpenTree)
  | fielded (inner : OpenTree) (suffix : Text)
  | bracket (inner : InsideTree)

/-- What stands inside a group or bracket: a product, or two with the distance between them. -/
inductive InsideTree where
  | product (inner : ProductTree)
  | proximity (left : ProductTree) (distance : Text) (right : ProductTree)

/-- A chain of one or more atoms joined by plus signs. -/
inductive UnionTree where
  | last (operand : AtomTree)
  | more (operand : AtomTree) (others : UnionTree)

/-- A chain of one or more unions joined by stars. A query as a whole is such a chain, too. -/
inductive ProductTree where
  | last (operand : UnionTree)
  | more (operand : UnionTree) (others : ProductTree)

end

/-- A mark at the start of a text, behind a gap, and the text behind the mark. -/
def mark (sign : Char) (text rest : Text) : Prop := skipGap text = sign :: rest

/-- A terminal at the start of a text, behind a gap, and the text behind the terminal. -/
def terminal (pattern : Pattern) (lexeme text rest : Text) : Prop :=
  pattern.Matches (skipGap text) lexeme rest

/-- Parts that are produced one after the other. -/
def inTurn : List (Text → Text → Prop) → Text → Text → Prop
  | [], text, rest => text = rest
  | part :: parts, text, rest => ∃ middle, part text middle ∧ inTurn parts middle rest

mutual

/-- A derivation from a term, a group or a brace produces the start of a text, up to the rest. -/
def OpenTree.Produces : OpenTree → Text → Text → Prop
  | .term lexeme => terminal TermPattern lexeme
  | .group inner => inTurn [mark '(', inner.Produces, mark ')']
  | .brace first second third distance =>
    inTurn [mark '{', first.Produces, mark ',', second.Produces, mark ',', third.Produces, mark '}',
      mark ',', terminal distancePattern distance]

/-- A derivation from an atom produces the start of a text, up to the rest. -/
def AtomTree.Produces : AtomTree → Text → Text → Prop
  | .plain inner => inner.Produces
  | .fielded inner suffix => inTurn [inner.Produces, terminal fieldPattern suffix]
  | .bracket inner => inTurn [mark '[', inner.Produces, mark ']']

/-- A derivation from the inside of a group or bracket produces the start of a text, up to the
rest. -/
def InsideTree.Produces : InsideTree → Text → Text → Prop
  | .product inner => inner.Produces
  | .proximity left distance right =>
    inTurn [left.Produces, mark ',', terminal distancePattern distance, mark ',', right.Produces]

/-- A derivation from a union produces the start of a text, up to the rest. -/
def UnionTree.Produces : UnionTree → Text → Text → Prop
  | .last operand => operand.Produces
  | .more operand others => inTurn [operand.Produces, mark '+', others.Produces]

/-- A derivation from a product produces the start of a text, up to the rest. -/
def ProductTree.Produces : ProductTree → Text → Text → Prop
  | .last operand => operand.Produces
  | .more operand others => inTurn [operand.Produces, mark '*', others.Produces]

end

/-- A derivation of a whole query, behind which nothing but a gap stands. -/
def ProductTree.Derives (tree : ProductTree) (text : Text) : Prop :=
  ∃ rest, tree.Produces text rest ∧ skipGap rest = []

/-- Only one mark stands at the start of a text. -/
theorem mark_unique {sign other : Char} {text rest behind : Text} (first : mark sign text rest)
    (second : mark other text behind) : sign = other ∧ rest = behind :=
  List.cons.inj (first.symm.trans second)

/-- A mark at the start of a text where a term is matched would be a character of the term. -/
theorem term_char_of_mark {sign : Char} {lexeme text rest behind : Text}
    (isTerm : terminal TermPattern lexeme text rest) (isMark : mark sign text behind) :
    isTermChar sign = true := by
  obtain ⟨first, others, rfl, isChar⟩ := isTerm.fits.head
  obtain ⟨rfl, -⟩ := List.cons.inj (isTerm.parts.symm.trans isMark)
  exact isChar

/-- A field begins with a slash. -/
theorem slash_of_field {suffix text rest : Text} (isField : terminal fieldPattern suffix text rest) :
    ∃ behind, mark '/' text behind := by
  obtain ⟨field, first, second, _, same, _⟩ := field_matches_iff.mp isField
  exact ⟨_, same⟩

/-- None of several signs follows. -/
def EndsAt (signs : List Char) (text : Text) : Prop :=
  ∀ sign ∈ signs, ∀ rest, ¬ mark sign text rest

/-- Another mark than the signs follows. -/
theorem ends_at_mark {signs : List Char} {sign : Char} {text rest : Text}
    (isMark : mark sign text rest) (other : sign ∉ signs) : EndsAt signs text := by
  intro listed inside behind isListed
  obtain ⟨rfl, -⟩ := mark_unique isMark isListed
  exact other inside

/-- Two derivations that produce the start of one text up to the same mark are the same, if two that
end where none of several other signs follows are the same. -/
theorem unique_before_mark {Tree : Type} {produces : Tree → Text → Text → Prop} {signs : List Char}
    {tree other : Tree} {text : Text}
    (unique : ∀ {rest behind}, produces tree text rest → produces other text behind →
      EndsAt signs rest → EndsAt signs behind → tree = other ∧ rest = behind)
    {sign : Char} (notSign : sign ∉ signs) {stop next stop' next' : Text}
    (ofTree : produces tree text stop) (isMark : mark sign stop next)
    (ofOther : produces other text stop') (isMark' : mark sign stop' next') :
    tree = other ∧ stop = stop' ∧ next = next' := by
  obtain ⟨sameTree, rfl⟩ :=
    unique ofTree ofOther (ends_at_mark isMark notSign) (ends_at_mark isMark' notSign)
  exact ⟨sameTree, rfl, (mark_unique isMark isMark').2⟩

/-- Where none of several signs follows, none of some of them does. -/
theorem EndsAt.mono {signs fewer : List Char} {text : Text} (ends : EndsAt signs text)
    (listed : fewer ⊆ signs) : EndsAt fewer text :=
  fun sign inside => ends sign (listed inside)

/-- The signs that go on with an atom, a union, a product, and the inside of a group or bracket. -/
def atomSigns : List Char := ['/']

@[inherit_doc atomSigns]
def unionSigns : List Char := ['/', '+']

@[inherit_doc atomSigns]
def productSigns : List Char := ['/', '+', '*']

@[inherit_doc atomSigns]
def insideSigns : List Char := ['/', '+', '*', ',']

/-- No square bracket stands where a term, a group or a brace begins. -/
theorem OpenTree.no_square (tree : OpenTree) {text rest : Text} (produces : tree.Produces text rest)
    (behind : Text) : ¬ mark '[' text behind := by
  intro square
  cases tree with
  | term lexeme => exact absurd (term_char_of_mark produces square) (by decide)
  | group inner =>
    obtain ⟨_, opened, _⟩ := produces
    exact absurd (mark_unique opened square).1 (by decide)
  | brace first second third distance =>
    obtain ⟨_, opened, _⟩ := produces
    exact absurd (mark_unique opened square).1 (by decide)

mutual

/-- Two derivations from terms, groups and braces that produce the start of one text are the same,
whatever follows. The first character tells which kind comes. -/
theorem OpenTree.unique (tree other : OpenTree) {text rest behind : Text}
    (produces : tree.Produces text rest) (otherProduces : other.Produces text behind) :
    tree = other ∧ rest = behind := by
  cases tree with
  | term lexeme =>
    cases other with
    | term lexeme' =>
      obtain ⟨rfl, rfl⟩ := Pattern.Matches.unique produces otherProduces
      exact ⟨rfl, rfl⟩
    | group inner' =>
      obtain ⟨_, opened, _⟩ := otherProduces
      exact absurd (term_char_of_mark produces opened) (by decide)
    | brace first' second' third' distance' =>
      obtain ⟨_, opened, _⟩ := otherProduces
      exact absurd (term_char_of_mark produces opened) (by decide)
  | group inner =>
    obtain ⟨start, opened, stop, ofInner, last, closed, rfl⟩ := produces
    cases other with
    | term lexeme' => exact absurd (term_char_of_mark otherProduces opened) (by decide)
    | group inner' =>
      obtain ⟨start', opened', stop', ofInner', last', closed', rfl⟩ := otherProduces
      obtain ⟨-, rfl⟩ := mark_unique opened opened'
      obtain ⟨rfl, rfl, rfl⟩ := unique_before_mark (InsideTree.unique inner inner') (by decide)
        ofInner closed ofInner' closed'
      exact ⟨rfl, rfl⟩
    | brace first' second' third' distance' =>
      obtain ⟨_, opened', _⟩ := otherProduces
      exact absurd (mark_unique opened opened').1 (by decide)
  | brace first second third distance =>
    obtain ⟨_, opened, _, ofFirst, _, comma, _, ofSecond, _, nextComma, _, ofThird, _, closed, _,
      lastComma, last, ofDistance, rfl⟩ := produces
    cases other with
    | term lexeme' => exact absurd (term_char_of_mark otherProduces opened) (by decide)
    | group inner' =>
      obtain ⟨_, opened', _⟩ := otherProduces
      exact absurd (mark_unique opened opened').1 (by decide)
    | brace first' second' third' distance' =>
      obtain ⟨_, opened', _, ofFirst', _, comma', _, ofSecond', _, nextComma', _, ofThird', _,
        closed', _, lastComma', last', ofDistance', rfl⟩ := otherProduces
      obtain ⟨-, rfl⟩ := mark_unique opened opened'
      obtain ⟨rfl, rfl, rfl⟩ := unique_before_mark (ProductTree.unique first first') (by decide)
        ofFirst comma ofFirst' comma'
      obtain ⟨rfl, rfl, rfl⟩ := unique_before_mark (ProductTree.unique second second') (by decide)
        ofSecond nextComma ofSecond' nextComma'
      obtain ⟨rfl, rfl, rfl⟩ := unique_before_mark (ProductTree.unique third third') (by decide)
        ofThird closed ofThird' closed'
      obtain ⟨-, rfl⟩ := mark_unique lastComma lastComma'
      obtain ⟨rfl, rfl⟩ := ofDistance.unique ofDistance'
      exact ⟨rfl, rfl⟩
termination_by structural tree

/-- Two derivations from atoms that produce the start of one text are the same, if no field follows.
Both have the same atom without its field, and what follows it tells whether there is a field. -/
theorem AtomTree.unique (tree other : AtomTree) {text rest behind : Text}
    (produces : tree.Produces text rest) (otherProduces : other.Produces text behind)
    (ends : EndsAt atomSigns rest) (otherEnds : EndsAt atomSigns behind) :
    tree = other ∧ rest = behind := by
  cases tree with
  | plain inner =>
    cases other with
    | plain inner' =>
      obtain ⟨rfl, rfl⟩ := OpenTree.unique inner inner' produces otherProduces
      exact ⟨rfl, rfl⟩
    | fielded inner' suffix' =>
      obtain ⟨_, ofInner', _, ofField', rfl⟩ := otherProduces
      obtain ⟨-, rfl⟩ := OpenTree.unique inner inner' produces ofInner'
      obtain ⟨_, slash⟩ := slash_of_field ofField'
      exact absurd slash (ends '/' (by decide) _)
    | bracket inner' =>
      obtain ⟨_, opened', _⟩ := otherProduces
      exact absurd opened' (OpenTree.no_square inner produces _)
  | fielded inner suffix =>
    obtain ⟨_, ofInner, _, ofField, rfl⟩ := produces
    cases other with
    | plain inner' =>
      obtain ⟨-, rfl⟩ := OpenTree.unique inner inner' ofInner otherProduces
      obtain ⟨_, slash⟩ := slash_of_field ofField
      exact absurd slash (otherEnds '/' (by decide) _)
    | fielded inner' suffix' =>
      obtain ⟨_, ofInner', _, ofField', rfl⟩ := otherProduces
      obtain ⟨rfl, rfl⟩ := OpenTree.unique inner inner' ofInner ofInner'
      obtain ⟨rfl, rfl⟩ := ofField.unique ofField'
      exact ⟨rfl, rfl⟩
    | bracket inner' =>
      obtain ⟨_, opened', _⟩ := otherProduces
      exact absurd opened' (OpenTree.no_square inner ofInner _)
  | bracket inner =>
    obtain ⟨_, opened, _, ofInner, _, closed, rfl⟩ := produces
    cases other with
    | plain inner' => exact absurd opened (OpenTree.no_square inner' otherProduces _)
    | fielded inner' suffix' =>
      obtain ⟨_, ofInner', _⟩ := otherProduces
      exact absurd opened (OpenTree.no_square inner' ofInner' _)
    | bracket inner' =>
      obtain ⟨_, opened', _, ofInner', _, closed', rfl⟩ := otherProduces
      obtain ⟨-, rfl⟩ := mark_unique opened opened'
      obtain ⟨rfl, rfl, rfl⟩ := unique_before_mark (InsideTree.unique inner inner') (by decide)
        ofInner closed ofInner' closed'
      exact ⟨rfl, rfl⟩
termination_by structural tree

/-- Two derivations from insides that produce the start of one text are the same, if nothing follows
that goes on with them. Both begin with the same product, and a comma behind it tells whether there
are two. -/
theorem InsideTree.unique (tree other : InsideTree) {text rest behind : Text}
    (produces : tree.Produces text rest) (otherProduces : other.Produces text behind)
    (ends : EndsAt insideSigns rest) (otherEnds : EndsAt insideSigns behind) :
    tree = other ∧ rest = behind := by
  have endsProduct : EndsAt productSigns rest := ends.mono (by decide)
  have otherEndsProduct : EndsAt productSigns behind := otherEnds.mono (by decide)
  cases tree with
  | product inner =>
    cases other with
    | product inner' =>
      obtain ⟨rfl, rfl⟩ := ProductTree.unique inner inner' produces otherProduces endsProduct
        otherEndsProduct
      exact ⟨rfl, rfl⟩
    | proximity left' distance' right' =>
      obtain ⟨_, ofLeft', _, comma', _⟩ := otherProduces
      obtain ⟨-, rfl⟩ := ProductTree.unique inner left' produces ofLeft' endsProduct
        (ends_at_mark comma' (by decide))
      exact absurd comma' (ends ',' (by decide) _)
  | proximity left distance right =>
    obtain ⟨_, ofLeft, _, comma, _, ofDistance, _, nextComma, _, ofRight, rfl⟩ := produces
    cases other with
    | product inner' =>
      obtain ⟨-, rfl⟩ := ProductTree.unique left inner' ofLeft otherProduces
        (ends_at_mark comma (by decide)) otherEndsProduct
      exact absurd comma (otherEnds ',' (by decide) _)
    | proximity left' distance' right' =>
      obtain ⟨_, ofLeft', _, comma', _, ofDistance', _, nextComma', _, ofRight', rfl⟩ :=
        otherProduces
      obtain ⟨rfl, rfl, rfl⟩ := unique_before_mark (ProductTree.unique left left') (by decide)
        ofLeft comma ofLeft' comma'
      obtain ⟨rfl, rfl⟩ := ofDistance.unique ofDistance'
      obtain ⟨-, rfl⟩ := mark_unique nextComma nextComma'
      obtain ⟨rfl, rfl⟩ := ProductTree.unique right right' ofRight ofRight' endsProduct
        otherEndsProduct
      exact ⟨rfl, rfl⟩
termination_by structural tree

/-- Two derivations from unions that produce the start of one text are the same, if neither a field
nor a plus sign follows. -/
theorem UnionTree.unique (tree other : UnionTree) {text rest behind : Text}
    (produces : tree.Produces text rest) (otherProduces : other.Produces text behind)
    (ends : EndsAt unionSigns rest) (otherEnds : EndsAt unionSigns behind) :
    tree = other ∧ rest = behind := by
  cases tree with
  | last operand =>
    cases other with
    | last operand' =>
      obtain ⟨rfl, rfl⟩ := AtomTree.unique operand operand' produces otherProduces
        (ends.mono (by decide)) (otherEnds.mono (by decide))
      exact ⟨rfl, rfl⟩
    | more operand' others' =>
      obtain ⟨_, ofOperand', _, plus', _⟩ := otherProduces
      obtain ⟨-, rfl⟩ := AtomTree.unique operand operand' produces ofOperand'
        (ends.mono (by decide)) (ends_at_mark plus' (by decide))
      exact absurd plus' (ends '+' (by decide) _)
  | more operand others =>
    obtain ⟨_, ofOperand, _, plus, _, ofOthers, rfl⟩ := produces
    cases other with
    | last operand' =>
      obtain ⟨-, rfl⟩ := AtomTree.unique operand operand' ofOperand otherProduces
        (ends_at_mark plus (by decide)) (otherEnds.mono (by decide))
      exact absurd plus (otherEnds '+' (by decide) _)
    | more operand' others' =>
      obtain ⟨_, ofOperand', _, plus', _, ofOthers', rfl⟩ := otherProduces
      obtain ⟨rfl, rfl, rfl⟩ := unique_before_mark (AtomTree.unique operand operand') (by decide)
        ofOperand plus ofOperand' plus'
      obtain ⟨rfl, rfl⟩ := UnionTree.unique others others' ofOthers ofOthers' ends otherEnds
      exact ⟨rfl, rfl⟩
termination_by structural tree

/-- Two derivations from products that produce the start of one text are the same, if neither a field
nor a sign of a chain follows. -/
theorem ProductTree.unique (tree other : ProductTree) {text rest behind : Text}
    (produces : tree.Produces text rest) (otherProduces : other.Produces text behind)
    (ends : EndsAt productSigns rest) (otherEnds : EndsAt productSigns behind) :
    tree = other ∧ rest = behind := by
  cases tree with
  | last operand =>
    cases other with
    | last operand' =>
      obtain ⟨rfl, rfl⟩ := UnionTree.unique operand operand' produces otherProduces
        (ends.mono (by decide)) (otherEnds.mono (by decide))
      exact ⟨rfl, rfl⟩
    | more operand' others' =>
      obtain ⟨_, ofOperand', _, star', _⟩ := otherProduces
      obtain ⟨-, rfl⟩ := UnionTree.unique operand operand' produces ofOperand'
        (ends.mono (by decide)) (ends_at_mark star' (by decide))
      exact absurd star' (ends '*' (by decide) _)
  | more operand others =>
    obtain ⟨_, ofOperand, _, star, _, ofOthers, rfl⟩ := produces
    cases other with
    | last operand' =>
      obtain ⟨-, rfl⟩ := UnionTree.unique operand operand' ofOperand otherProduces
        (ends_at_mark star (by decide)) (otherEnds.mono (by decide))
      exact absurd star (otherEnds '*' (by decide) _)
    | more operand' others' =>
      obtain ⟨_, ofOperand', _, star', _, ofOthers', rfl⟩ := otherProduces
      obtain ⟨rfl, rfl, rfl⟩ := unique_before_mark (UnionTree.unique operand operand') (by decide)
        ofOperand star ofOperand' star'
      obtain ⟨rfl, rfl⟩ := ProductTree.unique others others' ofOthers ofOthers' ends otherEnds
      exact ⟨rfl, rfl⟩
termination_by structural tree

end

/-- Nothing goes on where a text ends. -/
theorem ends_at_end {text : Text} (noMore : skipGap text = []) (signs : List Char) :
    EndsAt signs text := by
  intro sign _ rest isMark
  cases noMore.symm.trans isMark

/-- The grammar is unambiguous: a text has at most one derivation. -/
theorem ProductTree.Derives.unique {tree other : ProductTree} {text : Text}
    (derives : tree.Derives text) (otherDerives : other.Derives text) : tree = other := by
  obtain ⟨rest, produces, noMore⟩ := derives
  obtain ⟨behind, otherProduces, otherNoMore⟩ := otherDerives
  exact (ProductTree.unique tree other produces otherProduces (ends_at_end noMore _)
    (ends_at_end otherNoMore _)).1

end PriorArt.Query
