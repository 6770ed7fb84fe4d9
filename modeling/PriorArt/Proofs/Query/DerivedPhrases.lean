import PriorArt.Proofs.Query.Derivation
import PriorArt.Proofs.Query.Reads

/-!
# What the reader makes of derivations

The phrase of a derivation keeps its brackets, chains and fields, and turns its terminals into the
values that they write. In a normal text the reader of queries finds exactly the phrases of
derivations: whatever it reads has a derivation, by induction on the depth of the reading, and
whatever has a derivation is read, by induction on the derivation. In the second direction it matters
where the derivation ends, since the reader goes on as long as it can.

What holds of the phrases of a normal query is therefore proved on its derivation, with no reader in
the way: each part of a derivation starts in a normal text, so all terms of the query are plain words.
-/

namespace PriorArt.Query

open Phrase

/-- The field that a suffix names. -/
def writtenField (suffix : Text) : Field := (Field.ofLetters? suffix.tail).getD .text

mutual

/-- The phrase of a derivation from a term, a group or a brace. -/
def OpenTree.phrase : OpenTree → Phrase
  | .term lexeme => .term lexeme
  | .group inner => .group inner.phrase
  | .brace first second third distance =>
    .brace (wholeProduct first.operands) (wholeProduct second.operands)
      (wholeProduct third.operands) (writtenDistance distance)

/-- The phrase of a derivation from an atom. -/
def AtomTree.phrase : AtomTree → Phrase
  | .plain inner => inner.phrase
  | .fielded inner suffix => .fielded inner.phrase (writtenField suffix)
  | .bracket inner => .bracket inner.phrase

/-- The phrase of a derivation from the inside of a group or bracket. -/
def InsideTree.phrase : InsideTree → Phrase
  | .product inner => wholeProduct inner.operands
  | .proximity left distance right =>
    .proximity (wholeProduct left.operands) (writtenDistance distance) (wholeProduct right.operands)

/-- The phrases of the operands of a union. -/
def UnionTree.operands : UnionTree → Phrase × List Phrase
  | .last operand => (operand.phrase, [])
  | .more operand others => (operand.phrase, others.operands.1 :: others.operands.2)

/-- The phrases of the operands of a product. -/
def ProductTree.operands : ProductTree → Phrase × List Phrase
  | .last operand => (wholeUnion operand.operands, [])
  | .more operand others => (wholeUnion operand.operands, others.operands.1 :: others.operands.2)

end

/-- A mark is taken exactly where it stands. -/
theorem expectMark_iff {sign : Char} {text rest : Text} :
    expectMark sign text = .ok rest ↔ mark sign text rest := by
  unfold expectMark mark
  split
  · next empty => simp [empty]
  · next character behind same =>
    rw [same]
    constructor
    · intro taken
      split at taken
      · next isSign => rw [isSign, Except.ok.inj taken]
      · cases taken
    · intro isMark
      obtain ⟨rfl, rfl⟩ := List.cons.inj isMark
      exact if_pos rfl

/-- A distance is taken exactly where one is matched. -/
theorem expectDistance_iff {text rest : Text} {distance : Distance} :
    expectDistance text = .ok (distance, rest) ↔
      ∃ lexeme, terminal distancePattern lexeme text rest ∧ writtenDistance lexeme = distance := by
  unfold terminal
  rw [← distance_iff, expectDistance]
  cases distance? (skipGap text) with
  | none => simp
  | some read => simp

/-- A field is taken where one is matched. -/
theorem withField_match {suffix text rest : Text} (normal : Text.IsNormal text)
    (isField : terminal fieldPattern suffix text rest) (inner : Phrase) :
    withField inner text = (fielded inner (writtenField suffix), rest) := by
  have behindGap := normal_skipGap normal
  obtain ⟨field, named⟩ := named_of_field_match behindGap isField
  rw [withField, (field_iff behindGap).mpr ⟨suffix, isField, named⟩, writtenField, named]
  rfl

/-- No field is taken where no slash follows. -/
theorem withField_ends {text : Text} (ends : EndsAt atomSigns text) (inner : Phrase) :
    withField inner text = (inner, text) := by
  have noField : field? (skipGap text) = none := by
    unfold field?
    split
    · next first second rest slash => exact absurd slash (ends '/' (by decide) _)
    · rfl
  rw [withField, noField]

/-- A field is matched where one is taken, and otherwise there is none. -/
theorem withField_cases {text rest : Text} {inner found : Phrase} (normal : Text.IsNormal text)
    (taken : withField inner text = (found, rest)) :
    (found = inner ∧ rest = text) ∨ ∃ suffix, terminal fieldPattern suffix text rest ∧
      found = fielded inner (writtenField suffix) := by
  unfold withField at taken
  split at taken
  · next field behind isField =>
    obtain ⟨suffix, isMatch, named⟩ := (field_iff (normal_skipGap normal)).mp isField
    obtain ⟨rfl, rfl⟩ := Prod.mk.inj taken
    refine .inr ⟨suffix, isMatch, ?_⟩
    rw [writtenField, named]
    rfl
  · obtain ⟨rfl, rfl⟩ := Prod.mk.inj taken
    exact .inl ⟨rfl, rfl⟩

/-- What is produced is a proper part at the start of a text. -/
def Advances (part : Text → Text → Prop) : Prop :=
  ∀ text rest, part text rest → rest <:+ text ∧ rest.length < text.length

/-- A mark takes part of a text. -/
theorem mark_advances (sign : Char) : Advances (mark sign) := by
  intro text rest isMark
  have gap := List.dropWhile_suffix (l := text) isGap
  have behind : rest <:+ skipGap text := by
    rw [show skipGap text = sign :: rest from isMark]
    exact List.suffix_cons sign rest
  have shorter : rest.length < (skipGap text).length := by
    rw [show skipGap text = sign :: rest from isMark]
    exact Nat.lt_succ_self _
  exact ⟨behind.trans gap, Nat.lt_of_lt_of_le shorter gap.length_le⟩

/-- A terminal takes part of a text, if its lexeme has characters. -/
theorem terminal_advances {pattern : Pattern} {lexeme : Text}
    (filled : ∀ behind, pattern lexeme behind → lexeme ≠ []) :
    Advances (terminal pattern lexeme) := by
  intro text rest isMatch
  have gap := List.dropWhile_suffix (l := text) isGap
  have parts : skipGap text = lexeme ++ rest := isMatch.parts
  have behind : rest <:+ skipGap text := by
    rw [parts]
    exact List.suffix_append lexeme rest
  have shorter : rest.length < (skipGap text).length := by
    have someChars := List.length_pos_iff.mpr (filled rest isMatch.fits)
    rw [parts, List.length_append]
    omega
  exact ⟨behind.trans gap, Nat.lt_of_lt_of_le shorter gap.length_le⟩

/-- A term takes part of a text. -/
theorem term_advances (lexeme : Text) : Advances (terminal TermPattern lexeme) := by
  refine terminal_advances (fun behind fits => ?_)
  obtain ⟨first, others, rfl, _⟩ := TermPattern.head fits
  exact List.cons_ne_nil first others

/-- A field takes part of a text. -/
theorem field_advances (suffix : Text) : Advances (terminal fieldPattern suffix) := by
  refine terminal_advances (fun behind fits => ?_)
  obtain ⟨field, first, second, rfl, _⟩ := fits
  exact List.cons_ne_nil _ _

/-- A distance takes part of a text. -/
theorem distance_advances (lexeme : Text) : Advances (terminal distancePattern lexeme) := by
  refine terminal_advances (fun behind fits => ?_)
  obtain ⟨digits, letter, rfl, _⟩ := fits
  simp

/-- Parts take part of a text in turn, if each of them does. -/
theorem advances_in_turn {part : Text → Text → Prop} {parts : List (Text → Text → Prop)}
    (first : Advances part) (others : ∀ other ∈ parts, Advances other) :
    Advances (inTurn (part :: parts)) := by
  induction parts generalizing part with
  | nil =>
    rintro text rest ⟨middle, ofFirst, same⟩
    exact first text rest (same ▸ ofFirst)
  | cons second parts inductionHypothesis =>
    rintro text rest ⟨middle, ofFirst, ofOthers⟩
    obtain ⟨ofSecond, ofMore⟩ := List.forall_mem_cons.mp others
    obtain ⟨behindFirst, shorterFirst⟩ := first text middle ofFirst
    obtain ⟨behind, shorter⟩ :=
      inductionHypothesis ofSecond ofMore middle rest ofOthers
    exact ⟨behind.trans behindFirst, Nat.lt_trans shorter shorterFirst⟩

mutual

/-- What a derivation from a term, a group or a brace produces is a proper part of a text. -/
theorem OpenTree.advances (tree : OpenTree) : Advances tree.Produces := by
  cases tree with
  | term lexeme => exact term_advances lexeme
  | group inner =>
    have ofInner := inner.advances
    exact advances_in_turn (mark_advances _) (by simp [ofInner, mark_advances])
  | brace first second third distance =>
    have ofFirst := first.advances
    have ofSecond := second.advances
    have ofThird := third.advances
    exact advances_in_turn (mark_advances _)
      (by simp [ofFirst, ofSecond, ofThird, mark_advances, distance_advances])
termination_by structural tree

/-- What a derivation from an atom produces is a proper part of a text. -/
theorem AtomTree.advances (tree : AtomTree) : Advances tree.Produces := by
  cases tree with
  | plain inner => exact inner.advances
  | fielded inner suffix =>
    exact advances_in_turn inner.advances (by simp [field_advances])
  | bracket inner =>
    have ofInner := inner.advances
    exact advances_in_turn (mark_advances _) (by simp [ofInner, mark_advances])
termination_by structural tree

/-- What a derivation from an inside produces is a proper part of a text. -/
theorem InsideTree.advances (tree : InsideTree) : Advances tree.Produces := by
  cases tree with
  | product inner => exact inner.advances
  | proximity left distance right =>
    have ofRight := right.advances
    exact advances_in_turn left.advances (by simp [ofRight, mark_advances, distance_advances])
termination_by structural tree

/-- What a derivation from a union produces is a proper part of a text. -/
theorem UnionTree.advances (tree : UnionTree) : Advances tree.Produces := by
  cases tree with
  | last operand => exact operand.advances
  | more operand others =>
    have ofOthers := others.advances
    exact advances_in_turn operand.advances (by simp [ofOthers, mark_advances])
termination_by structural tree

/-- What a derivation from a product produces is a proper part of a text. -/
theorem ProductTree.advances (tree : ProductTree) : Advances tree.Produces := by
  cases tree with
  | last operand => exact operand.advances
  | more operand others =>
    have ofOthers := others.advances
    exact advances_in_turn operand.advances (by simp [ofOthers, mark_advances])
termination_by structural tree

end

/-- Behind part of a normal text stands a normal text. -/
theorem Advances.normal {part : Text → Text → Prop} (advances : Advances part) {text rest : Text}
    (ofPart : part text rest) (normal : Text.IsNormal text) : Text.IsNormal rest :=
  normal.within (advances text rest ofPart).1.isInfix

/-- Behind part of a text stands a shorter text. -/
theorem Advances.shorter {part : Text → Text → Prop} (advances : Advances part) {text rest : Text}
    (ofPart : part text rest) : rest.length < text.length := (advances text rest ofPart).2

/-- Where parts of a normal text are produced in turn, each of them behind the first starts in a
shorter normal text. -/
theorem parts_behind {part : Text → Text → Prop} {parts : List (Text → Text → Prop)}
    {text rest : Text} (first : Advances part) (others : ∀ other ∈ parts, Advances other)
    (normal : Text.IsNormal text) (produced : inTurn (part :: parts) text rest) :
    ∃ middle, part text middle ∧
      inTurn (parts.map (fun other start stop =>
        (Text.IsNormal start ∧ start.length < text.length) ∧ other start stop)) middle rest := by
  obtain ⟨middle, ofFirst, ofOthers⟩ := produced
  refine ⟨middle, ofFirst, ?_⟩
  have normalMiddle := first.normal ofFirst normal
  have shorterMiddle := first.shorter ofFirst
  clear ofFirst
  induction parts generalizing middle with
  | nil => exact ofOthers
  | cons second parts inductionHypothesis =>
    obtain ⟨next, ofSecond, ofMore⟩ := ofOthers
    obtain ⟨advances, advanceMore⟩ := List.forall_mem_cons.mp others
    exact ⟨next, ⟨⟨normalMiddle, shorterMiddle⟩, ofSecond⟩,
      inductionHypothesis advanceMore next ofMore (advances.normal ofSecond normalMiddle)
        (Nat.lt_trans (advances.shorter ofSecond) shorterMiddle)⟩

mutual

/-- What is derived in a normal text from a term, a group or a brace has plain terms. -/
theorem OpenTree.plain_phrase (tree : OpenTree) {text rest : Text}
    (produces : tree.Produces text rest) (normal : Text.IsNormal text) :
    HasPlainTerms tree.phrase := by
  cases tree with
  | term lexeme =>
    have behindGap := normal_skipGap normal
    obtain ⟨same, again⟩ := term_again ((term_iff behindGap).mpr produces)
    rw [same] at behindGap
    exact .term ⟨again, behindGap.within (List.prefix_append ..).isInfix⟩
  | group inner =>
    obtain ⟨start, opened, stop, ⟨⟨normalStart, -⟩, ofInner⟩, -⟩ :=
      parts_behind (mark_advances _) (by simp [inner.advances, mark_advances]) normal produces
    exact .group (InsideTree.plain_phrase inner ofInner normalStart)
  | brace first second third distance =>
    obtain ⟨start, opened, afterFirst, ⟨⟨normalStart, -⟩, ofFirst⟩, next, -, afterSecond,
      ⟨⟨normalNext, -⟩, ofSecond⟩, more, -, afterThird, ⟨⟨normalMore, -⟩, ofThird⟩, -⟩ :=
      parts_behind (mark_advances _) (by simp [first.advances, second.advances, third.advances,
        mark_advances, distance_advances]) normal produces
    exact .brace (ProductTree.plain_operands first ofFirst normalStart).product
      (ProductTree.plain_operands second ofSecond normalNext).product
      (ProductTree.plain_operands third ofThird normalMore).product _
termination_by structural tree

/-- What is derived in a normal text from an atom has plain terms. -/
theorem AtomTree.plain_phrase (tree : AtomTree) {text rest : Text}
    (produces : tree.Produces text rest) (normal : Text.IsNormal text) :
    HasPlainTerms tree.phrase := by
  cases tree with
  | plain inner => exact OpenTree.plain_phrase inner produces normal
  | fielded inner suffix =>
    obtain ⟨middle, ofInner, -⟩ := produces
    exact .fielded (OpenTree.plain_phrase inner ofInner normal) _
  | bracket inner =>
    obtain ⟨start, opened, stop, ⟨⟨normalStart, -⟩, ofInner⟩, -⟩ :=
      parts_behind (mark_advances _) (by simp [inner.advances, mark_advances]) normal produces
    exact .bracket (InsideTree.plain_phrase inner ofInner normalStart)
termination_by structural tree

/-- What is derived in a normal text from an inside has plain terms. -/
theorem InsideTree.plain_phrase (tree : InsideTree) {text rest : Text}
    (produces : tree.Produces text rest) (normal : Text.IsNormal text) :
    HasPlainTerms tree.phrase := by
  cases tree with
  | product inner => exact (ProductTree.plain_operands inner produces normal).product
  | proximity left distance right =>
    obtain ⟨middle, ofLeft, start, -, stop, -, next, -, last, ⟨⟨normalNext, -⟩, ofRight⟩, -⟩ :=
      parts_behind left.advances (by simp [right.advances, mark_advances, distance_advances]) normal
        produces
    exact .proximity (ProductTree.plain_operands left ofLeft normal).product _
      (ProductTree.plain_operands right ofRight normalNext).product
termination_by structural tree

/-- The operands that are derived in a normal text from a union have plain terms. -/
theorem UnionTree.plain_operands (tree : UnionTree) {text rest : Text}
    (produces : tree.Produces text rest) (normal : Text.IsNormal text) :
    PlainOperands tree.operands := by
  cases tree with
  | last operand =>
    exact List.forall_mem_singleton.mpr (AtomTree.plain_phrase operand produces normal)
  | more operand others =>
    obtain ⟨middle, ofOperand, next, -, last, ⟨⟨normalNext, -⟩, ofOthers⟩, -⟩ :=
      parts_behind operand.advances (by simp [others.advances, mark_advances]) normal produces
    exact List.forall_mem_cons.mpr ⟨AtomTree.plain_phrase operand ofOperand normal,
      UnionTree.plain_operands others ofOthers normalNext⟩
termination_by structural tree

/-- The operands that are derived in a normal text from a product have plain terms. -/
theorem ProductTree.plain_operands (tree : ProductTree) {text rest : Text}
    (produces : tree.Produces text rest) (normal : Text.IsNormal text) :
    PlainOperands tree.operands := by
  cases tree with
  | last operand =>
    exact List.forall_mem_singleton.mpr (UnionTree.plain_operands operand produces normal).union
  | more operand others =>
    obtain ⟨middle, ofOperand, next, -, last, ⟨⟨normalNext, -⟩, ofOthers⟩, -⟩ :=
      parts_behind operand.advances (by simp [others.advances, mark_advances]) normal produces
    exact List.forall_mem_cons.mpr ⟨(UnionTree.plain_operands operand ofOperand normal).union,
      ProductTree.plain_operands others ofOthers normalNext⟩
termination_by structural tree

end

mutual

/-- What has a derivation from a term, a group or a brace is read as an atom, with the field that
follows, if one does. -/
theorem OpenTree.read (tree : OpenTree) {text rest : Text} {depth : Nat}
    (produces : tree.Produces text rest) (normal : Text.IsNormal text)
    (enough : 4 * text.length + 1 ≤ depth) :
    atom depth text = .ok (withField tree.phrase rest) := by
  obtain ⟨depth, rfl⟩ : ∃ less, depth = less + 1 := ⟨depth - 1, by omega⟩
  cases tree with
  | term lexeme =>
    have found := (term_iff (normal_skipGap normal)).mpr produces
    rw [Phrase.atom]
    split
    · next behind opened => exact absurd (term_char_of_mark produces opened) (by decide)
    · next behind opened => exact absurd (term_char_of_mark produces opened) (by decide)
    · next behind opened => exact absurd (term_char_of_mark produces opened) (by decide)
    · rw [found]
      rfl
  | group inner =>
    obtain ⟨start, opened, stop, ⟨⟨normalStart, shorter⟩, ofInner⟩, last, ⟨-, closed⟩, rfl⟩ :=
      parts_behind (mark_advances _) (by simp [inner.advances, mark_advances]) normal produces
    have readInner := InsideTree.read inner ofInner normalStart
      (ends_at_mark closed (by decide)) (show 4 * start.length + 4 ≤ depth by omega)
    rw [Phrase.atom, show skipGap text = '(' :: start from opened]
    simp only [readInner, Reading.ok_bind, expectMark_iff.mpr closed]
    rfl
  | brace first second third distance =>
    obtain ⟨start, opened, afterFirst, ⟨⟨normalStart, atStart⟩, ofFirst⟩, next, ⟨-, comma⟩,
      afterSecond, ⟨⟨normalNext, atNext⟩, ofSecond⟩, more, ⟨-, nextComma⟩, afterThird,
      ⟨⟨normalMore, atMore⟩, ofThird⟩, stop, ⟨-, closed⟩, last, ⟨-, lastComma⟩, rest,
      ⟨-, ofDistance⟩, rfl⟩ :=
      parts_behind (mark_advances _) (by simp [first.advances, second.advances, third.advances,
        mark_advances, distance_advances]) normal produces
    have readFirst := ProductTree.read first ofFirst normalStart (ends_at_mark comma (by decide))
      (show 4 * start.length + 3 ≤ depth by omega)
    have readSecond := ProductTree.read second ofSecond normalNext
      (ends_at_mark nextComma (by decide)) (show 4 * next.length + 3 ≤ depth by omega)
    have readThird := ProductTree.read third ofThird normalMore (ends_at_mark closed (by decide))
      (show 4 * more.length + 3 ≤ depth by omega)
    have readDistance := expectDistance_iff.mpr ⟨distance, ofDistance, rfl⟩
    rw [Phrase.atom, show skipGap text = '{' :: start from opened]
    simp only [readFirst, readSecond, readThird, readDistance, Reading.ok_bind,
      expectMark_iff.mpr comma, expectMark_iff.mpr nextComma, expectMark_iff.mpr closed,
      expectMark_iff.mpr lastComma]
    rfl
termination_by structural tree

/-- What has a derivation from an atom is read as an atom, if no field follows. -/
theorem AtomTree.read (tree : AtomTree) {text rest : Text} {depth : Nat}
    (produces : tree.Produces text rest) (normal : Text.IsNormal text)
    (ends : EndsAt atomSigns rest) (enough : 4 * text.length + 1 ≤ depth) :
    atom depth text = .ok (tree.phrase, rest) := by
  cases tree with
  | plain inner =>
    have readInner := OpenTree.read inner produces normal enough
    rw [withField_ends ends] at readInner
    exact readInner
  | fielded inner suffix =>
    obtain ⟨middle, ofInner, last, ofField, rfl⟩ := produces
    rw [OpenTree.read inner ofInner normal enough,
      withField_match (inner.advances.normal ofInner normal) ofField]
    rfl
  | bracket inner =>
    obtain ⟨depth, rfl⟩ : ∃ less, depth = less + 1 := ⟨depth - 1, by omega⟩
    obtain ⟨start, opened, stop, ⟨⟨normalStart, shorter⟩, ofInner⟩, last, ⟨-, closed⟩, rfl⟩ :=
      parts_behind (mark_advances _) (by simp [inner.advances, mark_advances]) normal produces
    have readInner := InsideTree.read inner ofInner normalStart
      (ends_at_mark closed (by decide)) (show 4 * start.length + 4 ≤ depth by omega)
    rw [Phrase.atom, show skipGap text = '[' :: start from opened]
    simp only [readInner, Reading.ok_bind, expectMark_iff.mpr closed]
    rfl
termination_by structural tree

/-- What has a derivation from the inside of a group or bracket is read as an inside, if nothing
follows that goes on with it. -/
theorem InsideTree.read (tree : InsideTree) {text rest : Text} {depth : Nat}
    (produces : tree.Produces text rest) (normal : Text.IsNormal text)
    (ends : EndsAt insideSigns rest) (enough : 4 * text.length + 4 ≤ depth) :
    inside depth text = .ok (tree.phrase, rest) := by
  obtain ⟨depth, rfl⟩ : ∃ less, depth = less + 1 := ⟨depth - 1, by omega⟩
  have endsProduct : EndsAt productSigns rest := ends.mono (by decide)
  cases tree with
  | product inner =>
    have readInner := ProductTree.read inner produces normal endsProduct
      (show 4 * text.length + 3 ≤ depth by omega)
    rw [Phrase.inside]
    simp only [readInner, Reading.ok_bind]
    split
    · next behind comma => exact absurd comma (ends ',' (by decide) _)
    · rfl
  | proximity left distance right =>
    obtain ⟨middle, ofLeft, start, ⟨-, comma⟩, stop, ⟨-, ofDistance⟩, next, ⟨-, nextComma⟩, last,
      ⟨⟨normalNext, shorter⟩, ofRight⟩, rfl⟩ :=
      parts_behind left.advances (by simp [right.advances, mark_advances, distance_advances]) normal
        produces
    have readLeft := ProductTree.read left ofLeft normal (ends_at_mark comma (by decide))
      (show 4 * text.length + 3 ≤ depth by omega)
    have readRight := ProductTree.read right ofRight normalNext endsProduct
      (show 4 * next.length + 3 ≤ depth by omega)
    have readDistance := expectDistance_iff.mpr ⟨distance, ofDistance, rfl⟩
    rw [Phrase.inside]
    simp only [readLeft, Reading.ok_bind, show skipGap middle = ',' :: start from comma, readDistance,
      expectMark_iff.mpr nextComma, readRight]
    rfl
termination_by structural tree

/-- What has a derivation from a union is read as one, if neither a field nor a plus sign follows. -/
theorem UnionTree.read (tree : UnionTree) {text rest : Text} {depth : Nat}
    (produces : tree.Produces text rest) (normal : Text.IsNormal text)
    (ends : EndsAt unionSigns rest) (enough : 4 * text.length + 2 ≤ depth) :
    alternatives depth text = .ok (tree.operands, rest) := by
  obtain ⟨depth, rfl⟩ : ∃ less, depth = less + 1 := ⟨depth - 1, by omega⟩
  cases tree with
  | last operand =>
    have readOperand := AtomTree.read operand produces normal (ends.mono (by decide))
      (show 4 * text.length + 1 ≤ depth by omega)
    rw [alternatives]
    simp only [readOperand, Reading.ok_bind]
    split
    · next behind plus => exact absurd plus (ends '+' (by decide) _)
    · rfl
  | more operand others =>
    obtain ⟨middle, ofOperand, next, ⟨-, plus⟩, last, ⟨⟨normalNext, shorter⟩, ofOthers⟩, rfl⟩ :=
      parts_behind operand.advances (by simp [others.advances, mark_advances]) normal produces
    have readOperand := AtomTree.read operand ofOperand normal (ends_at_mark plus (by decide))
      (show 4 * text.length + 1 ≤ depth by omega)
    have readOthers := UnionTree.read others ofOthers normalNext ends
      (show 4 * next.length + 2 ≤ depth by omega)
    rw [alternatives]
    simp only [readOperand, Reading.ok_bind, show skipGap middle = '+' :: next from plus, readOthers]
    rfl
termination_by structural tree

/-- What has a derivation from a product is read as one, if neither a field nor a sign of a chain
follows. -/
theorem ProductTree.read (tree : ProductTree) {text rest : Text} {depth : Nat}
    (produces : tree.Produces text rest) (normal : Text.IsNormal text)
    (ends : EndsAt productSigns rest) (enough : 4 * text.length + 3 ≤ depth) :
    factors depth text = .ok (tree.operands, rest) := by
  obtain ⟨depth, rfl⟩ : ∃ less, depth = less + 1 := ⟨depth - 1, by omega⟩
  cases tree with
  | last operand =>
    have readOperand := UnionTree.read operand produces normal (ends.mono (by decide))
      (show 4 * text.length + 2 ≤ depth by omega)
    rw [factors]
    simp only [readOperand, Reading.ok_bind]
    split
    · next behind star => exact absurd star (ends '*' (by decide) _)
    · rfl
  | more operand others =>
    obtain ⟨middle, ofOperand, next, ⟨-, star⟩, last, ⟨⟨normalNext, shorter⟩, ofOthers⟩, rfl⟩ :=
      parts_behind operand.advances (by simp [others.advances, mark_advances]) normal produces
    have readOperand := UnionTree.read operand ofOperand normal (ends_at_mark star (by decide))
      (show 4 * text.length + 2 ≤ depth by omega)
    have readOthers := ProductTree.read others ofOthers normalNext ends
      (show 4 * next.length + 3 ≤ depth by omega)
    rw [factors]
    simp only [readOperand, Reading.ok_bind, show skipGap middle = '*' :: next from star, readOthers]
    rfl
termination_by structural tree

end

/-- What a reader finds in a normal text is the value of a derivation of what it takes. -/
def FindsDerived {Tree α : Type} (produces : Tree → Text → Text → Prop) (value : Tree → α)
    (reader : Text → Except Text (α × Text)) : Prop :=
  ∀ {text found rest}, Text.IsNormal text → reader text = .ok (found, rest) →
    ∃ tree, produces tree text rest ∧ value tree = found

/-- What is found in front of a mark is derived, and the reading goes on in a normal text. -/
theorem FindsDerived.marked {Tree α : Type} {produces : Tree → Text → Text → Prop} {value : Tree → α}
    {reader : Text → Except Text (α × Text)} (finds : FindsDerived produces value reader)
    (advances : ∀ tree, Advances (produces tree)) {sign : Char} {text stop behind : Text} {found : α}
    (normal : Text.IsNormal text) (read : reader text = .ok (found, stop))
    (isMark : mark sign stop behind) :
    ∃ tree, produces tree text stop ∧ value tree = found ∧ Text.IsNormal behind := by
  obtain ⟨tree, ofTree, same⟩ := finds normal read
  have normalStop := (advances tree).normal ofTree normal
  exact ⟨tree, ofTree, same, (mark_advances sign).normal isMark normalStop⟩

variable {depth : Nat}

/-- The operands of a product are derived if those of unions and the other operands are. -/
theorem finds_products
    (ofUnion : FindsDerived UnionTree.Produces UnionTree.operands (alternatives depth))
    (ofRest : FindsDerived ProductTree.Produces ProductTree.operands (factors depth)) :
    FindsDerived ProductTree.Produces ProductTree.operands (factors (depth + 1)) := by
  intro text found rest normal read
  rw [factors, Reading.bind_ok_iff] at read
  obtain ⟨⟨operands, middle⟩, readFirst, read⟩ := read
  dsimp only at read
  split at read
  · next behind star =>
    obtain ⟨operand, ofOperand, rfl, normalBehind⟩ :=
      ofUnion.marked UnionTree.advances normal readFirst star
    rw [Reading.bind_ok_iff] at read
    obtain ⟨⟨operands, last⟩, readRest, read⟩ := read
    obtain ⟨others, ofOthers, rfl⟩ := ofRest normalBehind readRest
    obtain ⟨rfl, rfl⟩ := Prod.mk.inj (Except.ok.inj read)
    exact ⟨.more operand others, ⟨middle, ofOperand, behind, star, last, ofOthers, rfl⟩, rfl⟩
  · obtain ⟨operand, ofOperand, rfl⟩ := ofUnion normal readFirst
    obtain ⟨rfl, rfl⟩ := Prod.mk.inj (Except.ok.inj read)
    exact ⟨.last operand, ofOperand, rfl⟩

/-- The operands of a union are derived if atoms and the other operands are. -/
theorem finds_unions (ofAtom : FindsDerived AtomTree.Produces AtomTree.phrase (atom depth))
    (ofRest : FindsDerived UnionTree.Produces UnionTree.operands (alternatives depth)) :
    FindsDerived UnionTree.Produces UnionTree.operands (alternatives (depth + 1)) := by
  intro text found rest normal read
  rw [alternatives, Reading.bind_ok_iff] at read
  obtain ⟨⟨phrase, middle⟩, readFirst, read⟩ := read
  dsimp only at read
  split at read
  · next behind plus =>
    obtain ⟨operand, ofOperand, rfl, normalBehind⟩ :=
      ofAtom.marked AtomTree.advances normal readFirst plus
    rw [Reading.bind_ok_iff] at read
    obtain ⟨⟨operands, last⟩, readRest, read⟩ := read
    obtain ⟨others, ofOthers, rfl⟩ := ofRest normalBehind readRest
    obtain ⟨rfl, rfl⟩ := Prod.mk.inj (Except.ok.inj read)
    exact ⟨.more operand others, ⟨middle, ofOperand, behind, plus, last, ofOthers, rfl⟩, rfl⟩
  · obtain ⟨operand, ofOperand, rfl⟩ := ofAtom normal readFirst
    obtain ⟨rfl, rfl⟩ := Prod.mk.inj (Except.ok.inj read)
    exact ⟨.last operand, ofOperand, rfl⟩

/-- The inside of a group or bracket is derived if products are. -/
theorem finds_insides
    (ofProduct : FindsDerived ProductTree.Produces ProductTree.operands (factors depth)) :
    FindsDerived InsideTree.Produces InsideTree.phrase (inside (depth + 1)) := by
  intro text found rest normal read
  rw [Phrase.inside, Reading.bind_ok_iff] at read
  obtain ⟨⟨operands, middle⟩, readLeft, read⟩ := read
  dsimp only at read
  split at read
  · next behind comma =>
    obtain ⟨left, ofLeft, rfl, normalBehind⟩ :=
      ofProduct.marked ProductTree.advances normal readLeft comma
    rw [Reading.bind_ok_iff] at read
    obtain ⟨⟨distance, stop⟩, readDistance, read⟩ := read
    obtain ⟨lexeme, ofDistance, rfl⟩ := expectDistance_iff.mp readDistance
    rw [Reading.bind_ok_iff] at read
    obtain ⟨next, nextComma, read⟩ := read
    rw [expectMark_iff] at nextComma
    have normalNext := (mark_advances ',').normal nextComma
      ((distance_advances lexeme).normal ofDistance normalBehind)
    rw [Reading.bind_ok_iff] at read
    obtain ⟨⟨operands, last⟩, readRight, read⟩ := read
    obtain ⟨right, ofRight, rfl⟩ := ofProduct normalNext readRight
    obtain ⟨rfl, rfl⟩ := Prod.mk.inj (Except.ok.inj read)
    exact ⟨.proximity left lexeme right, ⟨middle, ofLeft, behind, comma, stop, ofDistance, next,
      nextComma, last, ofRight, rfl⟩, rfl⟩
  · obtain ⟨left, ofLeft, rfl⟩ := ofProduct normal readLeft
    obtain ⟨rfl, rfl⟩ := Prod.mk.inj (Except.ok.inj read)
    exact ⟨.product left, ofLeft, rfl⟩

/-- With the field that is taken behind it, what can take a field is an atom. -/
theorem finds_withField (tree : OpenTree) {text middle rest : Text} {found : Phrase}
    (produces : tree.Produces text middle) (normal : Text.IsNormal text)
    (taken : withField tree.phrase middle = (found, rest)) :
    ∃ atom : AtomTree, atom.Produces text rest ∧ atom.phrase = found := by
  rcases withField_cases (tree.advances.normal produces normal) taken with
    ⟨rfl, rfl⟩ | ⟨suffix, ofField, rfl⟩
  · exact ⟨.plain tree, produces, rfl⟩
  · exact ⟨.fielded tree suffix, ⟨middle, produces, rest, ofField, rfl⟩, rfl⟩

section Atoms

variable {text start rest : Text} {found : Phrase}

/-- What is read at a round bracket is a group with its field, if one follows. -/
theorem finds_group (ofInside : FindsDerived InsideTree.Produces InsideTree.phrase (inside depth))
    (normal : Text.IsNormal text) (opened : mark '(' text start)
    (read : atom (depth + 1) text = .ok (found, rest)) :
    ∃ tree : AtomTree, tree.Produces text rest ∧ tree.phrase = found := by
  have normalStart := (mark_advances '(').normal opened normal
  rw [Phrase.atom, show skipGap text = '(' :: start from opened] at read
  simp only [Reading.bind_ok_iff, expectMark_iff] at read
  obtain ⟨⟨phrase, stop⟩, readInner, last, closed, taken⟩ := read
  obtain ⟨inner, ofInner, rfl⟩ := ofInside normalStart readInner
  exact finds_withField (.group inner) ⟨start, opened, stop, ofInner, last, closed, rfl⟩ normal
    (Except.ok.inj taken)

/-- What is read at a square bracket is a bracket. -/
theorem finds_bracket (ofInside : FindsDerived InsideTree.Produces InsideTree.phrase (inside depth))
    (normal : Text.IsNormal text) (opened : mark '[' text start)
    (read : atom (depth + 1) text = .ok (found, rest)) :
    ∃ tree : AtomTree, tree.Produces text rest ∧ tree.phrase = found := by
  have normalStart := (mark_advances '[').normal opened normal
  rw [Phrase.atom, show skipGap text = '[' :: start from opened] at read
  simp only [Reading.bind_ok_iff, expectMark_iff] at read
  obtain ⟨⟨phrase, stop⟩, readInner, last, closed, taken⟩ := read
  obtain ⟨inner, ofInner, rfl⟩ := ofInside normalStart readInner
  obtain ⟨rfl, rfl⟩ := Prod.mk.inj (Except.ok.inj taken)
  exact ⟨.bracket inner, ⟨start, opened, stop, ofInner, last, closed, rfl⟩, rfl⟩

/-- What is read at a brace is a brace with its distance, and with its field, if one follows. -/
theorem finds_brace
    (ofProduct : FindsDerived ProductTree.Produces ProductTree.operands (factors depth))
    (normal : Text.IsNormal text) (opened : mark '{' text start)
    (read : atom (depth + 1) text = .ok (found, rest)) :
    ∃ tree : AtomTree, tree.Produces text rest ∧ tree.phrase = found := by
  have normalStart := (mark_advances '{').normal opened normal
  rw [Phrase.atom, show skipGap text = '{' :: start from opened] at read
  simp only [Reading.bind_ok_iff, expectMark_iff] at read
  obtain ⟨⟨operands, afterFirst⟩, readFirst, next, comma, ⟨seconds, afterSecond⟩, readSecond, more,
    nextComma, ⟨thirds, afterThird⟩, readThird, stop, closed, last, lastComma, ⟨distance, behind⟩,
    readDistance, taken⟩ := read
  obtain ⟨first, ofFirst, rfl, normalNext⟩ :=
    ofProduct.marked ProductTree.advances normalStart readFirst comma
  obtain ⟨second, ofSecond, rfl, normalMore⟩ :=
    ofProduct.marked ProductTree.advances normalNext readSecond nextComma
  obtain ⟨third, ofThird, rfl⟩ := ofProduct normalMore readThird
  obtain ⟨lexeme, ofDistance, rfl⟩ := expectDistance_iff.mp readDistance
  exact finds_withField (.brace first second third lexeme)
    ⟨start, opened, afterFirst, ofFirst, next, comma, afterSecond, ofSecond, more, nextComma,
      afterThird, ofThird, stop, closed, last, lastComma, behind, ofDistance, rfl⟩ normal
    (Except.ok.inj taken)

end Atoms

/-- An atom is derived if what it encloses is. -/
theorem finds_atoms
    (ofProduct : FindsDerived ProductTree.Produces ProductTree.operands (factors depth))
    (ofInside : FindsDerived InsideTree.Produces InsideTree.phrase (inside depth)) :
    FindsDerived AtomTree.Produces AtomTree.phrase (atom (depth + 1)) := by
  intro text found rest normal read
  have ofAtom := read
  rw [Phrase.atom] at read
  split at read
  · next start opened => exact finds_group ofInside normal opened ofAtom
  · next start opened => exact finds_bracket ofInside normal opened ofAtom
  · next start opened => exact finds_brace ofProduct normal opened ofAtom
  · split at read
    · next lexeme behind isTerm =>
      have ofTerm := (term_iff (normal_skipGap normal)).mp isTerm
      exact finds_withField (.term lexeme) ofTerm normal (Except.ok.inj read)
    · cases read

/-- All that is read in a normal text is derived. The induction is on the depth of the recursion, over
the four levels of the grammar at once. -/
theorem finds_derived (depth : Nat) :
    FindsDerived ProductTree.Produces ProductTree.operands (factors depth) ∧
      FindsDerived UnionTree.Produces UnionTree.operands (alternatives depth) ∧
      FindsDerived AtomTree.Produces AtomTree.phrase (atom depth) ∧
      FindsDerived InsideTree.Produces InsideTree.phrase (inside depth) := by
  induction depth with
  | zero =>
    refine ⟨?_, ?_, ?_, ?_⟩ <;>
      · intro text found rest normal read
        cases read
  | succ depth inductionHypothesis =>
    obtain ⟨ofProduct, ofUnion, ofAtom, ofInside⟩ := inductionHypothesis
    exact ⟨finds_products ofUnion ofProduct, finds_unions ofAtom ofUnion,
      finds_atoms ofProduct ofInside, finds_insides ofProduct⟩

/-- The phrases of the factors of a query. -/
def ProductTree.phrases (tree : ProductTree) : List Phrase := tree.operands.1 :: tree.operands.2

/-- A normal text is read as a query exactly if it has a derivation, and as the phrases of the
derivation. -/
theorem of_query_iff {text : Text} (normal : Text.IsNormal text) {phrases : List Phrase} :
    ofQuery text = .ok phrases ↔
      ∃ tree : ProductTree, tree.Derives text ∧ tree.phrases = phrases := by
  constructor
  · intro read
    rw [ofQuery, Reading.bind_ok_iff] at read
    obtain ⟨⟨operands, rest⟩, readAll, read⟩ := read
    obtain ⟨tree, produces, rfl⟩ := (finds_derived _).1 normal readAll
    dsimp only at read
    split at read
    · next noMore => exact ⟨tree, ⟨rest, produces, noMore⟩, Except.ok.inj read⟩
    · cases read
  · rintro ⟨tree, ⟨rest, produces, noMore⟩, rfl⟩
    have readAll := tree.read produces normal (ends_at_end noMore _)
      (show 4 * text.length + 3 ≤ depthBound text by unfold depthBound; omega)
    rw [ofQuery, readAll]
    simp only [Reading.ok_bind, noMore]
    rfl

/-- The phrases of a normal query have plain terms. -/
theorem plain_of_query {text : Text} (normal : Text.IsNormal text) {phrases : List Phrase}
    (read : ofQuery text = .ok phrases) : ∀ phrase ∈ phrases, HasPlainTerms phrase := by
  obtain ⟨tree, ⟨rest, produces, -⟩, rfl⟩ := (of_query_iff normal).mp read
  exact tree.plain_operands produces normal

end PriorArt.Query
