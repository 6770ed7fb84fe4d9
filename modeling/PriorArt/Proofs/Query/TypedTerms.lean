import PriorArt.Proofs.Query.DerivedFactors
import PriorArt.Proofs.Spelling.Respelled

/-!
# Terms as they are typed

The terms of an accepted query stand in its normal form one after the other, between marks, gaps,
distances and complete suffixes. They stand in the text as it was typed, with its characters folded,
exactly if no letters of a field stand inside of a term there in another spelling: these are put in
capitals by the normal form, and imported so.
-/

namespace PriorArt.Query

open Phrase (isTermChar isGap skipGap)
open Text (endsRun completeSuffixes HasInnerSuffix HasCapitalSuffixes)

/-- A text is a term where runs end behind it: it has characters of terms and slashes, a character of
terms in front, and none of its slashes opens a complete suffix. -/
structure IsTypedTerm (term : Text) : Prop where
  begins : endsRun term = false
  chars : ∀ character ∈ term, isTermChar character = true ∨ character = '/'
  open_suffixes : ∀ front first second back field, term = front ++ '/' :: first :: second :: back →
    spelledField? first second = some field → endsRun back = false

/-- Terms stand in a text one after the other. Every slash of the text belongs to one of the terms or
to a complete suffix. -/
inductive StandIn : List Text → Text → Prop where
  | nil : StandIn [] []
  | other {terms : List Text} {text : Text} (character : Char) (noSlash : character ≠ '/')
      (later : StandIn terms text) : StandIn terms (character :: text)
  | suffix {terms : List Text} {text : Text} {first second : Char} {field : Field}
      (spelled : spelledField? first second = some field) (ends : endsRun text = true)
      (later : StandIn terms text) : StandIn terms ('/' :: first :: second :: text)
  | term {term : Text} {terms : List Text} {text : Text} (isTerm : IsTypedTerm term)
      (ends : endsRun text = true) (later : StandIn terms text) :
      StandIn (term :: terms) (term ++ text)

/-- Terms stand behind a text without slashes. -/
theorem StandIn.behind {terms : List Text} {front back : Text} (later : StandIn terms back)
    (noSlash : '/' ∉ front) : StandIn terms (front ++ back) := by
  induction front with
  | nil => exact later
  | cons character rest inductionHypothesis =>
    obtain ⟨isOther, noOthers⟩ := not_or.mp (List.mem_cons.not.mp noSlash)
    exact .other character (Ne.symm isOther) (inductionHypothesis noOthers)

/-- Runs end where a gap comes, or what ends them behind it. -/
theorem endsRun_of_skipGap {text : Text} (ends : endsRun (skipGap text) = true) :
    endsRun text = true := by
  cases text with
  | nil => rfl
  | cons character others =>
    cases gap : isGap character with
    | true =>
      simp only [isGap, Bool.or_eq_true, decide_eq_true_eq] at gap
      rcases gap with (((rfl | rfl) | rfl) | rfl) | rfl <;> rfl
    | false => rwa [skipGap, List.dropWhile_cons_of_neg (by simp [gap])] at ends

/-- Runs end where a mark comes. -/
theorem endsRun_of_mark {text rest : Text} {sign : Char} (isMark : mark sign text rest)
    (noTerm : isTermChar sign = false) : endsRun text = true := by
  apply endsRun_of_skipGap
  rw [show skipGap text = sign :: rest from isMark]
  simp [endsRun, noTerm]

/-- Terms stand behind a gap. -/
theorem StandIn.behind_gap {terms : List Text} {text : Text} (later : StandIn terms (skipGap text)) :
    StandIn terms text := by
  rw [← List.takeWhile_append_dropWhile (p := isGap) (l := text)]
  refine later.behind (fun inside => ?_)
  have gap := List.all_eq_true.mp List.all_takeWhile '/' inside
  cases gap

/-- Terms stand behind a mark. -/
theorem StandIn.behind_mark {terms : List Text} {sign : Char} {text rest : Text}
    (later : StandIn terms rest) (isMark : mark sign text rest) (noSlash : sign ≠ '/') :
    StandIn terms text := by
  refine StandIn.behind_gap ?_
  rw [show skipGap text = sign :: rest from isMark]
  exact .other sign noSlash later

/-- Terms stand behind a distance. -/
theorem StandIn.behind_distance {terms : List Text} {distance text rest : Text}
    (later : StandIn terms rest) (isDistance : terminal distancePattern distance text rest) :
    StandIn terms text := by
  refine StandIn.behind_gap ?_
  obtain ⟨digits, letter, unit, rfl, same, -, areDigits, names⟩ :=
    distance_matches_iff.mp isDistance
  have noLetter : letter ≠ '/' := by
    rintro rfl
    cases names
  rw [same]
  refine StandIn.behind (.other letter noLetter later) (fun inside => ?_)
  cases areDigits '/' inside

/-- Terms stand behind a suffix behind which runs end. -/
theorem StandIn.behind_suffix {terms : List Text} {suffix text rest : Text}
    (later : StandIn terms rest) (isField : terminal fieldPattern suffix text rest)
    (ends : endsRun rest = true) : StandIn terms text := by
  refine StandIn.behind_gap ?_
  obtain ⟨field, first, second, rfl, same, letters⟩ := field_matches_iff.mp isField
  rw [same]
  exact .suffix letters.spelled ends later

/-- A suffix at the start of a text ends a run. -/
theorem endsRun_of_field {suffix text rest : Text}
    (isField : terminal fieldPattern suffix text rest) : endsRun text = true := by
  obtain ⟨behind, slash⟩ := slash_of_field isField
  exact endsRun_of_mark slash (by decide)

/-- Letters of a field in capitals that open no field are in front of what does not end a run. -/
theorem open_of_noField {first second : Char} {back behind : Text} {field : Field}
    (capitals : field.suffix.toList = ['/', first, second])
    (noField : ¬ OpensField (first :: second :: back ++ behind)) (ends : endsRun behind = true) :
    endsRun back = false := by
  by_contra endsBack
  have letters : AreLetters field first second := ⟨first, second, capitals, .inl rfl, .inl rfl⟩
  refine noField ⟨field, first, second, back ++ behind, rfl, letters, Text.endsRun_iff.mp ?_⟩
  rw [Text.endsRun_append ends]
  simpa using endsBack

/-- No slash of a term in a normal text opens a complete suffix. -/
theorem TermPattern.typed {lexeme behind : Text} (term : TermPattern lexeme behind)
    (normal : Text.IsNormal (lexeme ++ behind)) (ends : endsRun behind = true) :
    IsTypedTerm lexeme := by
  induction term with
  | @run run isRun behind =>
    obtain ⟨first, others, rfl⟩ := List.exists_cons_of_ne_nil isRun.filled
    refine ⟨by simp [endsRun, isRun.chars first], fun character inside => ?_, ?_⟩
    · exact .inl (isRun.chars character inside)
    · intro front one two back field same
      have isChar := isRun.chars '/' (by simp [same])
      cases isChar
  | @slash front run behind term noField isRun inductionHypothesis =>
    have whole : front ++ '/' :: run ++ behind = front ++ ('/' :: run ++ behind) :=
      List.append_assoc ..
    have ofFront := inductionHypothesis (whole ▸ normal) rfl
    have capitals := (Text.canonicalSuffixes_eq_iff _).mp (Text.normal_iff.mp normal).2
    refine ⟨(Text.endsRun_append rfl).trans ofFront.begins, fun character inside => ?_, ?_⟩
    · rcases List.mem_append.mp inside with ofTerm | ofRun
      · exact ofFront.chars character ofTerm
      · exact (List.mem_cons.mp ofRun).symm.imp_left (isRun.chars character)
    intro before first second back field same spelled
    -- The slash between front and run opens no field, and others are those of the front.
    have atRun : front = before → run = first :: second :: back → endsRun back = false := by
      rintro rfl rfl
      exact open_of_noField (capitals front _ _ (back ++ behind) _ (by simp) spelled) noField ends
    rcases List.append_eq_append_iff.mp same with ⟨middle, rfl, split⟩ | ⟨middle, rfl, split⟩
    · cases middle with
      | nil => exact atRun (by simp) (List.cons.inj split).2
      | cons character rest =>
        have isChar := isRun.chars '/' (by simp [(List.cons.inj split).2])
        cases isChar
    · cases middle with
      | nil => exact atRun (by simp) (List.cons.inj split).2.symm
      | cons character rest =>
        obtain ⟨rfl, later⟩ := List.cons.inj split
        obtain ⟨last, rfl, rfl⟩ := Text.within_of_spelled rfl spelled later.symm
        rw [Text.endsRun_append rfl]
        exact ofFront.open_suffixes before first second last field (by simp) spelled

/-- Terms stand behind a term behind which runs end. -/
theorem StandIn.behind_term {terms : List Text} {lexeme text rest : Text}
    (later : StandIn terms rest) (isTerm : terminal TermPattern lexeme text rest)
    (normal : Text.IsNormal text) (ends : endsRun rest = true) :
    StandIn (lexeme :: terms) text := by
  refine StandIn.behind_gap ?_
  have normalBehind := Phrase.normal_skipGap normal
  rw [show skipGap text = lexeme ++ rest from isTerm.parts] at normalBehind ⊢
  exact .term (isTerm.fits.typed normalBehind ends) ends later

/-- The terms of several contents. -/
def termsOf (contents : Content × List Content) : List Text :=
  (contents.1 :: contents.2).flatMap (fun content => content.expr.words)

/-- A union has the terms of its operands. -/
theorem words_union (contents : Content × List Content) :
    (Content.union contents).expr.words = termsOf contents := by
  obtain ⟨first, others⟩ := contents
  cases others with
  | nil => simp [Content.union, termsOf]
  | cons second others => simp [Content.union, termsOf, List.flatMap_map]

/-- A product has the terms of its operands. -/
theorem words_product (contents : Content × List Content) :
    (Content.product contents).expr.words = termsOf contents := by
  obtain ⟨first, others⟩ := contents
  cases others with
  | nil => simp [Content.product, termsOf]
  | cons second others => simp [Content.product, Content.ofExpr, termsOf, List.flatMap_map]

mutual

/-- The terms of a term, a group or a brace stand where it is derived. -/
theorem OpenTree.stand (tree : OpenTree) {text rest : Text} {later : List Text}
    (produces : tree.Produces text rest) (normal : Text.IsNormal text) (ends : endsRun rest = true)
    (behind : StandIn later rest) : StandIn (tree.content.expr.words ++ later) text := by
  cases tree with
  | term lexeme => exact behind.behind_term produces normal ends
  | group inner =>
    obtain ⟨start, opened, stop, ofInner, last, closed, rfl⟩ := produces
    have normalStart := (mark_advances '(').normal opened normal
    have atStop := behind.behind_mark closed (by decide)
    have atStart :=
      InsideTree.stand inner ofInner normalStart (endsRun_of_mark closed (by decide)) atStop
    exact atStart.behind_mark opened (by decide)
  | brace first second third distance =>
    obtain ⟨start, opened, afterFirst, ofFirst, next, comma, afterSecond, ofSecond, more, nextComma,
      afterThird, ofThird, stop, closed, last, lastComma, rest, ofDistance, rfl⟩ := produces
    have normalStart := (mark_advances '{').normal opened normal
    have normalNext := (mark_advances ',').normal comma (first.advances.normal ofFirst normalStart)
    have normalMore :=
      (mark_advances ',').normal nextComma (second.advances.normal ofSecond normalNext)
    have atThird := ((behind.behind_distance ofDistance).behind_mark lastComma
      (by decide)).behind_mark closed (by decide)
    have atMore := ProductTree.stand third ofThird normalMore
      (endsRun_of_mark closed (by decide)) atThird
    have atNext := ProductTree.stand second ofSecond normalNext
      (endsRun_of_mark nextComma (by decide)) (atMore.behind_mark nextComma (by decide))
    have atStart := ProductTree.stand first ofFirst normalStart
      (endsRun_of_mark comma (by decide)) (atNext.behind_mark comma (by decide))
    have whole := atStart.behind_mark opened (by decide)
    simpa [OpenTree.content, Content.ofExpr, words_product] using whole
termination_by structural tree

/-- The terms of an atom stand where it is derived. -/
theorem AtomTree.stand (tree : AtomTree) {text rest : Text} {later : List Text}
    (produces : tree.Produces text rest) (normal : Text.IsNormal text) (ends : endsRun rest = true)
    (behind : StandIn later rest) : StandIn (tree.content.expr.words ++ later) text := by
  cases tree with
  | plain inner => exact OpenTree.stand inner produces normal ends behind
  | fielded inner suffix =>
    obtain ⟨middle, ofInner, last, ofField, rfl⟩ := produces
    exact OpenTree.stand inner ofInner normal (endsRun_of_field ofField)
      (behind.behind_suffix ofField ends)
  | bracket inner =>
    obtain ⟨start, opened, stop, ofInner, last, closed, rfl⟩ := produces
    have normalStart := (mark_advances '[').normal opened normal
    have atStop := behind.behind_mark closed (by decide)
    have atStart :=
      InsideTree.stand inner ofInner normalStart (endsRun_of_mark closed (by decide)) atStop
    exact atStart.behind_mark opened (by decide)
termination_by structural tree

/-- The terms of the inside of a group or bracket stand where it is derived. -/
theorem InsideTree.stand (tree : InsideTree) {text rest : Text} {later : List Text}
    (produces : tree.Produces text rest) (normal : Text.IsNormal text) (ends : endsRun rest = true)
    (behind : StandIn later rest) : StandIn (tree.content.expr.words ++ later) text := by
  cases tree with
  | product inner =>
    have whole := ProductTree.stand inner produces normal ends behind
    rwa [← words_product] at whole
  | proximity left distance right =>
    obtain ⟨middle, ofLeft, start, comma, stop, ofDistance, next, nextComma, last, ofRight, rfl⟩ :=
      produces
    have normalStart := (mark_advances ',').normal comma (left.advances.normal ofLeft normal)
    have normalNext := (mark_advances ',').normal nextComma
      ((distance_advances distance).normal ofDistance normalStart)
    have atNext := ProductTree.stand right ofRight normalNext ends behind
    have atMiddle := ((atNext.behind_mark nextComma (by decide)).behind_distance
      ofDistance).behind_mark comma (by decide)
    have whole :=
      ProductTree.stand left ofLeft normal (endsRun_of_mark comma (by decide)) atMiddle
    simpa [InsideTree.content, Content.ofExpr, words_product] using whole
termination_by structural tree

/-- The terms of a union stand where it is derived. -/
theorem UnionTree.stand (tree : UnionTree) {text rest : Text} {later : List Text}
    (produces : tree.Produces text rest) (normal : Text.IsNormal text) (ends : endsRun rest = true)
    (behind : StandIn later rest) : StandIn (termsOf tree.contents ++ later) text := by
  cases tree with
  | last operand =>
    have whole := AtomTree.stand operand produces normal ends behind
    simpa [UnionTree.contents, termsOf] using whole
  | more operand others =>
    obtain ⟨middle, ofOperand, next, plus, last, ofOthers, rfl⟩ := produces
    have normalNext := (mark_advances '+').normal plus (operand.advances.normal ofOperand normal)
    have atNext := UnionTree.stand others ofOthers normalNext ends behind
    have whole := AtomTree.stand operand ofOperand normal (endsRun_of_mark plus (by decide))
      (atNext.behind_mark plus (by decide))
    simpa [UnionTree.contents, termsOf] using whole
termination_by structural tree

/-- The terms of a product stand where it is derived. -/
theorem ProductTree.stand (tree : ProductTree) {text rest : Text} {later : List Text}
    (produces : tree.Produces text rest) (normal : Text.IsNormal text) (ends : endsRun rest = true)
    (behind : StandIn later rest) : StandIn (termsOf tree.contents ++ later) text := by
  cases tree with
  | last operand =>
    have whole := UnionTree.stand operand produces normal ends behind
    rw [← words_union] at whole
    simpa [ProductTree.contents, termsOf] using whole
  | more operand others =>
    obtain ⟨middle, ofOperand, next, star, last, ofOthers, rfl⟩ := produces
    have normalNext := (mark_advances '*').normal star (operand.advances.normal ofOperand normal)
    have atNext := ProductTree.stand others ofOthers normalNext ends behind
    have whole := UnionTree.stand operand ofOperand normal (endsRun_of_mark star (by decide))
      (atNext.behind_mark star (by decide))
    rw [← words_union] at whole
    simpa [ProductTree.contents, termsOf] using whole
termination_by structural tree

end

/-- Terms stand in front of blanks. -/
theorem StandIn.before_blanks {terms : List Text} {text after : Text} (stand : StandIn terms text)
    (blank : after.allBlank = true) : StandIn terms (text ++ after) := by
  have visible : ∀ character ∈ after, isBlank character = true := List.all_eq_true.mp blank
  have endsAfter : endsRun after = true := by
    refine Text.endsRun_iff.mpr (fun next first => ?_)
    simp [isTermChar, visible next (List.mem_of_mem_head? first)]
  induction stand with
  | nil =>
    have noSlash : '/' ∉ after := fun inside => by cases visible '/' inside
    simpa using StandIn.nil.behind noSlash
  | other character noSlash later inductionHypothesis =>
    exact .other character noSlash inductionHypothesis
  | suffix spelled ends later inductionHypothesis =>
    exact .suffix spelled ((Text.endsRun_append endsAfter).trans ends) inductionHypothesis
  | term isTerm ends later inductionHypothesis =>
    rw [List.append_assoc]
    exact .term isTerm ((Text.endsRun_append endsAfter).trans ends) inductionHypothesis

/-- Terms that stand in a text occur in it. -/
theorem StandIn.occurs {terms : List Text} {text : Text} (stand : StandIn terms text) :
    ∀ term ∈ terms, term <:+: text := by
  induction stand with
  | nil => exact fun _ listed => absurd listed List.not_mem_nil
  | other character _ _ inductionHypothesis =>
    exact fun term listed => (inductionHypothesis term listed).trans (List.suffix_cons _ _).isInfix
  | suffix _ _ _ inductionHypothesis =>
    exact fun term listed => (inductionHypothesis term listed).trans
      (List.suffix_append ['/', _, _] _).isInfix
  | term _ _ _ inductionHypothesis =>
    refine List.forall_mem_cons.mpr ⟨(List.prefix_append _ _).isInfix, fun other listed => ?_⟩
    exact (inductionHypothesis other listed).trans (List.suffix_append _ _).isInfix

/-- Respelling complete suffixes keeps what stands in a text that has none to itself. -/
theorem respelled_behind {front text other : Text} (ends : endsRun text = true)
    (goesOn : ∀ before first second back field, front = before ++ '/' :: first :: second :: back →
      spelledField? first second = some field → endsRun back = false)
    (respelled : Text.RespelledAtEnds (front ++ text) other) :
    ∃ rest, other = front ++ rest ∧ Text.RespelledAtEnds text rest := by
  induction front generalizing other with
  | nil => exact ⟨other, rfl, respelled⟩
  | cons character others inductionHypothesis =>
    generalize whole : character :: others ++ text = start at respelled
    cases respelled with
    | nil => cases whole
    | same _ later =>
      obtain ⟨rfl, rfl⟩ := List.cons.inj whole
      have goesOnBehind := fun before first second back field same spelled =>
        goesOn (character :: before) first second back field (congrArg _ same) spelled
      obtain ⟨rest, rfl, ofText⟩ := inductionHypothesis goesOnBehind later
      exact ⟨rest, rfl, ofText⟩
    | suffix spelled _ endsBehind _ =>
      obtain ⟨rfl, same⟩ := List.cons.inj whole
      obtain ⟨back, rfl, rfl⟩ := Text.within_of_spelled ends spelled same
      rw [Text.endsRun_append ends, goesOn [] _ _ back _ rfl spelled] at endsBehind
      cases endsBehind

/-- Terms that stand in a text stand in it however its complete suffixes are spelled. -/
theorem StandIn.respelled {terms : List Text} {text other : Text} (stand : StandIn terms text)
    (respelled : Text.RespelledAtEnds text other) : StandIn terms other := by
  induction stand generalizing other with
  | nil =>
    cases respelled
    exact .nil
  | other character noSlash _ inductionHypothesis =>
    obtain ⟨rest, rfl, later⟩ := respelled.behind_letter noSlash
    exact .other character noSlash (inductionHypothesis later)
  | suffix spelled ends _ inductionHypothesis =>
    cases respelled with
    | same _ later =>
      obtain ⟨firstLetter, secondLetter⟩ := Text.spelled_letters spelled
      obtain ⟨_, rfl, behind⟩ := later.behind_letter firstLetter
      obtain ⟨rest, rfl, last⟩ := behind.behind_letter secondLetter
      exact .suffix spelled (last.endsRun_eq.symm.trans ends) (inductionHypothesis last)
    | suffix _ spelledOther _ later =>
      exact .suffix spelledOther (later.endsRun_eq.symm.trans ends) (inductionHypothesis later)
  | term isTerm ends _ inductionHypothesis =>
    obtain ⟨rest, rfl, later⟩ := respelled_behind ends isTerm.open_suffixes respelled
    exact .term isTerm (later.endsRun_eq.symm.trans ends) (inductionHypothesis later)

/-- Behind a text with capital suffixes that goes up to the end of a run, letters of a field in another
spelling stand inside of a term only if they do in the rest. -/
theorem inner_behind {front text : Text} (capitals : HasCapitalSuffixes front)
    (ends : endsRun text = true) (inner : HasInnerSuffix (front ++ text)) : HasInnerSuffix text := by
  induction front with
  | nil => exact inner
  | cons character others inductionHypothesis =>
    rcases inner.cons_cases with later | ⟨first, second, next, back, field, rfl, same, spelled, _, small⟩
    · have capitalsBehind : HasCapitalSuffixes ([character] ++ others ++ []) := by simpa using capitals
      exact inductionHypothesis capitalsBehind.part later
    · obtain ⟨rest, rfl, -⟩ := Text.within_of_spelled ends spelled same
      exact absurd (capitals [] first second rest field rfl spelled) small

/-- Where terms with capital suffixes stand, no letters of a field stand inside of a term in another
spelling. -/
theorem StandIn.no_inner {terms : List Text} {text : Text} (stand : StandIn terms text)
    (capitals : ∀ term ∈ terms, HasCapitalSuffixes term) : ¬ HasInnerSuffix text := by
  induction stand with
  | nil =>
    rintro ⟨front, back, first, second, next, field, same, -⟩
    simp at same
  | other character noSlash _ inductionHypothesis =>
    exact fun inner => inductionHypothesis capitals (inner.of_letter noSlash)
  | suffix spelled ends _ inductionHypothesis =>
    intro inner
    obtain ⟨firstLetter, secondLetter⟩ := Text.spelled_letters spelled
    rcases inner.cons_cases with later | ⟨_, _, next, back, _, -, same, -, isChar, -⟩
    · exact inductionHypothesis capitals ((later.of_letter firstLetter).of_letter secondLetter)
    · obtain ⟨-, -, rfl⟩ : _ ∧ _ ∧ _ = next :: back := by simpa using same
      rw [Text.endsRun_false_iff.mpr ⟨next, back, rfl, isChar⟩] at ends
      cases ends
  | term _ ends _ inductionHypothesis =>
    obtain ⟨ofTerm, ofTerms⟩ := List.forall_mem_cons.mp capitals
    exact fun inner => inductionHypothesis ofTerms (inner_behind ofTerm ends inner)

/-- The terms of the normal form stand in the folded text exactly if no letters of a field stand inside
of a term there in another spelling. -/
theorem StandIn.folded_iff {terms : List Text} {query : Text}
    (stand : StandIn terms (Text.normalized query)) :
    StandIn terms (Text.folded query) ↔ ¬ HasInnerSuffix (Text.folded query) := by
  constructor
  · intro typed
    refine typed.no_inner (fun term listed => ?_)
    have normal := (Text.normal_normalized query).within (stand.occurs term listed)
    exact (Text.canonicalSuffixes_eq_iff term).mp (Text.normal_iff.mp normal).2
  · intro noInner
    have same : Text.normalized query = completeSuffixes (Text.folded query) :=
      Text.canonicalSuffixes_complete noInner
    rw [same] at stand
    exact stand.respelled (Text.respelled_completeSuffixes _)

/-- The terms of a factor: those of its expression, or its codes, which it lists once each. -/
def HasTerms : Factor → List Text → Prop
  | .words expr, terms => expr.words = terms
  | .codes span, terms => span.codes = terms.eraseDups

/-- The factor of a content has the terms of its expression. -/
theorem hasTerms_factor (content : Content) : HasTerms content.factor content.expr.words := by
  cases isCodes : content.isCodes with
  | false =>
    rw [Content.factor_words isCodes]
    rfl
  | true =>
    rw [Content.factor_codes isCodes]
    rfl

/-- The terms of the factors of a query stand in its normal form. -/
theorem stand_of_parse {query : Text} {factors : List Factor}
    (accepted : Query.parse query = .ok factors) :
    ∃ groups, List.Forall₂ HasTerms factors groups ∧
      StandIn groups.flatten (Text.normalized query) := by
  obtain ⟨before, after, split, blankBefore, blankAfter⟩ := Text.trim_split (Text.normalized query)
  have around : ∀ {terms}, StandIn terms (Text.trim (Text.normalized query)) →
      StandIn terms (Text.normalized query) := by
    intro terms stand
    rw [split]
    refine (stand.behind (fun inside => ?_)).before_blanks blankAfter
    cases List.all_eq_true.mp blankBefore '/' inside
  have normal := normal_trimmed query
  unfold Query.parse at accepted
  split at accepted
  · next blank =>
    obtain rfl := Except.ok.inj accepted
    refine ⟨[], .nil, around ?_⟩
    rw [blank]
    exact .nil
  · rw [Reading.mapError_ok_iff, factors_of_iff normal] at accepted
    obtain ⟨tree, ⟨rest, produces, noMore⟩, -, rfl⟩ := accepted
    refine ⟨(tree.contents.1 :: tree.contents.2).map (fun content => content.expr.words), ?_, ?_⟩
    · rw [ProductTree.factors, List.forall₂_map_left_iff, List.forall₂_map_right_iff]
      exact List.forall₂_same.mpr (fun content _ => hasTerms_factor content)
    · have ends : endsRun rest = true := endsRun_of_skipGap (by rw [noMore]; rfl)
      have atEnd : StandIn [] rest := StandIn.behind_gap (by rw [noMore]; exact .nil)
      have whole := around (tree.stand produces normal ends atEnd)
      rwa [List.append_nil] at whole

/-- The normal form of a query puts exactly the complete suffixes in capitals, exactly if no letters of
a field stand inside of a term in another spelling. The terms of the factors that are imported stand in
the normal form one after the other, and exactly under this condition they stand so in the query as it
was typed, with its characters folded. -/
theorem typed_terms_iff (query : Text) :
    (Text.normalized query = completeSuffixes (Text.folded query) ↔
      ¬ HasInnerSuffix (Text.folded query)) ∧
    ∀ factors, Query.parse query = .ok factors →
      ∃ groups, List.Forall₂ HasTerms factors groups ∧
        StandIn groups.flatten (Text.normalized query) ∧
        (StandIn groups.flatten (Text.folded query) ↔ ¬ HasInnerSuffix (Text.folded query)) := by
  refine ⟨Text.canonical_eq_complete_iff _, fun factors accepted => ?_⟩
  obtain ⟨groups, terms, stand⟩ := stand_of_parse accepted
  exact ⟨groups, terms, stand, stand.folded_iff⟩

/-- The letters of a field inside of a term are put in capitals, so the term is not imported as it was
typed. -/
theorem inner_suffix_rewritten :
    Query.parse ['A', '/', 'c', 'p', 'u'] = .ok [.words (.word ['A', '/', 'C', 'P', 'u'])] ∧
      Text.normalized ['A', '/', 'c', 'p', 'u'] ≠ completeSuffixes ['A', '/', 'c', 'p', 'u'] ∧
      ¬ StandIn [['A', '/', 'C', 'P', 'u']] ['A', '/', 'c', 'p', 'u'] := by
  have accepted : Query.parse ['A', '/', 'c', 'p', 'u'] =
      .ok [.words (.word ['A', '/', 'C', 'P', 'u'])] := by decide +kernel
  have inner : HasInnerSuffix (Text.folded ['A', '/', 'c', 'p', 'u']) :=
    ⟨['A'], [], 'c', 'p', 'u', .primaryClass, by decide, by decide, by decide, by decide⟩
  obtain ⟨normal, typed⟩ := typed_terms_iff ['A', '/', 'c', 'p', 'u']
  refine ⟨accepted, fun same => normal.mp same inner, fun stand => ?_⟩
  obtain ⟨groups, terms, -, asTyped⟩ := typed _ accepted
  have sameTerms : groups = [[['A', '/', 'C', 'P', 'u']]] := by
    cases terms with
    | cons ofFirst ofOthers =>
      cases ofOthers
      exact congrArg (fun group => [group]) ofFirst.symm
  subst sameTerms
  exact asTyped.mp stand inner

end PriorArt.Query
