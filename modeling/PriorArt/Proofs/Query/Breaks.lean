import PriorArt.Proofs.Query.Reads

/-!
# Texts that break off a reading

A text breaks a reading at a level of the query grammar if the reading stops inside of it, wherever
the text stands in a query. What is put together breaks if one of its parts does, whatever stands
behind that part, and inside a group a second distance breaks the reading too.

An outcome at a level says of a text that it reads as a phrase, or that it breaks. So one rule for
each way of putting texts together covers both.
-/

namespace PriorArt.Phrase

/-- A text breaks a reading as an atom that can still take a field. -/
def BreaksOpen (text : Text) : Prop :=
  ∀ depth rest, 4 * text.length + 1 ≤ depth → EndsOpen rest →
    ∃ stopped, atom depth (text ++ rest) = .error stopped

/-- A text breaks a reading as an atom. -/
def BreaksAtom (text : Text) : Prop :=
  ∀ depth rest, 4 * text.length + 1 ≤ depth → StopsAt closingMarks rest →
    ∃ stopped, atom depth (text ++ rest) = .error stopped

/-- A text breaks a reading as the operands of a union. -/
def BreaksUnion (text : Text) : Prop :=
  ∀ depth rest, 4 * text.length + 2 ≤ depth → StopsAt unionEnds rest →
    ∃ stopped, alternatives depth (text ++ rest) = .error stopped

/-- A text breaks a reading as the operands of a product. -/
def BreaksProduct (text : Text) : Prop :=
  ∀ depth rest, 4 * text.length + 3 ≤ depth → StopsAt productEnds rest →
    ∃ stopped, factors depth (text ++ rest) = .error stopped

/-- A text breaks a reading of a group or bracket, inside or at the closing mark. -/
def BreaksInside (text : Text) : Prop :=
  ∀ depth rest closer, 4 * text.length + 4 ≤ depth → closer ∈ insideEnds →
    ∃ stopped, (do
      let (_, rest) ← inside depth (text ++ closer :: rest)
      expectMark closer rest) = .error stopped

/-- A text reads as an atom that can still take a field, or breaks. -/
def OpenOutcome (text : Text) (phrase : Phrase) : Bool → Prop
  | true => ReadsOpen text phrase
  | false => BreaksOpen text

/-- A text reads as an atom, or breaks. -/
def AtomOutcome (text : Text) (phrase : Phrase) : Bool → Prop
  | true => ReadsAtom text phrase
  | false => BreaksAtom text

/-- A text reads as the operands of a union, or breaks. -/
def UnionOutcome (text : Text) (operands : Phrase × List Phrase) : Bool → Prop
  | true => ReadsUnion text operands
  | false => BreaksUnion text

/-- A text reads as the operands of a product, or breaks. -/
def ProductOutcome (text : Text) (operands : Phrase × List Phrase) : Bool → Prop
  | true => ReadsProduct text operands
  | false => BreaksProduct text

/-- A text reads inside a group or bracket, or breaks. -/
def InsideOutcome (text : Text) (phrase : Phrase) : Bool → Prop
  | true => ReadsInside text phrase
  | false => BreaksInside text

/-- A step that fails fails what follows it. -/
theorem error_of_bind {α β : Type} {step : Except Text α} (next : α → Except Text β)
    (failed : ∃ stopped, step = .error stopped) : ∃ stopped, step >>= next = .error stopped := by
  obtain ⟨stopped, same⟩ := failed
  exact ⟨stopped, by rw [same]; rfl⟩

/-- A reading that fails inside a pair of marks, or at the closing one, gives nothing. -/
theorem error_of_inside {α : Type} {depth : Nat} {text : Text} {closer : Char}
    (next : Phrase → Text → α)
    (failed : ∃ stopped, (do
      let (_, rest) ← inside depth text
      expectMark closer rest) = .error stopped) :
    ∃ stopped, (do
      let (inner, rest) ← inside depth text
      let rest ← expectMark closer rest
      return next inner rest) = Except.error stopped := by
  obtain ⟨stopped, same⟩ := failed
  cases read : inside depth text with
  | error early => exact ⟨early, rfl⟩
  | ok result =>
    obtain ⟨inner, rest⟩ := result
    rw [read] at same
    simp only [Reading.ok_bind] at same ⊢
    exact ⟨stopped, by rw [same]; rfl⟩

/-- An atom need not take a field. -/
theorem OpenOutcome.atom {text : Text} {phrase : Phrase} {legible : Bool}
    (outcome : OpenOutcome text phrase legible) : AtomOutcome text phrase legible := by
  cases legible with
  | true => exact ReadsOpen.atom outcome
  | false => exact fun depth rest enough stops => outcome depth rest enough (.stop stops)

/-- An atom that can take a field with the field behind it. -/
theorem OpenOutcome.fielded {text : Text} {phrase : Phrase} {legible : Bool}
    (outcome : OpenOutcome text phrase legible) (field : Field) :
    AtomOutcome (text ++ field.suffix.toList) (.fielded phrase field) legible := by
  cases legible with
  | true => exact ReadsOpen.fielded outcome field
  | false =>
    intro depth rest enough stops
    rw [List.length_append] at enough
    rw [List.append_assoc]
    exact outcome depth _ (by omega) (.field field stops)

/-- An atom as a union of one operand. -/
theorem AtomOutcome.union {text : Text} {phrase : Phrase} {legible : Bool}
    (outcome : AtomOutcome text phrase legible) : UnionOutcome text (phrase, []) legible := by
  cases legible with
  | true => exact ReadsAtom.union outcome
  | false =>
    intro depth rest enough stops
    obtain ⟨depth, rfl⟩ : ∃ less, depth = less + 1 := ⟨depth - 1, by omega⟩
    exact error_of_bind _ (outcome depth rest (by omega) (stops.mono (by decide)))

/-- An atom and a union with a plus sign between them. -/
theorem UnionOutcome.cons {text more : Text} {phrase : Phrase} {operands : Phrase × List Phrase}
    {legible legibleMore : Bool} (outcome : AtomOutcome text phrase legible)
    (outcomeMore : UnionOutcome more operands legibleMore) :
    UnionOutcome (text ++ '+' :: more) (phrase, operands.1 :: operands.2)
      (legible && legibleMore) := by
  cases legible with
  | true =>
    cases legibleMore with
    | true => exact ReadsUnion.cons outcome outcomeMore
    | false =>
      intro depth rest enough stops
      obtain ⟨depth, rfl⟩ : ∃ less, depth = less + 1 := ⟨depth - 1, by omega⟩
      simp only [List.length_append, List.length_cons] at enough
      have read : Phrase.atom depth (text ++ '+' :: (more ++ rest)) =
          .ok (phrase, '+' :: (more ++ rest)) :=
        outcome depth _ (by omega) (stops_at_cons (by decide) _)
      have noSkip : skipGap ('+' :: (more ++ rest)) = '+' :: (more ++ rest) := rfl
      rw [List.append_assoc, List.cons_append, alternatives, read]
      simp only [Reading.ok_bind, noSkip]
      exact error_of_bind _ (outcomeMore depth rest (by omega) stops)
  | false =>
    intro depth rest enough stops
    obtain ⟨depth, rfl⟩ : ∃ less, depth = less + 1 := ⟨depth - 1, by omega⟩
    simp only [List.length_append, List.length_cons] at enough
    rw [List.append_assoc, List.cons_append]
    exact error_of_bind _ (outcome depth _ (by omega) (stops_at_cons (by decide) _))

/-- A union as a product of one operand. -/
theorem UnionOutcome.product {text : Text} {operands : Phrase × List Phrase} {legible : Bool}
    (outcome : UnionOutcome text operands legible) :
    ProductOutcome text (wholeUnion operands, []) legible := by
  cases legible with
  | true => exact ReadsUnion.product outcome
  | false =>
    intro depth rest enough stops
    obtain ⟨depth, rfl⟩ : ∃ less, depth = less + 1 := ⟨depth - 1, by omega⟩
    exact error_of_bind _ (outcome depth rest (by omega) (stops.mono (by decide)))

/-- A union and a product with a star between them. -/
theorem ProductOutcome.cons {text more : Text} {operands others : Phrase × List Phrase}
    {legible legibleMore : Bool} (outcome : UnionOutcome text operands legible)
    (outcomeMore : ProductOutcome more others legibleMore) :
    ProductOutcome (text ++ '*' :: more) (wholeUnion operands, others.1 :: others.2)
      (legible && legibleMore) := by
  cases legible with
  | true =>
    cases legibleMore with
    | true => exact ReadsProduct.cons outcome outcomeMore
    | false =>
      intro depth rest enough stops
      obtain ⟨depth, rfl⟩ : ∃ less, depth = less + 1 := ⟨depth - 1, by omega⟩
      simp only [List.length_append, List.length_cons] at enough
      have read : alternatives depth (text ++ '*' :: (more ++ rest)) =
          .ok (operands, '*' :: (more ++ rest)) :=
        outcome depth _ (by omega) (stops_at_cons (by decide) _)
      have noSkip : skipGap ('*' :: (more ++ rest)) = '*' :: (more ++ rest) := rfl
      rw [List.append_assoc, List.cons_append, factors, read]
      simp only [Reading.ok_bind, noSkip]
      exact error_of_bind _ (outcomeMore depth rest (by omega) stops)
  | false =>
    intro depth rest enough stops
    obtain ⟨depth, rfl⟩ : ∃ less, depth = less + 1 := ⟨depth - 1, by omega⟩
    simp only [List.length_append, List.length_cons] at enough
    rw [List.append_assoc, List.cons_append]
    exact error_of_bind _ (outcome depth _ (by omega) (stops_at_cons (by decide) _))

/-- What stands behind a product inside a group or bracket, up to its closing mark. -/
theorem stops_inside {more : Text} (stops : StopsAt [','] more) {closer : Char}
    (closes : closer ∈ insideEnds) (rest : Text) :
    StopsAt productEnds (more ++ closer :: rest) := by
  cases more with
  | nil =>
    have listed : insideEnds ⊆ productEnds := by decide
    exact stops_at_cons (listed closes) rest
  | cons first others =>
    have comma : first = ',' := by simpa using stops first rfl
    rw [comma]
    exact stops_at_cons (by decide) _

/-- A product that breaks does so inside a group or bracket. -/
theorem breaks_inside_left {left : Text} (breaks : BreaksProduct left) (more : Text)
    (stops : StopsAt [','] more) : BreaksInside (left ++ more) := by
  intro depth rest closer enough closes
  obtain ⟨depth, rfl⟩ : ∃ less, depth = less + 1 := ⟨depth - 1, by omega⟩
  rw [List.length_append] at enough
  rw [List.append_assoc]
  exact error_of_bind _ (error_of_bind _
    (breaks depth _ (by omega) (stops_inside stops closes rest)))

section Distances

variable {left right : Text} {lefts rights : Phrase × List Phrase} (distance : Distance)

/-- The reading inside a group or bracket up to the product behind the first distance. -/
theorem inside_near (readsLeft : ReadsProduct left lefts) {depth : Nat} {rest : Text}
    (enough : 4 * left.length + 3 ≤ depth) :
    inside (depth + 1) (left ++ ',' :: distance.text ++ ',' :: rest) = (do
      let ((first, others), rest) ← factors depth rest
      return (.proximity (wholeProduct lefts) distance (joinProduct first others), rest)) := by
  have assembled : left ++ ',' :: distance.text ++ ',' :: rest =
      left ++ ',' :: (distance.text ++ ',' :: rest) := by simp
  have noSkip : ∀ behind, skipGap (',' :: behind) = ',' :: behind := fun _ => rfl
  rw [assembled, inside, readsLeft depth _ enough (stops_at_cons (by decide) _)]
  simp only [Reading.ok_bind, noSkip, expectDistance_append,
    expectMark_cons (rfl : isGap ',' = false)]
  rfl

/-- A product that breaks behind a distance does so inside a group or bracket. -/
theorem breaks_inside_right (readsLeft : ReadsProduct left lefts) (breaks : BreaksProduct right)
    (more : Text) (stops : StopsAt [','] more) :
    BreaksInside (left ++ ',' :: distance.text ++ ',' :: (right ++ more)) := by
  intro depth rest closer enough closes
  obtain ⟨depth, rfl⟩ : ∃ less, depth = less + 1 := ⟨depth - 1, by omega⟩
  simp only [List.length_append, List.length_cons] at enough
  have assembled : left ++ ',' :: distance.text ++ ',' :: (right ++ more) ++ closer :: rest =
      left ++ ',' :: distance.text ++ ',' :: (right ++ (more ++ closer :: rest)) := by simp
  rw [assembled, inside_near distance readsLeft (by omega)]
  exact error_of_bind _ (error_of_bind _
    (breaks depth _ (by omega) (stops_inside stops closes rest)))

/-- A second distance breaks the reading inside a group or bracket. -/
theorem breaks_inside_second (readsLeft : ReadsProduct left lefts)
    (readsRight : ReadsProduct right rights) (more : Text) :
    BreaksInside (left ++ ',' :: distance.text ++ ',' :: (right ++ ',' :: more)) := by
  intro depth rest closer enough closes
  obtain ⟨depth, rfl⟩ : ∃ less, depth = less + 1 := ⟨depth - 1, by omega⟩
  simp only [List.length_append, List.length_cons] at enough
  have assembled :
      left ++ ',' :: distance.text ++ ',' :: (right ++ ',' :: more) ++ closer :: rest =
        left ++ ',' :: distance.text ++ ',' :: (right ++ ',' :: (more ++ closer :: rest)) := by
    simp
  have noComma : ',' ≠ closer := by
    rintro rfl
    exact absurd closes (by decide)
  rw [assembled, inside_near distance readsLeft (by omega),
    readsRight depth _ (by omega) (stops_at_cons (by decide) _)]
  exact ⟨_, if_neg noComma⟩

/-- Two products with a distance between them inside a group or bracket. -/
theorem ProductOutcome.near {legibleLeft legibleRight : Bool}
    (outcomeLeft : ProductOutcome left lefts legibleLeft)
    (outcomeRight : ProductOutcome right rights legibleRight) :
    InsideOutcome (left ++ ',' :: distance.text ++ ',' :: right)
      (.proximity (wholeProduct lefts) distance (wholeProduct rights))
      (legibleLeft && legibleRight) := by
  cases legibleLeft with
  | true =>
    cases legibleRight with
    | true => exact reads_proximity outcomeLeft distance outcomeRight
    | false =>
      have breaks := breaks_inside_right distance outcomeLeft outcomeRight [] nofun
      rwa [List.append_nil] at breaks
  | false =>
    have assembled : left ++ ',' :: distance.text ++ ',' :: right =
        left ++ ',' :: (distance.text ++ ',' :: right) := by simp
    rw [assembled]
    exact breaks_inside_left outcomeLeft _ (stops_at_cons (List.mem_singleton.mpr rfl) _)

/-- Two distances break the reading inside a group or bracket, whatever stands around them. -/
theorem ProductOutcome.second_distance {legibleLeft legibleRight : Bool}
    (outcomeLeft : ProductOutcome left lefts legibleLeft)
    (outcomeRight : ProductOutcome right rights legibleRight) (more : Text) :
    BreaksInside (left ++ ',' :: distance.text ++ ',' :: (right ++ ',' :: more)) := by
  cases legibleLeft with
  | true =>
    cases legibleRight with
    | true => exact breaks_inside_second distance outcomeLeft outcomeRight more
    | false =>
      exact breaks_inside_right distance outcomeLeft outcomeRight _
        (stops_at_cons (List.mem_singleton.mpr rfl) more)
  | false =>
    have assembled : left ++ ',' :: distance.text ++ ',' :: (right ++ ',' :: more) =
        left ++ ',' :: (distance.text ++ ',' :: (right ++ ',' :: more)) := by simp
    rw [assembled]
    exact breaks_inside_left outcomeLeft _ (stops_at_cons (List.mem_singleton.mpr rfl) _)

end Distances

/-- A product inside a group or bracket. -/
theorem ProductOutcome.inside {text : Text} {operands : Phrase × List Phrase} {legible : Bool}
    (outcome : ProductOutcome text operands legible) :
    InsideOutcome text (wholeProduct operands) legible := by
  cases legible with
  | true => exact ReadsProduct.inside outcome
  | false =>
    have breaks := breaks_inside_left outcome [] nofun
    rwa [List.append_nil] at breaks

/-- A group in round brackets. -/
theorem InsideOutcome.group {text : Text} {phrase : Phrase} {legible : Bool}
    (outcome : InsideOutcome text phrase legible) :
    OpenOutcome (Brackets.parenthesized text) (.group phrase) legible := by
  cases legible with
  | true => exact reads_group outcome
  | false =>
    intro depth rest enough ends
    obtain ⟨depth, rfl⟩ : ∃ less, depth = less + 1 := ⟨depth - 1, by omega⟩
    have assembled : Brackets.parenthesized text ++ rest = '(' :: (text ++ ')' :: rest) := by
      simp [Brackets.parenthesized]
    have noSkip : skipGap ('(' :: (text ++ ')' :: rest)) = '(' :: (text ++ ')' :: rest) := rfl
    simp only [Brackets.parenthesized, List.length_append, List.length_cons,
      List.length_nil] at enough
    rw [assembled, Phrase.atom, noSkip]
    exact error_of_inside (fun inner rest => withField (.group inner) rest)
      (outcome depth rest ')' (by omega) (by decide))

/-- A bracket in square brackets. -/
theorem InsideOutcome.bracket {text : Text} {phrase : Phrase} {legible : Bool}
    (outcome : InsideOutcome text phrase legible) :
    AtomOutcome ('[' :: text ++ [']']) (.bracket phrase) legible := by
  cases legible with
  | true => exact reads_bracket outcome
  | false =>
    intro depth rest enough stops
    obtain ⟨depth, rfl⟩ : ∃ less, depth = less + 1 := ⟨depth - 1, by omega⟩
    have assembled : '[' :: text ++ [']'] ++ rest = '[' :: (text ++ ']' :: rest) := by simp
    have noSkip : skipGap ('[' :: (text ++ ']' :: rest)) = '[' :: (text ++ ']' :: rest) := rfl
    simp only [List.length_append, List.length_cons, List.length_nil] at enough
    rw [assembled, Phrase.atom, noSkip]
    exact error_of_inside (fun inner rest => (Phrase.bracket inner, rest))
      (outcome depth rest ']' (by omega) (by decide))

section Braces

variable {first second third : Text} {firsts seconds thirds : Phrase × List Phrase}

/-- A brace breaks a reading if its first operand does. -/
theorem brace_breaks_first (breaks : BreaksProduct first) (second third : Text) (count : Nat) :
    BreaksOpen (Expr.bracedText first second third count) := by
  intro depth rest enough ends
  obtain ⟨depth, rfl⟩ : ∃ less, depth = less + 1 := ⟨depth - 1, by omega⟩
  simp only [Expr.bracedText, List.length_append, List.length_cons, List.length_nil] at enough
  rw [braced_append, Phrase.atom, skipGap_brace]
  exact error_of_bind _ (breaks depth _ (by omega) (stops_at_cons (by decide) _))

/-- A brace breaks a reading if its second operand does. -/
theorem brace_breaks_second (reads : ReadsProduct first firsts) (breaks : BreaksProduct second)
    (third : Text) (count : Nat) : BreaksOpen (Expr.bracedText first second third count) := by
  intro depth rest enough ends
  obtain ⟨depth, rfl⟩ : ∃ less, depth = less + 1 := ⟨depth - 1, by omega⟩
  simp only [Expr.bracedText, List.length_append, List.length_cons, List.length_nil] at enough
  rw [braced_append, Phrase.atom, skipGap_brace]
  simp only
  rw [reads depth _ (by omega) (stops_at_cons (by decide) _)]
  simp only [Reading.ok_bind, expectMark_cons (rfl : isGap ',' = false)]
  exact error_of_bind _ (breaks depth _ (by omega) (stops_at_cons (by decide) _))

/-- A brace breaks a reading if its third operand does. -/
theorem brace_breaks_third (readsFirst : ReadsProduct first firsts)
    (readsSecond : ReadsProduct second seconds) (breaks : BreaksProduct third) (count : Nat) :
    BreaksOpen (Expr.bracedText first second third count) := by
  intro depth rest enough ends
  obtain ⟨depth, rfl⟩ : ∃ less, depth = less + 1 := ⟨depth - 1, by omega⟩
  simp only [Expr.bracedText, List.length_append, List.length_cons, List.length_nil] at enough
  rw [braced_append, Phrase.atom, skipGap_brace]
  simp only
  rw [readsFirst depth _ (by omega) (stops_at_cons (by decide) _)]
  simp only [Reading.ok_bind, expectMark_cons (rfl : isGap ',' = false)]
  rw [readsSecond depth _ (by omega) (stops_at_cons (by decide) _)]
  simp only [Reading.ok_bind, expectMark_cons (rfl : isGap ',' = false)]
  exact error_of_bind _ (breaks depth _ (by omega) (stops_at_cons (by decide) _))

/-- Three products in a brace with its word distance. -/
theorem brace_outcome {legibleFirst legibleSecond legibleThird : Bool}
    (outcomeFirst : ProductOutcome first firsts legibleFirst)
    (outcomeSecond : ProductOutcome second seconds legibleSecond)
    (outcomeThird : ProductOutcome third thirds legibleThird) (count : Nat) :
    OpenOutcome (Expr.bracedText first second third count)
      (.brace (wholeProduct firsts) (wholeProduct seconds) (wholeProduct thirds)
        ⟨.words, count⟩) (legibleFirst && legibleSecond && legibleThird) := by
  cases legibleFirst with
  | false => exact brace_breaks_first outcomeFirst second third count
  | true =>
    cases legibleSecond with
    | false => exact brace_breaks_second outcomeFirst outcomeSecond third count
    | true =>
      cases legibleThird with
      | false => exact brace_breaks_third outcomeFirst outcomeSecond outcomeThird count
      | true => exact reads_brace outcomeFirst outcomeSecond outcomeThird count

end Braces

/-- A whole query that breaks as a product cannot be read. -/
theorem ProductOutcome.query {text : Text} {operands : Phrase × List Phrase} {legible : Bool}
    (outcome : ProductOutcome text operands legible) :
    if legible then ofQuery text = .ok (operands.1 :: operands.2)
    else ∃ stopped, ofQuery text = .error stopped := by
  cases legible with
  | true => exact ReadsProduct.query outcome
  | false =>
    have whole := outcome (depthBound text) [] (by simp only [depthBound]; omega) nofun
    rw [List.append_nil] at whole
    exact error_of_bind _ whole

end PriorArt.Phrase
