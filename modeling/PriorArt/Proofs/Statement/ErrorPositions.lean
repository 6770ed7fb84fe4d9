import PriorArt.Proofs.Statement.Beginnings

/-!
# Where a line stops being a statement

The error of a line that is not read points at the token at which the line breaks off: the tokens in
front of it begin a statement, and with it they begin none. The depth of the descent never causes an
error, since it suffices for every list of tokens that has an end.

The readers look one token ahead, but at a comma they look two tokens ahead, as only a distance goes
on with a nearness. So an error that points at a comma may stand one token too early.
-/

namespace PriorArt.Statement

open Reading

/-- Whether a token can stand inside an expression. -/
def isInner : Token → Bool
  | .field _ | .finish => false
  | _ => true

mutual

/-- The tokens of a primary can stand inside an expression. -/
theorem PrimaryTree.inner (tree : PrimaryTree) : tree.tokens.all isInner = true := by
  cases tree with
  | identifier text => rfl
  | parenthesized inner => simp [PrimaryTree.tokens, isInner, inner.inner]
  | brace first second third digits capital =>
    simp [PrimaryTree.tokens, isInner, first.inner, second.inner, third.inner]

/-- The tokens of a nearness can stand inside an expression. -/
theorem NearnessTree.inner (tree : NearnessTree) : tree.tokens.all isInner = true := by
  cases tree with
  | single operand => exact operand.inner
  | near left digits unit capital right =>
    simp [NearnessTree.tokens, isInner, left.inner, right.inner]

/-- The tokens of an intersection can stand inside an expression. -/
theorem IntersectionTree.inner (tree : IntersectionTree) : tree.tokens.all isInner = true := by
  cases tree with
  | last operand => exact operand.inner
  | more operand rest => simp [IntersectionTree.tokens, isInner, operand.inner, rest.inner]

/-- The tokens of a union can stand inside an expression. -/
theorem UnionTree.inner (tree : UnionTree) : tree.tokens.all isInner = true := by
  cases tree with
  | last operand => exact operand.inner
  | more operand rest => simp [UnionTree.tokens, isInner, operand.inner, rest.inner]

end

/-- The end of a statement that is not in front is behind. -/
theorem finish_behind {front rest : List Token} (inner : front.all isInner = true)
    (ended : .finish ∈ front ++ rest) : .finish ∈ rest := by
  rcases List.mem_append.mp ended with inFront | behind
  · exact absurd (List.all_eq_true.mp inner _ inFront) (by decide)
  · exact behind

section Signs

variable {phrases : Language Token} {ends : List Token → Prop} {token : Token}
  {tokens rest : List Token} {error : ParseError} {reason : ParseReason}

/-- Behind a sign a phrase breaks off where the part behind the sign does. -/
theorem PointsAtBreak.behind_sign (points : PointsAtBreak phrases ends rest error) :
    PointsAtBreak (sign token * phrases) ends (token :: rest) error :=
  have isSign : [token] ∈ sign token := rfl
  points.in_second (delimits_single (fun _ same => ⟨token, same⟩)) isSign
    (fun _ _ _ _ => trivial) (fun _ _ => trivial)

/-- Behind a primary a phrase breaks off where the part behind the primary does. -/
theorem PointsAtBreak.behind_primary (points : PointsAtBreak phrases ends rest error)
    (tree : PrimaryTree) : PointsAtBreak (primaries * phrases) ends (tree.tokens ++ rest) error :=
  points.in_second delimits_primaries ⟨tree, rfl⟩ (fun _ _ _ _ => trivial) (fun _ _ => trivial)

/-- A demanded token is missed at the token that stands in its place. -/
theorem expect_failed (ended : .finish ∈ tokens)
    (failed : expect token reason tokens = .error error) :
    ∃ first after, tokens = first :: after ∧ first ≠ token ∧ error = .atToken reason first := by
  cases tokens with
  | nil => cases ended
  | cons first after =>
    rw [expect] at failed
    split at failed
    · cases failed
    · next other => exact ⟨first, after, rfl, other, (Except.error.inj failed).symm⟩

/-- A phrase that is a sign breaks off at the token that stands in its place. -/
theorem expect_points [HasSpelled (sign token)] (ended : .finish ∈ tokens)
    (failed : expect token reason tokens = .error error) :
    PointsAtBreak (sign token) ends tokens error := by
  obtain ⟨first, after, rfl, other, rfl⟩ := expect_failed ended failed
  refine ⟨reason, [], first, after, rfl, rfl, exists_spelled (sign token), ?_⟩
  rintro _ _ rfl behind _ begins
  exact other (List.cons_prefix_cons.mp begins).1

/-- An error of a demanded token points at the comma if there is one. -/
theorem expect_comma (ended : .finish ∈ tokens)
    (failed : expect token reason tokens = .error error) (comma : tokens.head? = some .comma) :
    ∃ reason, error = .atToken reason .comma := by
  obtain ⟨first, after, rfl, _, rfl⟩ := expect_failed ended failed
  obtain rfl : first = .comma := Option.some.inj comma
  exact ⟨_, rfl⟩

/-- A brace breaks off at the token that stands in the place of its distance, also if this is a
distance in sentences. -/
theorem brace_distance_points (ended : .finish ∈ tokens)
    (failed : braceDistance tokens = .error error) :
    PointsAtBreak wordDistances ends tokens error := by
  obtain ⟨first, after, reason, rfl, rfl, other⟩ : ∃ first after reason,
      tokens = first :: after ∧ error = .atToken reason first ∧
        ∀ digits capital, first ≠ .distance digits .words capital := by
    unfold braceDistance at failed
    split at failed
    · cases failed
    · exact ⟨_, _, _, rfl, (Except.error.inj failed).symm, by simp⟩
    · next noWords _ =>
      cases tokens with
      | nil => cases ended
      | cons first after =>
        refine ⟨first, after, _, rfl, (Except.error.inj failed).symm, ?_⟩
        rintro digits capital rfl
        exact noWords digits capital after rfl
  refine ⟨reason, [], first, after, rfl, rfl, exists_spelled wordDistances, ?_⟩
  rintro _ _ ⟨digits, capital, rfl⟩ behind _ begins
  exact other digits capital (List.cons_prefix_cons.mp begins).1

end Signs

/-- The readers of primaries point at the break, at this depth. -/
def PrimaryPoints (depth : Nat) : Prop :=
  ∀ tokens error, .finish ∈ tokens → 4 * tokens.length ≤ depth + 3 →
    primary depth tokens = .error error → PointsAtBreak primaries AnyRest tokens error

/-- The readers of nearnesses point at the break, at this depth. -/
def NearnessPoints (depth : Nat) : Prop :=
  ∀ tokens error, .finish ∈ tokens → 4 * tokens.length ≤ depth + 2 →
    nearness depth tokens = .error error → PointsAtBreak nearnesses EndsNearness tokens error

/-- The readers of intersections point at the break, at this depth. -/
def IntersectionPoints (depth : Nat) : Prop :=
  ∀ tokens error, .finish ∈ tokens → 4 * tokens.length ≤ depth + 1 →
    intersection depth tokens = .error error →
      PointsAtBreak intersections EndsIntersection tokens error

/-- The readers of unions point at the break, at this depth. -/
def UnionPoints (depth : Nat) : Prop :=
  ∀ tokens error, .finish ∈ tokens → 4 * tokens.length ≤ depth →
    union depth tokens = .error error → PointsAtBreak unions EndsUnion tokens error

/-- A reading that goes on behind a primary points at the break, if what follows does. -/
theorem points_through_primary {α : Type} {depth : Nat} (ofPrimaries : PrimaryPoints depth)
    {tokens : List Token} {next : Expr × List Token → Except ParseError α} {error : ParseError}
    (failed : primary depth tokens >>= next = .error error) (ended : .finish ∈ tokens)
    (enough : 4 * tokens.length ≤ depth + 3) {phrases : Language Token}
    [HasSpelled phrases] {ends : List Token → Prop}
    (later : ∀ (tree : PrimaryTree) rest, .finish ∈ rest → rest.length < tokens.length →
      next (tree.expr, rest) = .error error → PointsAtBreak phrases ends rest error) :
    PointsAtBreak (primaries * phrases) ends tokens error := by
  rcases (bind_error_iff ..).mp failed with stopped | ⟨⟨operand, rest⟩, read, failed⟩
  · exact (ofPrimaries _ _ ended enough stopped).in_first (fun _ _ _ _ => trivial)
  · obtain ⟨tree, rfl, rfl⟩ := (readers_sound depth).1 _ _ _ read
    have shorter : rest.length < (tree.tokens ++ rest).length := by
      have filled := tree.tokens_pos
      rw [List.length_append]
      omega
    exact (later tree rest (finish_behind tree.inner ended) shorter failed).behind_primary tree

/-- A reading that goes on behind a demanded sign points at the break, if what follows does. -/
theorem points_through_sign {α : Type} {token : Token} {reason : ParseReason} {tokens : List Token}
    {next : List Token → Except ParseError α} {error : ParseError}
    (failed : expect token reason tokens >>= next = .error error) (ended : .finish ∈ tokens)
    [HasSpelled (sign token)] (notEnd : token ≠ .finish) {phrases : Language Token}
    [HasSpelled phrases] {ends : List Token → Prop}
    (later : ∀ rest, .finish ∈ rest → rest.length < tokens.length →
      next rest = .error error → PointsAtBreak phrases ends rest error) :
    PointsAtBreak (sign token * phrases) ends tokens error := by
  rcases (bind_error_iff ..).mp failed with missed | ⟨rest, found, failedBehind⟩
  · have points : PointsAtBreak (sign token) AnyRest tokens error := expect_points ended missed
    exact points.in_first (fun _ _ _ _ => trivial)
  · obtain rfl := (expect_ok_iff ..).mp found
    have endedBehind : .finish ∈ rest := by simpa [notEnd.symm] using ended
    exact (later rest endedBehind (by simp) failedBehind).behind_sign

/-- The reader of intersections does not stop in front of a star. -/
theorem intersection_stops {depth : Nat} {tokens rest : List Token} {operands : Expr × List Expr}
    (read : intersection depth tokens = .ok (operands, rest)) : rest.head? ≠ some .star := by
  induction depth generalizing tokens operands with
  | zero => simp [intersection, stop] at read
  | succ depth inductionHypothesis =>
    unfold intersection at read
    obtain ⟨⟨operand, behind⟩, _, read⟩ := (bind_ok_iff ..).mp read
    dsimp only at read
    split at read
    · obtain ⟨⟨others, later⟩, readOthers, read⟩ := (bind_ok_iff ..).mp read
      obtain ⟨_, rfl⟩ := Prod.mk.inj (Except.ok.inj read)
      exact inductionHypothesis readOthers
    · next noStar =>
      obtain ⟨_, rfl⟩ := Prod.mk.inj (Except.ok.inj read)
      intro star
      obtain ⟨later, rfl⟩ := List.head?_eq_some_iff.mp star
      exact noStar later rfl

/-- The reader of unions stops neither in front of a star nor in front of a plus sign. -/
theorem union_stops {depth : Nat} {tokens rest : List Token} {operands : Expr × List Expr}
    (read : union depth tokens = .ok (operands, rest)) :
    rest.head? ≠ some .star ∧ rest.head? ≠ some .plus := by
  induction depth generalizing tokens operands with
  | zero => simp [union, stop] at read
  | succ depth inductionHypothesis =>
    unfold union at read
    obtain ⟨⟨operand, behind⟩, readOperand, read⟩ := (bind_ok_iff ..).mp read
    dsimp only at read
    split at read
    · obtain ⟨⟨others, later⟩, readOthers, read⟩ := (bind_ok_iff ..).mp read
      obtain ⟨_, rfl⟩ := Prod.mk.inj (Except.ok.inj read)
      exact inductionHypothesis readOthers
    · next noPlus =>
      obtain ⟨_, rfl⟩ := Prod.mk.inj (Except.ok.inj read)
      refine ⟨intersection_stops readOperand, ?_⟩
      intro plus
      obtain ⟨later, rfl⟩ := List.head?_eq_some_iff.mp plus
      exact noPlus later rfl

/-- Behind a union that was read a phrase breaks off where the part behind the union does, or at the
comma in front of this part. -/
theorem points_behind_union {depth : Nat} {tokens rest : List Token} {operands : Expr × List Expr}
    (read : union depth tokens = .ok (operands, rest)) {tree : UnionTree}
    {phrases : Language Token} {ends : List Token → Prop} {error : ParseError}
    [HasSpelled phrases] (points : PointsAtBreak phrases ends rest error)
    (atComma : rest.head? = some .comma → ∃ reason, error = .atToken reason .comma)
    (follows : ∀ phrase ∈ phrases, ∀ rest, ends rest → EndsUnion (phrase ++ rest)) :
    PointsAtBreak (unions * phrases) ends (tree.tokens ++ rest) error := by
  obtain ⟨notStar, notPlus⟩ := union_stops read
  by_cases comma : rest.head? = some .comma
  · obtain ⟨reason, rfl⟩ := atComma comma
    obtain ⟨after, rfl⟩ := List.head?_eq_some_iff.mp comma
    obtain ⟨phrase, isPhrase, spelled⟩ := exists_spelled phrases
    refine ⟨reason, tree.tokens, .comma, after, rfl, rfl, ⟨phrase, ?_, spelled⟩, ?_⟩
    · exact Language.append_mem_mul ⟨tree, rfl⟩ isPhrase
    · exact fun noComma => absurd rfl noComma
  · refine points.in_second delimits_unions ⟨tree, rfl⟩ follows ?_
    intro other same
    simp only [EndsUnion, EndsIntersection, EndsNearness, same]
    exact ⟨⟨comma, notStar⟩, notPlus⟩

/-- A reading that goes on behind a union points at the break, if what follows does, also where it
points at a comma behind the union. -/
theorem points_through_union {α : Type} {depth : Nat} (ofUnions : UnionPoints depth)
    {tokens : List Token} {next : (Expr × List Expr) × List Token → Except ParseError α}
    {error : ParseError} (failed : union depth tokens >>= next = .error error)
    (ended : .finish ∈ tokens) (enough : 4 * tokens.length ≤ depth) {phrases : Language Token}
    [HasSpelled phrases] {ends : List Token → Prop}
    (follows : ∀ phrase ∈ phrases, ∀ rest, ends rest → EndsUnion (phrase ++ rest))
    (later : ∀ operands rest, .finish ∈ rest → next (operands, rest) = .error error →
      PointsAtBreak phrases ends rest error ∧
        (rest.head? = some .comma → ∃ reason, error = .atToken reason .comma)) :
    PointsAtBreak (unions * phrases) ends tokens error := by
  rcases (bind_error_iff ..).mp failed with stopped | ⟨⟨operands, rest⟩, read, failedBehind⟩
  · exact (ofUnions _ _ ended enough stopped).in_first follows
  · obtain ⟨tree, rfl, rfl⟩ := (readers_sound depth).2.2.2 _ _ _ read
    obtain ⟨points, atComma⟩ := later _ rest (finish_behind tree.inner ended) failedBehind
    exact points_behind_union read points atComma follows

/-- A chain that goes on with its sign behind an operand breaks off where the rest of the chain
does. -/
theorem points_along_chain {operands chains : Language Token} {stops ends : List Token → Prop}
    {token : Token} (delimited : Delimits operands stops)
    (follows : ∀ phrase ∈ sign token * chains + 1, ∀ rest, ends rest → stops (phrase ++ rest))
    (notHere : ∀ rest, ends rest → rest.head? ≠ some token)
    (stopped : ∀ rest, rest.head? = some token → stops rest) {front rest : List Token}
    {error : ParseError} (isOperand : front ∈ operands)
    (points : PointsAtBreak chains ends rest error) :
    PointsAtBreak (operands * (sign token * chains + 1)) ends (front ++ token :: rest) error := by
  have apart : ∀ phrase ∈ (1 : Language Token), ∀ rest, ends rest →
      (phrase ++ rest).head? ≠ some token := by
    rintro _ rfl rest ended
    exact notHere rest ended
  exact (points.behind_sign.or apart).in_second delimited isOperand follows stopped

/-- What begins a primary in round brackets. -/
theorem head_parentheses {phrase : List Token} (isPhrase : phrase ∈ parentheses)
    (rest : List Token) : (phrase ++ rest).head? = some .leftParenthesis := by
  obtain ⟨_, rfl, _, _, rfl⟩ := Language.mem_mul.mp isPhrase
  rfl

/-- What begins a brace. -/
theorem head_braces {phrase : List Token} (isPhrase : phrase ∈ braces) (rest : List Token) :
    (phrase ++ rest).head? = some .leftBrace := by
  obtain ⟨_, rfl, _, _, rfl⟩ := Language.mem_mul.mp isPhrase
  rfl

section Depth

variable {depth : Nat} {tokens : List Token} {error : ParseError}

/-- A token that begins no primary breaks off a primary. -/
theorem points_at_start {token : Token} {after : List Token}
    (notIdentifier : ∀ text, token ≠ .identifier text) (notParenthesis : token ≠ .leftParenthesis)
    (notBrace : token ≠ .leftBrace) (failed : primary (depth + 1) (token :: after) = .error error) :
    PointsAtBreak primaries AnyRest (token :: after) error := by
  obtain ⟨reason, rfl⟩ : ∃ reason, error = .atToken reason token := by
    cases token with
    | identifier text => exact absurd rfl (notIdentifier text)
    | leftParenthesis => exact absurd rfl notParenthesis
    | leftBrace => exact absurd rfl notBrace
    | _ => exact ⟨_, (Except.error.inj failed).symm⟩
  refine ⟨reason, [], token, after, rfl, rfl, exists_spelled primaries, ?_⟩
  rw [primaries_eq]
  intro _ phrase isPrimary rest _ ⟨later, same⟩
  have head : (phrase ++ rest).head? = some token := by
    rw [← same]
    rfl
  rcases isPrimary with ⟨text, rfl⟩ | isParenthesis | isBrace
  · exact notIdentifier text (Option.some.inj head).symm
  · rw [head_parentheses isParenthesis] at head
    exact notParenthesis (Option.some.inj head).symm
  · rw [head_braces isBrace] at head
    exact notBrace (Option.some.inj head).symm

/-- Behind an opening round bracket the reader of primaries points at the break. -/
theorem parenthesis_points (ofUnions : UnionPoints depth) (ended : .finish ∈ tokens)
    (enough : 4 * tokens.length ≤ depth)
    (failed : primary (depth + 1) (.leftParenthesis :: tokens) = .error error) :
    PointsAtBreak (unions * sign .rightParenthesis) AnyRest tokens error := by
  unfold primary at failed
  refine points_through_union ofUnions failed ended enough ?_ ?_
  · rintro _ rfl rest _
    exact ends_union_parenthesis rest
  · intro operands rest ended failed
    rcases (bind_error_iff ..).mp failed with unclosed | ⟨_, _, returned⟩
    · exact ⟨expect_points ended unclosed, expect_comma ended unclosed⟩
    · cases returned

/-- Behind an opening curly bracket the reader of primaries points at the break. -/
theorem brace_points (ofPrimaries : PrimaryPoints depth) (ended : .finish ∈ tokens)
    (enough : 4 * tokens.length ≤ depth + 3)
    (failed : primary (depth + 1) (.leftBrace :: tokens) = .error error) :
    PointsAtBreak braceTails AnyRest tokens error := by
  unfold primary at failed
  refine points_through_primary ofPrimaries failed ended (by omega) ?_
  intro first behindFirst ended shorter failed
  refine points_through_sign failed ended (by decide) ?_
  intro rest ended furtherOn failed
  refine points_through_primary ofPrimaries failed ended (by omega) ?_
  intro second behindSecond ended shorter failed
  refine points_through_sign failed ended (by decide) ?_
  intro rest ended furtherOn failed
  refine points_through_primary ofPrimaries failed ended (by omega) ?_
  intro third behindThird ended shorter failed
  refine points_through_sign failed ended (by decide) ?_
  intro rest ended furtherOn failed
  refine points_through_sign failed ended (by decide) ?_
  intro rest ended furtherOn failed
  rcases (bind_error_iff ..).mp failed with noDistance | ⟨_, _, returned⟩
  · exact brace_distance_points ended noDistance
  · cases returned

/-- The readers of primaries point at the break one step deeper. -/
theorem primary_points_step (ofPrimaries : PrimaryPoints depth) (ofUnions : UnionPoints depth) :
    PrimaryPoints (depth + 1) := by
  intro tokens error ended enough failed
  cases tokens with
  | nil => cases ended
  | cons token after =>
    simp only [List.length_cons] at enough
    by_cases isParenthesis : token = .leftParenthesis
    · subst isParenthesis
      replace ended : .finish ∈ after := by simpa using ended
      have apart : ∀ phrase ∈ identifiers + braces, ∀ rest, AnyRest rest →
          (phrase ++ rest).head? ≠ some .leftParenthesis := by
        rintro _ (⟨text, rfl⟩ | isBrace) rest _
        · simp
        · simp [head_braces isBrace]
      rw [primaries_eq, add_left_comm]
      exact (parenthesis_points ofUnions ended (by omega) failed).behind_sign.or apart
    by_cases isBrace : token = .leftBrace
    · subst isBrace
      replace ended : .finish ∈ after := by simpa using ended
      have apart : ∀ phrase ∈ identifiers + parentheses, ∀ rest, AnyRest rest →
          (phrase ++ rest).head? ≠ some .leftBrace := by
        rintro _ (⟨text, rfl⟩ | isParenthesis) rest _
        · simp
        · simp [head_parentheses isParenthesis]
      rw [primaries_eq, ← add_assoc, add_comm]
      exact (brace_points ofPrimaries ended (by omega) failed).behind_sign.or apart
    · refine points_at_start ?_ isParenthesis isBrace failed
      rintro text rfl
      cases failed

/-- The readers of nearnesses point at the break one step deeper. -/
theorem nearness_points_step (ofPrimaries : PrimaryPoints depth) : NearnessPoints (depth + 1) := by
  intro tokens error ended enough failed
  unfold nearness at failed
  rw [nearnesses_eq]
  refine points_through_primary ofPrimaries failed ended (by omega) ?_
  intro left rest ended shorter failed
  dsimp only at failed
  split at failed
  · next digits unit capital behind =>
    simp only [List.length_cons] at shorter
    replace ended : .finish ∈ behind := by simpa using ended
    have apart : ∀ phrase ∈ (1 : Language Token), ∀ rest, EndsNearness rest →
        (phrase ++ rest).head? ≠ some .comma := by
      rintro _ rfl rest ends
      exact ends
    have single : ∀ phrase ∈ distances, ∃ token, phrase = [token] := by
      rintro _ ⟨digits, unit, capital, rfl⟩
      exact ⟨_, rfl⟩
    have isDistance : [Token.distance digits unit capital] ∈ distances := ⟨_, _, _, rfl⟩
    refine PointsAtBreak.or (.behind_sign ?_) apart
    refine PointsAtBreak.in_second ?_ (delimits_single single) isDistance
      (fun _ _ _ _ => trivial) (fun _ _ => trivial)
    refine points_through_sign failed ended (by decide) ?_
    intro rest ended furtherOn failed
    rcases (bind_error_iff ..).mp failed with stopped | ⟨_, _, failed⟩
    · exact (ofPrimaries _ _ ended (by omega) stopped).anti (fun _ _ => trivial)
    · cases failed
  · cases failed

/-- The readers of intersections point at the break one step deeper. -/
theorem intersection_points_step (ofNearnesses : NearnessPoints depth)
    (ofIntersections : IntersectionPoints depth) : IntersectionPoints (depth + 1) := by
  intro tokens error ended enough failed
  unfold intersection at failed
  have follows : ∀ phrase ∈ sign .star * intersections + 1, ∀ rest, EndsIntersection rest →
      EndsNearness (phrase ++ rest) := by
    rintro _ (⟨_, rfl, _, _, rfl⟩ | rfl) rest ends
    · exact ends_nearness_star _
    · exact ends.1
  rw [intersections_eq]
  rcases (bind_error_iff ..).mp failed with stopped | ⟨⟨operand, rest⟩, read, goesOn⟩
  · exact (ofNearnesses _ _ ended (by omega) stopped).in_first follows
  obtain ⟨tree, rfl, rfl⟩ := (readers_sound depth).2.1 _ _ _ read
  have filled := tree.tokens_pos
  dsimp only at goesOn
  split at goesOn
  · next behind =>
    rcases (bind_error_iff ..).mp goesOn with stopped | ⟨_, _, returned⟩
    · have endedBehind : .finish ∈ behind := by simpa using finish_behind tree.inner ended
      simp only [List.length_append, List.length_cons] at enough
      exact points_along_chain delimits_nearnesses follows (fun rest ends => ends.2)
        (fun rest star => by simp [EndsNearness, star]) ⟨tree, rfl⟩
        (ofIntersections _ _ endedBehind (by omega) stopped)
    · cases returned
  · cases goesOn

/-- The readers of unions point at the break one step deeper. -/
theorem union_points_step (ofIntersections : IntersectionPoints depth)
    (ofUnions : UnionPoints depth) : UnionPoints (depth + 1) := by
  intro tokens error ended enough failed
  unfold union at failed
  have follows : ∀ phrase ∈ sign .plus * unions + 1, ∀ rest, EndsUnion rest →
      EndsIntersection (phrase ++ rest) := by
    rintro _ (⟨_, rfl, _, _, rfl⟩ | rfl) rest ends
    · exact ends_intersection_plus _
    · exact ends.1
  rw [unions_eq]
  rcases (bind_error_iff ..).mp failed with stopped | ⟨⟨operand, rest⟩, read, goesOn⟩
  · exact (ofIntersections _ _ ended (by omega) stopped).in_first follows
  obtain ⟨tree, rfl, rfl⟩ := (readers_sound depth).2.2.1 _ _ _ read
  have filled := tree.tokens_pos
  dsimp only at goesOn
  split at goesOn
  · next behind =>
    rcases (bind_error_iff ..).mp goesOn with stopped | ⟨_, _, returned⟩
    · have endedBehind : .finish ∈ behind := by simpa using finish_behind tree.inner ended
      simp only [List.length_append, List.length_cons] at enough
      exact points_along_chain delimits_intersections follows (fun rest ends => ends.2)
        (fun rest plus => by simp [EndsIntersection, EndsNearness, plus]) ⟨tree, rfl⟩
        (ofUnions _ _ endedBehind (by omega) stopped)
    · cases returned
  · cases goesOn

end Depth

/-- All readers point at the break. Each step of the descent appeals to shallower ones only, and the
descent is never too shallow for the tokens that are left. -/
theorem readers_point (depth : Nat) : PrimaryPoints depth ∧ NearnessPoints depth ∧
    IntersectionPoints depth ∧ UnionPoints depth := by
  induction depth with
  | zero =>
    refine ⟨?_, ?_, ?_, ?_⟩ <;> intro tokens error ended enough _
    all_goals
      have some : 0 < tokens.length := List.length_pos_of_mem ended
      omega
  | succ depth inductionHypothesis =>
    obtain ⟨ofPrimaries, ofNearnesses, ofIntersections, ofUnions⟩ := inductionHypothesis
    exact ⟨primary_points_step ofPrimaries ofUnions, nearness_points_step ofPrimaries,
      intersection_points_step ofNearnesses ofIntersections,
      union_points_step ofIntersections ofUnions⟩

/-- The statements of the grammar, with the token that ends every statement. -/
def statements : Language Token := {tokens | ∃ derivation : Derivation, derivation.tokens = tokens}

/-- Nothing follows. -/
def NoRest (rest : List Token) : Prop := rest = []

/-- Behind its union a statement breaks off at the first token that is neither its field nor its
end. -/
theorem ending_points {rest : List Token} {error : ParseError} (ended : .finish ∈ rest)
    (failed : expect .finish .trailing (fieldAndRest rest).2 = .error error) :
    PointsAtBreak endings NoRest rest error ∧
      (rest.head? = some .comma → ∃ reason, error = .atToken reason .comma) := by
  unfold fieldAndRest at failed
  split at failed
  · next field behind =>
    replace ended : .finish ∈ behind := by simpa using ended
    obtain ⟨first, after, rfl, notEnd, rfl⟩ := expect_failed ended failed
    have begun : ∃ later, [.field field] ++ later ∈ endings ∧
        ∀ token ∈ later, Token.IsSpelled token :=
      ⟨[.finish], ⟨some field, rfl⟩, by decide⟩
    refine ⟨⟨_, [.field field], first, after, rfl, rfl, begun, ?_⟩, nofun⟩
    rintro _ _ ⟨name, rfl⟩ _ rfl begins
    cases name with
    | none => simp [fieldTokens] at begins
    | some name =>
      obtain ⟨_, same⟩ : field = name ∧ first = .finish := by simpa [fieldTokens] using begins
      exact notEnd same
  · next noField =>
    refine ⟨?_, expect_comma ended failed⟩
    obtain ⟨first, after, rfl, notEnd, rfl⟩ := expect_failed ended failed
    refine ⟨_, [], first, after, rfl, rfl, exists_spelled endings, ?_⟩
    rintro _ _ ⟨name, rfl⟩ _ rfl begins
    cases name with
    | none => exact notEnd (by simpa [fieldTokens] using begins)
    | some name =>
      obtain rfl : first = .field name := by simpa [fieldTokens] using begins
      exact noField name after rfl

/-- Read a union and what stands behind it in a statement. -/
def readBody (body : List Token) : Except ParseError (List Token) :=
  union (depthBound body) body >>= fun read => expect .finish .trailing (fieldAndRest read.2).2

/-- A statement fails at its union, or at what stands behind the union. -/
theorem of_tokens_failed {tokens : List Token} {error : ParseError}
    (failed : ofTokens tokens = .error error) :
    readBody (nameAndBody tokens).2 = .error error := by
  unfold ofTokens at failed
  apply (bind_error_iff ..).mpr
  rcases (bind_error_iff ..).mp failed with stopped | ⟨⟨expr, rest⟩, read, failed⟩
  · left
    rcases (bind_error_iff ..).mp stopped with stopped | ⟨_, _, returned⟩
    · exact stopped
    · cases returned
  · right
    obtain ⟨⟨operands, behind⟩, readOperands, read⟩ := (bind_ok_iff ..).mp read
    obtain ⟨_, rfl⟩ := Prod.mk.inj (Except.ok.inj read)
    refine ⟨(operands, behind), readOperands, ?_⟩
    rcases (bind_error_iff ..).mp failed with trailing | ⟨_, _, returned⟩
    · exact trailing
    · cases returned

/-- Behind its name a statement breaks off where the reader stops. -/
theorem body_points {body : List Token} {error : ParseError} (ended : .finish ∈ body)
    (failed : readBody body = .error error) :
    PointsAtBreak (unions * endings) NoRest body error := by
  have enough : 4 * body.length ≤ depthBound body := by
    unfold depthBound
    omega
  refine points_through_union (readers_point _).2.2.2 failed ended enough ?_ ?_
  · rintro _ ⟨field, rfl⟩ _ rfl
    rw [List.append_nil]
    exact ends_union_field_tokens field
  · exact fun operands rest => ending_points

/-- A statement with a name is the name and its sign, a union, and an ending. -/
theorem statement_named {name : Text} {phrase : List Token} (isBody : phrase ∈ unions * endings) :
    .identifier name :: .assign :: phrase ∈ statements := by
  obtain ⟨_, ⟨body, rfl⟩, _, ⟨field, rfl⟩, rfl⟩ := Language.mem_mul.mp isBody
  exact ⟨⟨some name, body, field⟩, rfl⟩

/-- A statement without a name is a union and an ending. -/
theorem statement_unnamed {phrase : List Token} (isBody : phrase ∈ unions * endings) :
    phrase ∈ statements := by
  obtain ⟨_, ⟨body, rfl⟩, _, ⟨field, rfl⟩, rfl⟩ := Language.mem_mul.mp isBody
  exact ⟨⟨none, body, field⟩, rfl⟩

/-- A statement is a body behind a name and its sign, or a body alone, in which the sign does not
occur. -/
theorem statement_cases {phrase : List Token} (isStatement : phrase ∈ statements) :
    (∃ name body, body ∈ unions * endings ∧ phrase = .identifier name :: .assign :: body) ∨
      (phrase ∈ unions * endings ∧ .assign ∉ phrase) := by
  obtain ⟨⟨name, body, field⟩, rfl⟩ := isStatement
  have isBody : body.tokens ++ fieldTokens field ∈ unions * endings :=
    Language.append_mem_mul ⟨body, rfl⟩ ⟨field, rfl⟩
  cases name with
  | some name => exact .inl ⟨name, _, isBody, rfl⟩
  | none => exact .inr ⟨isBody, body_assign_absent body field⟩

/-- A statement breaks off where the reader stops. -/
theorem statement_points {tokens : List Token} {error : ParseError} (ended : .finish ∈ tokens)
    (failed : ofTokens tokens = .error error) : PointsAtBreak statements NoRest tokens error := by
  have failedBody := of_tokens_failed failed
  unfold nameAndBody at failedBody
  split at failedBody
  · next name body =>
    replace ended : .finish ∈ body := by simpa using ended
    obtain ⟨reason, before, token, after, rfl, rfl, ⟨later, isBody, spelled⟩, broken⟩ :=
      body_points ended failedBody
    refine ⟨reason, .identifier name :: .assign :: before, token, after, rfl, rfl,
      ⟨later, statement_named isBody, spelled⟩, ?_⟩
    intro noComma phrase isStatement rest nothing begins
    rcases statement_cases isStatement with ⟨_, other, isOther, rfl⟩ | ⟨_, noAssign⟩
    · have inBody := (List.cons_prefix_cons.mp (List.cons_prefix_cons.mp begins).2).2
      exact broken noComma other isOther rest nothing inBody
    · obtain rfl := nothing
      rw [List.append_nil] at begins
      exact noAssign (begins.subset (by simp))
  · next noName =>
    obtain ⟨reason, before, token, after, rfl, rfl, ⟨later, isBody, spelled⟩, broken⟩ :=
      body_points ended failedBody
    refine ⟨reason, before, token, after, rfl, rfl,
      ⟨later, statement_unnamed isBody, spelled⟩, ?_⟩
    intro noComma phrase isStatement rest nothing begins
    rcases statement_cases isStatement with ⟨name, other, isOther, rfl⟩ | ⟨isOther, _⟩
    · -- The reader looks for the sign behind an identifier, so only the identifier is common.
      cases before with
      | nil =>
        obtain rfl : token = .identifier name := (List.cons_prefix_cons.mp begins).1
        refine broken noComma ([.identifier name] ++ [.finish]) ?_ [] rfl ⟨[.finish], rfl⟩
        exact Language.append_mem_mul
          ⟨.last (.last (.single (.identifier name))), rfl⟩ ⟨none, rfl⟩
      | cons first others =>
        obtain ⟨rfl, behind⟩ := List.cons_prefix_cons.mp begins
        cases others with
        | nil =>
          obtain rfl : token = .assign := (List.cons_prefix_cons.mp behind).1
          exact noName name after rfl
        | cons second further =>
          obtain ⟨rfl, _⟩ := List.cons_prefix_cons.mp behind
          exact noName name _ rfl
    · exact broken noComma phrase isOther rest nothing begins

/-- The tokens of a statement are those that can stand inside it and the end. -/
theorem Derivation.tokens_end (derivation : Derivation) :
    ∃ front, derivation.tokens = front ++ [.finish] ∧ .finish ∉ front := by
  obtain ⟨name, body, field⟩ := derivation
  have ofBody : .finish ∉ body.tokens := fun inside =>
    absurd (List.all_eq_true.mp body.inner _ inside) (by decide)
  have ofName : .finish ∉ nameTokens name := by cases name <;> simp [nameTokens]
  cases field with
  | none => exact ⟨nameTokens name ++ body.tokens, rfl, by simp [ofBody, ofName]⟩
  | some field =>
    exact ⟨nameTokens name ++ body.tokens ++ [.field field],
      by simp [Derivation.tokens, fieldTokens], by simp [ofBody, ofName]⟩

/-- A statement that begins like a text, and is completed by tokens that are scanned from their own
texts, is derived from a line. -/
theorem exists_line {text : Text} {before later after : List Token} {token : Token}
    (scanned : Token.scan text = before ++ token :: after)
    (isStatement : before ++ later ∈ statements)
    (spelled : ∀ token ∈ later, Token.IsSpelled token) :
    ∃ line, ∃ derivation : Derivation, derivation.tokens = Token.scan line ∧
      before <+: derivation.tokens := by
  obtain ⟨derivation, same⟩ := isStatement
  obtain ⟨front, ends, absent⟩ := derivation.tokens_end
  obtain ⟨part, read⟩ := Token.exists_part_of_scan .nil scanned
  have unended : .finish ∉ before := read ▸ Token.finish_absent_body part
  rw [ends] at same
  rcases List.eq_nil_or_concat later with rfl | ⟨inner, last, rfl⟩
  · rw [List.append_nil] at same
    exact absurd (same ▸ by simp) unended
  · have split : front ++ [.finish] = (before ++ inner) ++ [last] := by simp [same]
    obtain ⟨rfl, _⟩ := List.append_inj' split rfl
    have spelledInner : ∀ token ∈ inner, Token.IsSpelled token :=
      fun token inside => spelled token (by simp [inside])
    have scannedLine : Token.scan (part ++ Token.spell inner) = derivation.tokens := by
      have inside : .finish ∉ inner := fun member => absent (by simp [member])
      rw [Token.scan_eq_body, Token.body_spell part spelledInner inside, read, ends]
    refine ⟨part ++ Token.spell inner, derivation, scannedLine.symm, ?_⟩
    rw [ends, List.append_assoc]
    exact List.prefix_append ..

end PriorArt.Statement
