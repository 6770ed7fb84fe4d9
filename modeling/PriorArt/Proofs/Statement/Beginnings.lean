import Mathlib.Computability.Language
import PriorArt.Proofs.Statement.Grammar
import PriorArt.Proofs.Token.Spelled

/-!
# Phrases that break off

The phrases of a grammar are lists of tokens. They break off at a token if the tokens in front of it
begin a phrase, and no phrase goes on with it. So the token is the first one that shows that no
phrase was written.

Where two kinds of phrases follow each other and the end of the first one is seen, the whole breaks
off where one of its parts does. This carries the property from the signs of the grammar to whole
statements, one rule of the grammar at a time.

A comma is left out of account. It goes on with a phrase only if the token behind it does, and a
reader that looks at both stops at the comma.
-/

namespace PriorArt.Statement

open Reading

/-- The tokens before a token begin a phrase, which can be completed by tokens that are scanned from
their own texts. Unless the token is a comma, no phrase goes on with it, whatever ends the
phrase. -/
structure BreaksOff (phrases : Language Token) (ends : List Token → Prop) (before : List Token)
    (token : Token) : Prop where
  begun : ∃ later, before ++ later ∈ phrases ∧ ∀ token ∈ later, Token.IsSpelled token
  broken : token ≠ .comma → ∀ phrase ∈ phrases, ∀ rest, ends rest →
    ¬ before ++ [token] <+: phrase ++ rest

/-- An error that points at the token where a phrase breaks off. -/
def PointsAtBreak (phrases : Language Token) (ends : List Token → Prop) (tokens : List Token)
    (error : ParseError) : Prop :=
  ∃ reason before token after, tokens = before ++ token :: after ∧
    error = .atToken reason token ∧ BreaksOff phrases ends before token

/-- Where a phrase ends is seen, if something follows that ends it. -/
def Delimits (phrases : Language Token) (ends : List Token → Prop) : Prop :=
  ∀ phrase ∈ phrases, ∀ other ∈ phrases, ∀ rest behind, ends rest → ends behind →
    phrase ++ rest = other ++ behind → phrase = other ∧ rest = behind

/-- Anything may follow. -/
def AnyRest (_ : List Token) : Prop := True

/-- There is a phrase whose tokens are scanned from their own texts. -/
class HasSpelled (phrases : Language Token) : Prop where
  spelled : ∃ phrase ∈ phrases, ∀ token ∈ phrase, Token.IsSpelled token

/-- A phrase whose tokens are scanned from their own texts. -/
theorem exists_spelled (phrases : Language Token) [some : HasSpelled phrases] :
    ∃ phrase ∈ phrases, ∀ token ∈ phrase, Token.IsSpelled token := some.spelled

section Parts

variable {first second phrases others : Language Token} {stops ends : List Token → Prop}
  {tokens front rest : List Token} {error : ParseError}

/-- A phrase breaks off where its first part does. -/
theorem PointsAtBreak.in_first [HasSpelled second]
    (points : PointsAtBreak first stops tokens error)
    (follows : ∀ phrase ∈ second, ∀ rest, ends rest → stops (phrase ++ rest)) :
    PointsAtBreak (first * second) ends tokens error := by
  obtain ⟨reason, before, token, after, rfl, rfl, ⟨later, isFirst, spelled⟩, broken⟩ := points
  obtain ⟨next, isNext, spelledNext⟩ := exists_spelled second
  refine ⟨reason, before, token, after, rfl, rfl, ⟨later ++ next, ?_, ?_⟩, ?_⟩
  · rw [← List.append_assoc]
    exact Language.append_mem_mul isFirst isNext
  · exact List.forall_mem_append.mpr ⟨spelled, spelledNext⟩
  · intro noComma whole isWhole behind ended begins
    obtain ⟨own, isOwn, other, isOther, rfl⟩ := Language.mem_mul.mp isWhole
    refine broken noComma own isOwn (other ++ behind) (follows other isOther behind ended) ?_
    rwa [← List.append_assoc]

/-- A phrase breaks off where its second part does, if the end of the first part is seen. -/
theorem PointsAtBreak.in_second (points : PointsAtBreak second ends rest error)
    (delimited : Delimits first stops) (isFirst : front ∈ first)
    (follows : ∀ phrase ∈ second, ∀ rest, ends rest → stops (phrase ++ rest))
    (stopped : ∀ other, other.head? = rest.head? → stops other) :
    PointsAtBreak (first * second) ends (front ++ rest) error := by
  obtain ⟨reason, before, token, after, rfl, rfl, ⟨later, isSecond, spelled⟩, broken⟩ := points
  refine ⟨reason, front ++ before, token, after, by simp, rfl, ⟨later, ?_, spelled⟩, ?_⟩
  · rw [List.append_assoc]
    exact Language.append_mem_mul isFirst isSecond
  · intro noComma whole isWhole behind ended ⟨later, same⟩
    obtain ⟨own, isOwn, other, isOther, rfl⟩ := Language.mem_mul.mp isWhole
    simp only [List.append_assoc, List.singleton_append] at same
    have sameHead : (before ++ token :: later).head? = (before ++ token :: after).head? := by
      cases before <;> rfl
    obtain ⟨rfl, sameRest⟩ := delimited front isFirst own isOwn _ _ (stopped _ sameHead)
      (follows other isOther behind ended) same
    exact broken noComma other isOther behind ended ⟨later, by simpa using sameRest⟩

/-- Phrases that break off whatever ends them do so with certain ends. -/
theorem PointsAtBreak.anti (points : PointsAtBreak phrases stops tokens error)
    (weaker : ∀ rest, ends rest → stops rest) : PointsAtBreak phrases ends tokens error := by
  obtain ⟨reason, before, token, after, rfl, rfl, begun, broken⟩ := points
  exact ⟨reason, before, token, after, rfl, rfl, begun, fun noComma phrase isPhrase rest ended =>
    broken noComma phrase isPhrase rest (weaker rest ended)⟩

/-- Phrases of two kinds break off where those of one kind do, if the others begin with another
token. -/
theorem PointsAtBreak.or (points : PointsAtBreak phrases ends tokens error)
    (apart : ∀ phrase ∈ others, ∀ rest, ends rest → (phrase ++ rest).head? ≠ tokens.head?) :
    PointsAtBreak (phrases + others) ends tokens error := by
  obtain ⟨reason, before, token, after, rfl, rfl, ⟨later, isPhrase, spelled⟩, broken⟩ := points
  refine ⟨reason, before, token, after, rfl, rfl, ⟨later, .inl isPhrase, spelled⟩, ?_⟩
  rintro noComma whole (isWhole | isOther) behind ended begins
  · exact broken noComma whole isWhole behind ended begins
  · obtain ⟨later, same⟩ := begins
    apply apart whole isOther behind ended
    rw [← same]
    cases before <;> rfl

end Parts

/-- The phrase that is one token. -/
def sign (token : Token) : Language Token := {tokens | tokens = [token]}

/-- The phrases that are one identifier. -/
def identifiers : Language Token := {tokens | ∃ text, tokens = [.identifier text]}

/-- The phrases that are one distance. -/
def distances : Language Token :=
  {tokens | ∃ digits unit capital, tokens = [.distance digits unit capital]}

/-- The phrases that are one distance in words. -/
def wordDistances : Language Token :=
  {tokens | ∃ digits capital, tokens = [.distance digits .words capital]}

/-- The primaries of the grammar. -/
def primaries : Language Token := {tokens | ∃ tree : PrimaryTree, tree.tokens = tokens}

/-- The nearnesses of the grammar. -/
def nearnesses : Language Token := {tokens | ∃ tree : NearnessTree, tree.tokens = tokens}

/-- The intersections of the grammar. -/
def intersections : Language Token := {tokens | ∃ tree : IntersectionTree, tree.tokens = tokens}

/-- The unions of the grammar. -/
def unions : Language Token := {tokens | ∃ tree : UnionTree, tree.tokens = tokens}

/-- The unions in round brackets. -/
def parentheses : Language Token := sign .leftParenthesis * (unions * sign .rightParenthesis)

/-- What follows the opening bracket of a brace. -/
def braceTails : Language Token :=
  primaries * (sign .comma * (primaries * (sign .comma * (primaries *
    (sign .rightBrace * (sign .comma * wordDistances))))))

/-- The braces with their distances. -/
def braces : Language Token := sign .leftBrace * braceTails

/-- What follows a union in a statement. -/
def endings : Language Token := {tokens | ∃ field, fieldTokens field = tokens}

@[simp] theorem mem_sign {token : Token} {tokens : List Token} :
    tokens ∈ sign token ↔ tokens = [token] := Iff.rfl

/-- A primary is an identifier, or it is enclosed in one of two kinds of brackets. -/
theorem primaries_eq : primaries = identifiers + (parentheses + braces) := by
  ext tokens
  simp only [parentheses, braces, braceTails, Language.mem_add, Language.mem_mul, mem_sign,
    exists_eq_left, List.singleton_append]
  constructor
  · rintro ⟨tree, rfl⟩
    cases tree with
    | identifier text => exact .inl ⟨text, rfl⟩
    | parenthesized inner =>
      exact .inr (.inl ⟨_, ⟨_, ⟨inner, rfl⟩, rfl⟩, rfl⟩)
    | brace first second third digits capital =>
      refine .inr (.inr ⟨_, ⟨_, ⟨first, rfl⟩, _, ⟨_, ⟨_, ⟨second, rfl⟩, _, ⟨_, ⟨_, ⟨third, rfl⟩, _,
        ⟨_, ⟨_, ⟨digits, capital, rfl⟩, rfl⟩, rfl⟩, rfl⟩, rfl⟩, rfl⟩, rfl⟩, rfl⟩, ?_⟩)
      simp [PrimaryTree.tokens]
  · rintro (⟨text, rfl⟩ | ⟨_, ⟨_, ⟨inner, rfl⟩, rfl⟩, rfl⟩ | ⟨_, ⟨_, ⟨first, rfl⟩, _,
      ⟨_, ⟨_, ⟨second, rfl⟩, _, ⟨_, ⟨_, ⟨third, rfl⟩, _, ⟨_, ⟨_, ⟨digits, capital, rfl⟩, rfl⟩, rfl⟩,
        rfl⟩, rfl⟩, rfl⟩, rfl⟩, rfl⟩, rfl⟩)
    · exact ⟨.identifier text, rfl⟩
    · exact ⟨.parenthesized inner, rfl⟩
    · exact ⟨.brace first second third digits capital, by simp [PrimaryTree.tokens]⟩

/-- A nearness is a primary that may go on with a distance and another one. -/
theorem nearnesses_eq : nearnesses = primaries *
    (sign .comma * (distances * (sign .comma * primaries)) + 1) := by
  ext tokens
  simp only [Language.mem_mul, Language.mem_add, Language.mem_one, mem_sign, exists_eq_left,
    List.singleton_append]
  constructor
  · rintro ⟨tree, rfl⟩
    cases tree with
    | single operand => exact ⟨_, ⟨operand, rfl⟩, [], .inr rfl, by simp [NearnessTree.tokens]⟩
    | near left digits unit capital right =>
      exact ⟨_, ⟨left, rfl⟩, _, .inl ⟨_, ⟨_, ⟨digits, unit, capital, rfl⟩, _,
        ⟨_, ⟨right, rfl⟩, rfl⟩, rfl⟩, rfl⟩, rfl⟩
  · rintro ⟨_, ⟨left, rfl⟩, _, ⟨_, ⟨_, ⟨digits, unit, capital, rfl⟩, _, ⟨_, ⟨right, rfl⟩, rfl⟩,
      rfl⟩, rfl⟩ | rfl, rfl⟩
    · exact ⟨.near left digits unit capital right, rfl⟩
    · exact ⟨.single left, by simp [NearnessTree.tokens]⟩

/-- An intersection is a nearness that may go on with a star and an intersection. -/
theorem intersections_eq :
    intersections = nearnesses * (sign .star * intersections + 1) := by
  ext tokens
  simp only [Language.mem_mul, Language.mem_add, Language.mem_one, mem_sign, exists_eq_left,
    List.singleton_append]
  constructor
  · rintro ⟨tree, rfl⟩
    cases tree with
    | last operand => exact ⟨_, ⟨operand, rfl⟩, [], .inr rfl, by simp [IntersectionTree.tokens]⟩
    | more operand rest => exact ⟨_, ⟨operand, rfl⟩, _, .inl ⟨_, ⟨rest, rfl⟩, rfl⟩, rfl⟩
  · rintro ⟨_, ⟨operand, rfl⟩, _, ⟨_, ⟨rest, rfl⟩, rfl⟩ | rfl, rfl⟩
    · exact ⟨.more operand rest, rfl⟩
    · exact ⟨.last operand, by simp [IntersectionTree.tokens]⟩

/-- A union is an intersection that may go on with a plus sign and a union. -/
theorem unions_eq : unions = intersections * (sign .plus * unions + 1) := by
  ext tokens
  simp only [Language.mem_mul, Language.mem_add, Language.mem_one, mem_sign, exists_eq_left,
    List.singleton_append]
  constructor
  · rintro ⟨tree, rfl⟩
    cases tree with
    | last operand => exact ⟨_, ⟨operand, rfl⟩, [], .inr rfl, by simp [UnionTree.tokens]⟩
    | more operand rest => exact ⟨_, ⟨operand, rfl⟩, _, .inl ⟨_, ⟨rest, rfl⟩, rfl⟩, rfl⟩
  · rintro ⟨_, ⟨operand, rfl⟩, _, ⟨_, ⟨rest, rfl⟩, rfl⟩ | rfl, rfl⟩
    · exact ⟨.more operand rest, rfl⟩
    · exact ⟨.last operand, by simp [UnionTree.tokens]⟩

instance {first second : Language Token} [HasSpelled first] [HasSpelled second] :
    HasSpelled (first * second) where
  spelled := by
    obtain ⟨front, isFirst, spelled⟩ := exists_spelled first
    obtain ⟨back, isSecond, spelledBack⟩ := exists_spelled second
    exact ⟨front ++ back, Language.append_mem_mul isFirst isSecond,
      List.forall_mem_append.mpr ⟨spelled, spelledBack⟩⟩

instance (phrases : Language Token) : HasSpelled (phrases + 1) := ⟨[], .inr rfl, by decide⟩

instance : HasSpelled (sign .comma) := ⟨_, rfl, by decide⟩

instance : HasSpelled (sign .rightParenthesis) := ⟨_, rfl, by decide⟩

instance : HasSpelled (sign .rightBrace) := ⟨_, rfl, by decide⟩

instance : HasSpelled primaries := ⟨_, ⟨.identifier ['A'], rfl⟩, by decide⟩

instance : HasSpelled wordDistances := ⟨_, ⟨['1'], false, rfl⟩, by decide⟩

instance : HasSpelled endings := ⟨_, ⟨none, rfl⟩, by decide⟩

/-- Phrases of one token show their end. -/
theorem delimits_single {phrases : Language Token}
    (single : ∀ phrase ∈ phrases, ∃ token, phrase = [token]) : Delimits phrases AnyRest := by
  intro phrase isPhrase other isOther rest behind _ _ same
  obtain ⟨token, rfl⟩ := single phrase isPhrase
  obtain ⟨next, rfl⟩ := single other isOther
  simpa using same

/-- A primary shows its end. -/
theorem delimits_primaries : Delimits primaries AnyRest := by
  rintro _ ⟨tree, rfl⟩ _ ⟨other, rfl⟩ rest behind _ _ same
  obtain ⟨rfl, sameRest⟩ := tree.unique other rest behind same
  exact ⟨rfl, sameRest⟩

/-- The end of a nearness is seen if no comma follows. -/
theorem delimits_nearnesses : Delimits nearnesses EndsNearness := by
  rintro _ ⟨tree, rfl⟩ _ ⟨other, rfl⟩ rest behind ends otherEnds same
  obtain ⟨rfl, sameRest⟩ := tree.unique other rest behind ends otherEnds same
  exact ⟨rfl, sameRest⟩

/-- The end of an intersection is seen if neither a comma nor a star follows. -/
theorem delimits_intersections : Delimits intersections EndsIntersection := by
  rintro _ ⟨tree, rfl⟩ _ ⟨other, rfl⟩ rest behind ends otherEnds same
  obtain ⟨rfl, sameRest⟩ := tree.unique other rest behind ends otherEnds same
  exact ⟨rfl, sameRest⟩

/-- The end of a union is seen if no sign of a chain follows. -/
theorem delimits_unions : Delimits unions EndsUnion := by
  rintro _ ⟨tree, rfl⟩ _ ⟨other, rfl⟩ rest behind ends otherEnds same
  obtain ⟨rfl, sameRest⟩ := tree.unique other rest behind ends otherEnds same
  exact ⟨rfl, sameRest⟩

end PriorArt.Statement
