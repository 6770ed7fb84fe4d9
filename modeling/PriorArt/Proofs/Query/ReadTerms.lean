import Mathlib.Data.List.TakeWhile
import PriorArt.Proofs.Query.ExprRows
import PriorArt.Proofs.Query.GroupSearch
import PriorArt.Proofs.Spelling.Normal
import PriorArt.Query.Factor

/-!
# Terms that are read

A query is brought into normal form before it is read, and a term is cut out of it where it ends. So
the term is read again from itself, and in a normal text it is a plain word. A phrase has plain terms
if every term in it is such a word.
-/

namespace PriorArt

namespace Phrase

/-- The pieces of a term behind its first run are read again from themselves: they stand in front of
the text behind the term, and they begin with a slash, if there are any. -/
theorem termTail_again {pieces : Nat} {text tail behind : Text}
    (read : termTail pieces text = (tail, behind)) :
    text = tail ++ behind ∧ (∀ first ∈ tail.head?, isTermChar first = false) ∧
      ∀ more, tail.length ≤ more → termTail more tail = (tail, []) := by
  have empty : ∀ more, termTail more [] = ([], []) := by
    intro more
    cases more <;> rfl
  fun_induction termTail pieces text generalizing tail behind with
  | case1 text =>
    obtain ⟨rfl, rfl⟩ := Prod.mk.inj read
    exact ⟨rfl, by simp, fun more _ => empty more⟩
  | case2 pieces rest run =>
    obtain ⟨rfl, rfl⟩ := Prod.mk.inj read
    exact ⟨rfl, by simp, fun more _ => empty more⟩
  | case3 pieces rest run goesOn later left split =>
    rename_i inductionHypothesis
    obtain ⟨rfl, rfl⟩ := Prod.mk.inj read
    obtain ⟨parts, slash, again⟩ := inductionHypothesis split
    have whole : rest = run ++ (later ++ left) := by
      rw [← parts]
      exact List.takeWhile_append_dropWhile.symm
    have runAlone : run.takeWhile isTermChar = run ∧ run.dropWhile isTermChar = [] := by
      have chars : ∀ character ∈ run, isTermChar character = true :=
        fun character inside => List.all_eq_true.mp List.all_takeWhile character inside
      exact ⟨List.takeWhile_eq_self_iff.mpr chars, List.dropWhile_eq_nil_iff.mpr chars⟩
    refine ⟨by rw [whole]; simp, by simp; decide, ?_⟩
    intro more enough
    obtain ⟨more, rfl⟩ : ∃ fewer, more = fewer + 1 := ⟨more - 1, by simp at enough; omega⟩
    have sameRun : (run ++ later).takeWhile isTermChar = run := by
      rw [Text.takeWhile_append_stop run slash, runAlone.1]
    have sameRest : (run ++ later).dropWhile isTermChar = later := by
      rw [Text.dropWhile_append_stop run slash, runAlone.2, List.nil_append]
    simp only [List.length_cons, List.length_append, List.cons_append] at enough
    rw [List.cons_append, termTail, sameRun, sameRest, again more (by omega)]
    exact if_neg goesOn
  | case4 pieces text different =>
    obtain ⟨rfl, rfl⟩ := Prod.mk.inj read
    exact ⟨rfl, by simp, fun more _ => empty more⟩

/-- A term is read again from itself, and stands in front of the text behind it. -/
theorem term_again {text word rest : Text} (read : term? text = some (word, rest)) :
    text = word ++ rest ∧ term? word = some (word, []) := by
  unfold term? at read ⊢
  split at read
  · cases read
  · next run filled =>
    have chars : ∀ character ∈ text.takeWhile isTermChar, isTermChar character = true :=
      fun character inside => List.all_eq_true.mp List.all_takeWhile character inside
    generalize tailRead : termTail text.length (text.dropWhile isTermChar) = tail at read
    obtain ⟨tail, behind⟩ := tail
    obtain ⟨parts, slash, again⟩ := termTail_again tailRead
    obtain ⟨rfl, rfl⟩ := Prod.mk.inj (Option.some.inj read)
    have whole : text = text.takeWhile isTermChar ++ (tail ++ behind) := by
      rw [← parts]
      exact List.takeWhile_append_dropWhile.symm
    have sameRun : (text.takeWhile isTermChar ++ tail).takeWhile isTermChar =
        text.takeWhile isTermChar := by
      rw [Text.takeWhile_append_stop _ slash, List.takeWhile_eq_self_iff.mpr chars]
    have sameRest : (text.takeWhile isTermChar ++ tail).dropWhile isTermChar = tail := by
      rw [Text.dropWhile_append_stop _ slash, List.dropWhile_eq_nil_iff.mpr chars,
        List.nil_append]
    refine ⟨by rw [List.append_assoc]; exact whole, ?_⟩
    rw [sameRun, sameRest, again _ (by simp)]
    split
    · next none => exact absurd none filled
    · rfl

/-- A phrase whose terms are plain words. -/
inductive HasPlainTerms : Phrase → Prop where
  | term {text : Text} (plain : IsPlain text) : HasPlainTerms (.term text)
  | union {first second : Phrase} {others : List Phrase}
      (operands : ∀ operand ∈ first :: second :: others, HasPlainTerms operand) :
      HasPlainTerms (.union first second others)
  | product {first second : Phrase} {others : List Phrase}
      (operands : ∀ operand ∈ first :: second :: others, HasPlainTerms operand) :
      HasPlainTerms (.product first second others)
  | group {inner : Phrase} (ofInner : HasPlainTerms inner) : HasPlainTerms (.group inner)
  | bracket {inner : Phrase} (ofInner : HasPlainTerms inner) : HasPlainTerms (.bracket inner)
  | proximity {left right : Phrase} (ofLeft : HasPlainTerms left) (distance : Distance)
      (ofRight : HasPlainTerms right) : HasPlainTerms (.proximity left distance right)
  | brace {first second third : Phrase} (ofFirst : HasPlainTerms first)
      (ofSecond : HasPlainTerms second) (ofThird : HasPlainTerms third) (distance : Distance) :
      HasPlainTerms (.brace first second third distance)
  | fielded {inner : Phrase} (ofInner : HasPlainTerms inner) (field : Field) :
      HasPlainTerms (.fielded inner field)

/-- The operands of a union or product have plain terms. -/
def PlainOperands (operands : Phrase × List Phrase) : Prop :=
  ∀ operand ∈ operands.1 :: operands.2, HasPlainTerms operand

/-- Operands with plain terms are a union with plain terms. -/
theorem PlainOperands.union {first : Phrase} {others : List Phrase}
    (plain : PlainOperands (first, others)) : HasPlainTerms (joinUnion first others) := by
  cases others with
  | nil => exact plain first (by simp)
  | cons second others => exact .union plain

/-- Operands with plain terms are a product with plain terms. -/
theorem PlainOperands.product {first : Phrase} {others : List Phrase}
    (plain : PlainOperands (first, others)) : HasPlainTerms (joinProduct first others) := by
  cases others with
  | nil => exact plain first (by simp)
  | cons second others => exact .product plain

/-- Behind a character of a normal text stands a normal text. -/
theorem normal_behind {character : Char} {rest : Text}
    (normal : Text.IsNormal (character :: rest)) : Text.IsNormal rest :=
  normal.within (List.suffix_cons character rest).isInfix

/-- Behind a gap of a normal text stands a normal text. -/
theorem normal_skipGap {text : Text} (normal : Text.IsNormal text) :
    Text.IsNormal (skipGap text) :=
  normal.within (List.dropWhile_suffix isGap).isInfix

end Phrase

end PriorArt
