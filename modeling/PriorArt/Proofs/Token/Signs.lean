import PriorArt.Proofs.Text.Trimmed
import PriorArt.Proofs.Token.Blanks
import PriorArt.Proofs.Token.Spelled

/-!
# Signs and blanks of a text

An operator sign is a token of its own wherever it stands. So the signs among the tokens of a text
are its sign characters in their order: a text can be cut at any of its signs, and the tokens before
and behind the sign are those of the two parts. The blanks between tokens leave no trace, so a text
has the same tokens without the blanks around it, as long as all of them separate tokens.
-/

namespace PriorArt.Token

section Signs

variable {character : Char} {sign : Token} (signs : ofSign? character = some sign)
include signs

/-- No sign stands in a run. -/
theorem sign_absent_run (run : Text) : sign ∉ ofWholeRun run := by
  intro inside
  have ofRun := of_whole_run_kind inside
  unfold ofSign? at signs
  split at signs <;> cases signs <;> simp [kind] at ofRun

/-- Another character is another sign. -/
theorem sign_injective {other : Char} (same : ofSign? other = some sign) : other = character := by
  have text := (text_of_sign signs).1
  rw [(text_of_sign same).1] at text
  exact (List.cons.inj text).1

/-- A sign among the tokens of a text is a character of the text. -/
theorem mem_of_sign_mem {run text : Text} (inside : sign ∈ scanFrom run text) :
    character ∈ text := by
  induction text generalizing run with
  | nil =>
    simp only [scanFrom, List.mem_append, List.mem_singleton] at inside
    rcases inside with ofRun | rfl
    · exact absurd ofRun (sign_absent_run signs run)
    · exact absurd signs finish_no_sign
  | cons first rest inductionHypothesis =>
    unfold scanFrom at inside
    split at inside
    · next other others =>
      simp only [List.mem_append, List.mem_cons] at inside
      rcases inside with ofRun | rfl | behind
      · exact absurd ofRun (sign_absent_run signs run)
      · rw [sign_injective signs others]
        exact List.mem_cons_self
      · exact List.mem_cons_of_mem _ (inductionHypothesis behind)
    · split at inside
      · rcases List.mem_append.mp inside with ofRun | behind
        · exact absurd ofRun (sign_absent_run signs run)
        · exact List.mem_cons_of_mem _ (inductionHypothesis behind)
      · exact List.mem_cons_of_mem _ (inductionHypothesis inside)

/-- A sign is among the tokens of a text exactly if its character is in the text. -/
theorem sign_mem_body_iff {text : Text} : sign ∈ body text ↔ character ∈ text := by
  constructor
  · exact fun inside => mem_of_sign_mem signs ((List.dropLast_sublist _).subset inside)
  · intro inside
    obtain ⟨front, back, rfl⟩ := List.append_of_mem inside
    rw [body_append_sign character sign signs]
    simp

/-- A text is cut at a sign among its tokens. -/
theorem exists_cut_at_sign {text : Text} {before after : List Token}
    (read : body text = before ++ sign :: after) :
    ∃ front back, text = front ++ character :: back ∧ body front = before ∧ body back = after := by
  -- The first sign of this kind is cut off, until the one that is meant is the first.
  induction length : before.length using Nat.strongRecOn generalizing text before with
  | ind number inductionHypothesis =>
    have inside : character ∈ text := by
      rw [← sign_mem_body_iff signs, read]
      simp
    obtain ⟨front, back, rfl, absent⟩ := List.eq_append_cons_of_mem inside
    rw [body_append_sign character sign signs] at read
    rcases List.append_eq_append_iff.mp read with ⟨between, rfl, same⟩ | ⟨between, inFront, same⟩
    · cases between with
      | nil =>
        obtain ⟨_, rfl⟩ := List.cons.inj same
        exact ⟨front, back, rfl, by simp, rfl⟩
      | cons first others =>
        obtain ⟨rfl, behind⟩ := List.cons.inj same
        obtain ⟨middle, rest, rfl, readMiddle, readRest⟩ := inductionHypothesis others.length
          (by simp [← length]; omega) behind rfl
        refine ⟨front ++ character :: middle, rest, by simp, ?_, readRest⟩
        rw [body_append_sign character sign signs, readMiddle]
    · cases between with
      | nil =>
        obtain ⟨_, rfl⟩ := List.cons.inj same
        exact ⟨front, back, rfl, by simpa using inFront, rfl⟩
      | cons first others =>
        obtain ⟨rfl, _⟩ := List.cons.inj same
        exact absurd ((sign_mem_body_iff signs).mp (by simp [inFront])) absent

end Signs

/-- Blanks between tokens have no tokens. -/
theorem body_gaps {text : Text} (gaps : ∀ character ∈ text, isGap character = true) :
    body text = [] := by
  induction text with
  | nil => rfl
  | cons first rest inductionHypothesis =>
    obtain ⟨gap, gapsRest⟩ := List.forall_mem_cons.mp gaps
    have cut := body_behind_gap gap [] rest
    rwa [inductionHypothesis gapsRest] at cut

/-- A body is cut in front of blanks between tokens, and behind them. -/
theorem body_around_gaps {before after : Text} (middle : Text)
    (gapsBefore : ∀ character ∈ before, isGap character = true)
    (gapsAfter : ∀ character ∈ after, isGap character = true) :
    body (before ++ middle ++ after) = body middle := by
  have start : ∀ text, body (before ++ text) = body text := by
    intro text
    induction before with
    | nil => rfl
    | cons first rest inductionHypothesis =>
      obtain ⟨gap, gapsRest⟩ := List.forall_mem_cons.mp gapsBefore
      have cut := body_behind_gap gap [] (rest ++ text)
      rwa [inductionHypothesis gapsRest] at cut
  rw [List.append_assoc, start]
  cases after with
  | nil => rw [List.append_nil]
  | cons first rest =>
    obtain ⟨gap, gapsRest⟩ := List.forall_mem_cons.mp gapsAfter
    rw [body_behind_gap gap, body_gaps gapsRest, List.append_nil]

/-- Every blank of the text separates tokens. -/
def HasPlainBlanks (text : Text) : Prop :=
  ∀ character ∈ text, isBlank character = true → isGap character = true

instance : DecidablePred HasPlainBlanks := fun text => List.decidableBAll _ text

/-- Trimming removes no token. -/
theorem body_trim {text : Text} (plain : HasPlainBlanks text) :
    body (Text.trim text) = body text := by
  obtain ⟨before, after, split, blankBefore, blankAfter⟩ := Text.trim_split text
  have gaps : ∀ part : Text, part ⊆ text → part.allBlank = true →
      ∀ character ∈ part, isGap character = true := fun part within blank character inside =>
    plain character (within inside) (List.all_eq_true.mp blank character inside)
  have cut := body_around_gaps (Text.trim text)
    (gaps before (by rw [split]; simp) blankBefore) (gaps after (by rw [split]; simp) blankAfter)
  rw [← split] at cut
  exact cut.symm

end PriorArt.Token
