import Mathlib.Data.List.TakeWhile
import PriorArt.Proofs.Token.Identifiers

/-!
# Texts with given tokens

The tokens in front of a token of a text are all the tokens of another text, which is the part of
the text before that token. Tokens that are scanned from their own texts can be written behind it,
with a blank in front of each. So a text can be cut at any token and completed by other tokens.
-/

namespace PriorArt.Token

/-- The rest of a run is one token at most. -/
theorem length_of_rest (run : Text) : (ofRest run).length ≤ 1 := by
  unfold ofRest
  split <;> simp

/-- A slash and letters are one token. -/
theorem of_slash_run {letters : Text} (some : letters ≠ [])
    (alphabetic : letters.all Char.isAlpha) : ofWholeRun ('/' :: letters) = [ofSlash letters] := by
  have kept : letters.takeWhile Char.isAlpha = letters :=
    List.takeWhile_eq_self_iff.mpr (List.all_eq_true.mp alphabetic)
  have dropped : letters.dropWhile Char.isAlpha = [] :=
    List.dropWhile_eq_nil_iff.mpr (List.all_eq_true.mp alphabetic)
  cases letters with
  | nil => exact absurd rfl some
  | cons letter others => simp [ofWholeRun, kept, dropped, ofRest]

/-- Only a slash with its letters has another token of the run behind it. -/
theorem of_whole_run_several {run : Text} (several : 2 ≤ (ofWholeRun run).length) :
    ∃ letters rest, run = '/' :: letters ++ rest ∧ letters ≠ [] ∧
      letters.all Char.isAlpha = true ∧ ofWholeRun run = ofSlash letters :: ofRest rest := by
  have few (part : Text) : ¬ 2 ≤ (ofRest part).length :=
    Nat.not_le.mpr (Nat.lt_succ_of_le (length_of_rest part))
  unfold ofWholeRun at several
  split at several
  · next rest =>
    split at several
    · exact absurd several (few _)
    · next some =>
      refine ⟨rest.takeWhile Char.isAlpha, rest.dropWhile Char.isAlpha, by simp, some,
        List.all_takeWhile, ?_⟩
      simp only [ofWholeRun]
  · exact absurd several (few _)

/-- The first tokens of a run are all the tokens of a text. -/
theorem exists_part_of_run {run : Text} (whole : IsRun run) {before after : List Token}
    (read : ofWholeRun run = before ++ after) : ∃ front, body front = before := by
  cases before with
  | nil => exact ⟨[], rfl⟩
  | cons first others =>
    cases after with
    | nil => exact ⟨run, by rw [body_run run whole, read, List.append_nil]⟩
    | cons next further =>
      have several : 2 ≤ (ofWholeRun run).length := by
        simp [read]
        omega
      obtain ⟨letters, rest, rfl, some, alphabetic, two⟩ := of_whole_run_several several
      rw [two, List.cons_append] at read
      obtain ⟨rfl, behind⟩ := List.cons.inj read
      obtain rfl : others = [] := by
        have few := length_of_rest rest
        rw [behind] at few
        simp only [List.length_append, List.length_cons] at few
        exact List.eq_nil_of_length_eq_zero (by omega)
      have runSlash : IsRun ('/' :: letters) :=
        fun character inside => whole character (List.mem_append_left _ inside)
      exact ⟨'/' :: letters, by rw [body_run _ runSlash, of_slash_run some alphabetic]⟩

/-- A body is cut at a blank, which has no token. -/
theorem body_behind_gap {character : Char} (gap : isGap character = true) (front back : Text) :
    body (front ++ character :: back) = body front ++ body back := by
  have apart : StartsApart (character :: back) := by
    intro first member
    obtain rfl : character = first := by simpa using member
    simp [isSeparator, gap]
  have noSign : ofSign? character = none := by
    simp only [isGap, Bool.or_eq_true, decide_eq_true_eq] at gap
    rcases gap with ((rfl | rfl) | rfl) | rfl <;> rfl
  have behind : scan (character :: back) = scan back := by
    simp [scan, scanFrom, noSign, gap, ofWholeRun, ofRest]
  rw [body_append front _ apart, body, body, body, behind]

/-- Tokens in front of a token are the first ones of a run, or they go on behind the run. -/
theorem split_behind_run {run : Text} (whole : IsRun run) {tokens before after : List Token}
    {token : Token} (scanned : ofWholeRun run ++ tokens = before ++ token :: after) :
    (∃ front, body front = before) ∨
      ∃ inner, before = ofWholeRun run ++ inner ∧ tokens = inner ++ token :: after := by
  rcases List.append_eq_append_iff.mp scanned with ⟨inner, sameBefore, behind⟩ |
    ⟨inner, sameRun, _⟩
  · exact .inr ⟨inner, sameBefore, behind⟩
  · exact .inl (exists_part_of_run whole sameRun)

/-- The first tokens of a scan are all the tokens of a text. -/
theorem exists_part_of_scan {run text : Text} (whole : IsRun run) {before after : List Token}
    {token : Token} (scanned : scanFrom run text = before ++ token :: after) :
    ∃ front, body front = before := by
  induction text generalizing run before with
  | nil =>
    rcases split_behind_run whole scanned with part | ⟨inner, rfl, ends⟩
    · exact part
    · cases inner with
      | nil => exact ⟨run, by rw [body_run run whole, List.append_nil]⟩
      | cons first others => simp at ends
  | cons character rest inductionHypothesis =>
    unfold scanFrom at scanned
    split at scanned
    · next sign signs =>
      rcases split_behind_run whole scanned with part | ⟨inner, rfl, behind⟩
      · exact part
      · cases inner with
        | nil => exact ⟨run, by rw [body_run run whole, List.append_nil]⟩
        | cons first others =>
          obtain ⟨rfl, behindSign⟩ := List.cons.inj behind
          obtain ⟨front, read⟩ := inductionHypothesis .nil behindSign
          exact ⟨run ++ character :: front, by
            rw [body_append_sign character sign signs, body_run run whole, read]⟩
    · next noSign =>
      split at scanned
      · next gap =>
        rcases split_behind_run whole scanned with part | ⟨inner, rfl, behindGap⟩
        · exact part
        · obtain ⟨front, read⟩ := inductionHypothesis .nil behindGap
          exact ⟨run ++ character :: front, by
            rw [body_behind_gap gap, body_run run whole, read]⟩
      · next noGap => exact inductionHypothesis (whole.snoc noSign noGap) scanned

/-- Whether the text of a token is scanned as the token. The end of a statement has no text. -/
def IsSpelled (token : Token) : Prop := token = .finish ∨ body token.text = [token]

instance : DecidablePred IsSpelled := fun _ => inferInstanceAs (Decidable (_ ∨ _))

/-- The texts of tokens, with a blank in front of each. -/
def spell (tokens : List Token) : Text := tokens.flatMap (fun token => ' ' :: token.text)

/-- Tokens that are written behind a text are scanned behind it. -/
theorem body_spell (front : Text) {tokens : List Token}
    (spelled : ∀ token ∈ tokens, IsSpelled token) (inner : .finish ∉ tokens) :
    body (front ++ spell tokens) = body front ++ tokens := by
  induction tokens generalizing front with
  | nil => simp [spell]
  | cons token others inductionHypothesis =>
    obtain ⟨ofToken, ofOthers⟩ := List.forall_mem_cons.mp spelled
    simp only [List.mem_cons, not_or] at inner
    have alone : body token.text = [token] := ofToken.resolve_left (Ne.symm inner.1)
    have written : front ++ spell (token :: others) =
        (front ++ ' ' :: token.text) ++ spell others := by simp [spell]
    rw [written, inductionHypothesis _ ofOthers inner.2, body_behind_gap rfl, alone]
    simp

end PriorArt.Token
