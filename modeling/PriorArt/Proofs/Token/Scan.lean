import PriorArt.Token

/-!
# Scanning in pieces

A scan of a text can be cut at every separator: the tokens in front of it and those behind it do
not depend on each other. So the tokens of a text that is put together from pieces, with operator
signs between them, are put together in the same way. The token that ends every scan is left out
of the pieces, which makes the cut an equation about the tokens alone.

The other result tells which texts a distance token can have. Its text is what the reader of
distances accepts, with the unit and the number that the token carries.
-/

namespace PriorArt.Token

/-- The tokens of a text without the one that ends every scan. -/
def body (text : Text) : List Token := (scan text).dropLast

/-- The tokens of a run are identifiers, distances and field suffixes. -/
theorem of_whole_run_kind {run : Text} {token : Token} (inside : token ∈ ofWholeRun run) :
    token.kind = .identifier ∨ token.kind = .distance ∨ token.kind = .field := by
  have ofRest_kind (part : Text) (inRest : token ∈ ofRest part) :
      token.kind = .identifier ∨ token.kind = .distance ∨ token.kind = .field := by
    unfold ofRest at inRest
    split at inRest
    · cases inRest
    · rw [List.mem_singleton.mp inRest]
      unfold ofRun
      split
      · split <;> simp [kind]
      · simp [kind]
  unfold ofWholeRun at inside
  split at inside
  · split at inside
    · exact ofRest_kind _ inside
    · rcases List.mem_cons.mp inside with rfl | later
      · unfold ofSlash
        split <;> simp [kind]
      · exact ofRest_kind _ later
  · exact ofRest_kind _ inside

/-- The tokens of a run are no end of a statement. -/
theorem finish_absent_run (run : Text) : finish ∉ ofWholeRun run := by
  intro inside
  simpa [kind] using of_whole_run_kind inside

/-- A sign is no end of a statement. -/
theorem finish_no_sign {character : Char} : ofSign? character ≠ some finish := by
  unfold ofSign?
  split <;> simp

/-- A scan ends with the token for the end of the statement, which stands nowhere else. -/
theorem scan_from_ends (run text : Text) :
    ∃ tokens, scanFrom run text = tokens ++ [finish] ∧ finish ∉ tokens := by
  induction text generalizing run with
  | nil => exact ⟨ofWholeRun run, rfl, finish_absent_run run⟩
  | cons character rest inductionHypothesis =>
    unfold scanFrom
    split
    · next sign signs =>
      obtain ⟨tokens, scanned, absent⟩ := inductionHypothesis []
      have noSign : finish ≠ sign := fun same => finish_no_sign (same ▸ signs)
      exact ⟨ofWholeRun run ++ sign :: tokens, by simp [scanned],
        by simp [finish_absent_run run, noSign, absent]⟩
    · split
      · obtain ⟨tokens, scanned, absent⟩ := inductionHypothesis []
        exact ⟨ofWholeRun run ++ tokens, by simp [scanned],
          by simp [finish_absent_run run, absent]⟩
      · exact inductionHypothesis (run ++ [character])

/-- A scan is its body with the ending token behind it. -/
theorem scan_eq_body (text : Text) : scan text = body text ++ [finish] := by
  obtain ⟨tokens, scanned, _⟩ := scan_from_ends [] text
  simp [body, scan, scanned]

/-- The ending token stands at the end alone. -/
theorem finish_absent_body (text : Text) : finish ∉ body text := by
  obtain ⟨tokens, scanned, absent⟩ := scan_from_ends [] text
  simpa [body, scan, scanned] using absent

/-- What stands behind the ending token is nothing. -/
theorem behind_finish {text : Text} {front back : List Token}
    (scanned : scan text = front ++ finish :: back) : back = [] := by
  rw [scan_eq_body text] at scanned
  rcases List.eq_nil_or_concat back with empty | ⟨init, last, rfl⟩
  · exact empty
  · have same : body text ++ [finish] = (front ++ finish :: init) ++ [last] := by
      simpa using scanned
    have sameBody : body text = front ++ finish :: init := List.append_inj_left' same rfl
    exact absurd (by simp [sameBody]) (finish_absent_body text)

/-- A text that begins with a separator, or nothing. Such a text cuts the run before it. -/
def StartsApart (text : Text) : Prop := ∀ character ∈ text.head?, isSeparator character = true

/-- The run in front of a text that starts apart is over, so it is scanned by itself. -/
theorem scan_from_apart (run text : Text) (apart : StartsApart text) :
    scanFrom run text = ofWholeRun run ++ scan text := by
  cases text with
  | nil => simp [scan, scanFrom, ofWholeRun, ofRest]
  | cons character rest =>
    have separates : isSeparator character = true := apart character rfl
    simp only [isSeparator, Bool.or_eq_true] at separates
    unfold scan scanFrom
    split
    · simp [ofWholeRun, ofRest]
    · next noSign =>
      have gap : isGap character = true := by simpa [noSign] using separates
      simp [gap, ofWholeRun, ofRest]

/-- A scan is cut in front of a text that starts apart: what is scanned before is scanned as if
nothing followed. -/
theorem scan_from_append (run front back : Text) (apart : StartsApart back) :
    scanFrom run (front ++ back) = (scanFrom run front).dropLast ++ scan back := by
  induction front generalizing run with
  | nil => simpa [scanFrom] using scan_from_apart run back apart
  | cons character rest inductionHypothesis =>
    obtain ⟨tokens, scanned, _⟩ := scan_from_ends [] rest
    rw [List.cons_append]
    unfold scanFrom
    split
    · next sign _ =>
      have closed : ofWholeRun run ++ sign :: (tokens ++ [finish]) =
          (ofWholeRun run ++ sign :: tokens) ++ [finish] := by simp
      rw [inductionHypothesis, scanned, closed, List.dropLast_concat, List.dropLast_concat]
      simp
    · split
      · have closed : ofWholeRun run ++ (tokens ++ [finish]) =
            (ofWholeRun run ++ tokens) ++ [finish] := by simp
        rw [inductionHypothesis, scanned, closed, List.dropLast_concat, List.dropLast_concat]
        simp
      · exact inductionHypothesis (run ++ [character])

/-- The body of two texts is that of the one and then that of the other, if the other starts
apart. -/
theorem body_append (front back : Text) (apart : StartsApart back) :
    body (front ++ back) = body front ++ body back := by
  have cut : scan (front ++ back) = body front ++ scan back :=
    scan_from_append [] front back apart
  rw [body, cut, scan_eq_body back, ← List.append_assoc, List.dropLast_concat]

/-- An operator sign in front of a text is a token of its own. -/
theorem body_sign (character : Char) (sign : Token) (signs : ofSign? character = some sign)
    (text : Text) : body (character :: text) = sign :: body text := by
  have first : scan (character :: text) = sign :: scan text := by
    simp [scan, scanFrom, signs, ofWholeRun, ofRest]
  rw [body, first, scan_eq_body text, ← List.cons_append, List.dropLast_concat]

/-- A body is cut at an operator sign. -/
theorem body_append_sign (character : Char) (sign : Token)
    (signs : ofSign? character = some sign) (front back : Text) :
    body (front ++ character :: back) = body front ++ sign :: body back := by
  have apart : StartsApart (character :: back) := by
    intro first member
    obtain rfl : character = first := by simpa using member
    simp [isSeparator, signs]
  rw [body_append front _ apart, body_sign character sign signs]

/-- The empty text has no tokens but the one that ends it. -/
@[simp] theorem body_nil : body [] = [] := rfl

/-- A text without separators is one run. -/
theorem scan_from_run (run text : Text)
    (whole : ∀ character ∈ text, isSeparator character = false) :
    scanFrom run text = ofWholeRun (run ++ text) ++ [finish] := by
  induction text generalizing run with
  | nil => simp [scanFrom]
  | cons character rest inductionHypothesis =>
    have inRun : isSeparator character = false := whole character (by simp)
    obtain ⟨noGap, noSign⟩ : isGap character = false ∧ ofSign? character = none := by
      simpa [isSeparator] using inRun
    simp only [scanFrom, noSign, noGap, Bool.false_eq_true, ↓reduceIte]
    rw [inductionHypothesis _ (fun other member => whole other (by simp [member]))]
    simp

/-- The tokens of a text without separators. -/
theorem body_run (text : Text) (whole : ∀ character ∈ text, isSeparator character = false) :
    body text = ofWholeRun text := by
  simp [body, scan, scan_from_run [] text whole]

end PriorArt.Token
