import PriorArt.Proofs.Token.Scan

/-!
# Identifiers

An identifier of a line is cut from one run of the line, so no separator stands in it. The
identifier in front of an assignment is a run as a whole: where a slash is cut from a run, another
token stands between the two. So the name of a statement is one identifier by itself.
-/

namespace PriorArt.Token

/-- No character of the text separates. -/
def IsRun (text : Text) : Prop := ∀ character ∈ text, isSeparator character = false

/-- A run that is read as an identifier is the identifier. -/
theorem of_run_identifier {run text : Text} (read : ofRun run = .identifier text) : run = text := by
  unfold ofRun at read
  split at read
  · split at read
    · cases read
    · exact Token.identifier.inj read
  · exact Token.identifier.inj read

/-- An identifier of the rest of a run is the rest. -/
theorem of_rest_identifier {run text : Text} (inside : .identifier text ∈ ofRest run) :
    run = text := by
  unfold ofRest at inside
  split at inside
  · cases inside
  · exact of_run_identifier (List.mem_singleton.mp inside).symm

/-- A rest without tokens is empty. -/
theorem of_rest_nil {run : Text} (read : ofRest run = []) : run = [] := by
  unfold ofRest at read
  split at read
  · rfl
  · cases read

/-- A slash that is read as an identifier has its letters. -/
theorem of_slash_identifier {letters text : Text} (read : ofSlash letters = .identifier text) :
    '/' :: letters = text := by
  unfold ofSlash at read
  split at read
  · cases read
  · exact Token.identifier.inj read

/-- The identifiers of a run are cut from it. -/
theorem of_whole_run_identifier {run text : Text} (inside : .identifier text ∈ ofWholeRun run) :
    text.Sublist run := by
  unfold ofWholeRun at inside
  split at inside
  · next rest =>
    split at inside
    · exact of_rest_identifier inside ▸ List.Sublist.refl _
    · rcases List.mem_cons.mp inside with slash | later
      · rw [← of_slash_identifier slash.symm]
        exact (List.takeWhile_sublist _).cons_cons _
      · rw [← of_rest_identifier later]
        exact (List.dropWhile_sublist _).cons _
  · exact of_rest_identifier inside ▸ List.Sublist.refl _

/-- A run that is nothing but an identifier is the identifier. -/
theorem of_whole_run_single {run text : Text} (read : ofWholeRun run = [.identifier text]) :
    run = text := by
  have alone : ∀ part, ofRest part = [.identifier text] → part = text :=
    fun part same => of_rest_identifier (same ▸ List.mem_singleton_self _)
  unfold ofWholeRun at read
  split at read
  · next rest =>
    split at read
    · exact alone _ read
    · obtain ⟨slash, noRest⟩ := List.cons.inj read
      have whole : rest.takeWhile Char.isAlpha ++ rest.dropWhile Char.isAlpha = rest :=
        List.takeWhile_append_dropWhile
      rw [of_rest_nil noRest, List.append_nil] at whole
      rw [← of_slash_identifier slash, whole]
  · exact alone _ read

/-- An operator sign is no identifier. -/
theorem sign_not_identifier {character : Char} {text : Text} :
    ofSign? character ≠ some (.identifier text) := by
  unfold ofSign?
  split <;> simp

/-- The empty text is a run. -/
theorem IsRun.nil : IsRun [] := fun _ inside => nomatch inside

/-- A run that goes on with a character that does not separate. -/
theorem IsRun.snoc {run : Text} (whole : IsRun run) {character : Char}
    (noSign : ofSign? character = none) (noGap : ¬ isGap character = true) :
    IsRun (run ++ [character]) := by
  intro other member
  rcases List.mem_append.mp member with earlier | last
  · exact whole other earlier
  · obtain rfl := List.mem_singleton.mp last
    simp [isSeparator, noSign, noGap]

/-- No separator stands in an identifier of a scan. -/
theorem run_of_identifier {run input text : Text} (whole : IsRun run)
    (inside : .identifier text ∈ scanFrom run input) : IsRun text := by
  have cut : ∀ run, IsRun run → .identifier text ∈ ofWholeRun run → IsRun text :=
    fun run whole inRun character member =>
      whole character ((of_whole_run_identifier inRun).subset member)
  induction input generalizing run with
  | nil => exact cut run whole (by simpa [scanFrom] using inside)
  | cons character rest inductionHypothesis =>
    unfold scanFrom at inside
    split at inside
    · next sign signs =>
      have noIdentifier : Token.identifier text ≠ sign :=
        fun same => sign_not_identifier (same ▸ signs)
      simp only [List.mem_append, List.mem_cons, noIdentifier, false_or] at inside
      exact inside.elim (cut run whole) (inductionHypothesis .nil)
    · next noSign =>
      split at inside
      · exact (List.mem_append.mp inside).elim (cut run whole) (inductionHypothesis .nil)
      · next noGap => exact inductionHypothesis (whole.snoc noSign noGap) inside

/-- The rest of a run is no empty identifier. -/
theorem of_rest_filled {run text : Text} (inside : .identifier text ∈ ofRest run) : text ≠ [] := by
  rintro rfl
  rw [of_rest_identifier inside] at inside
  cases inside

/-- An identifier of a scan has characters. -/
theorem identifier_filled {run input text : Text}
    (inside : .identifier text ∈ scanFrom run input) : text ≠ [] := by
  have cut : ∀ run, .identifier text ∈ ofWholeRun run → text ≠ [] := by
    intro run inRun
    unfold ofWholeRun at inRun
    split at inRun
    · split at inRun
      · exact of_rest_filled inRun
      · rcases List.mem_cons.mp inRun with slash | later
        · exact of_slash_identifier slash.symm ▸ List.cons_ne_nil _ _
        · exact of_rest_filled later
    · exact of_rest_filled inRun
  induction input generalizing run with
  | nil => exact cut run (by simpa [scanFrom] using inside)
  | cons character rest inductionHypothesis =>
    unfold scanFrom at inside
    split at inside
    · next sign signs =>
      have noIdentifier : Token.identifier text ≠ sign :=
        fun same => sign_not_identifier (same ▸ signs)
      simp only [List.mem_append, List.mem_cons, noIdentifier, false_or] at inside
      exact inside.elim (cut run) inductionHypothesis
    · split at inside
      · exact (List.mem_append.mp inside).elim (cut run) inductionHypothesis
      · exact inductionHypothesis inside

/-- If an identifier and an assignment stand in front, the identifier is the run in front, or it
stands behind the run. -/
theorem identifier_in_front {run name : Text} {behind body : List Token}
    (split : ofWholeRun run ++ behind = .identifier name :: .assign :: body) :
    ofWholeRun run = [.identifier name] ∨ behind = .identifier name :: .assign :: body := by
  cases tokens : ofWholeRun run with
  | nil => exact .inr (by simpa [tokens] using split)
  | cons first others =>
    rw [tokens] at split
    obtain ⟨rfl, sameRest⟩ := List.cons.inj split
    cases others with
    | nil => exact .inl rfl
    | cons second further =>
      obtain ⟨rfl, _⟩ := List.cons.inj sameRest
      have inside : Token.assign ∈ ofWholeRun run := by simp [tokens]
      simpa [kind] using of_whole_run_kind inside

/-- The identifier in front of an assignment is one identifier by itself. -/
theorem scan_name {run input name : Text} {body : List Token} (whole : IsRun run)
    (scanned : scanFrom run input = .identifier name :: .assign :: body) :
    scan name = [.identifier name, .finish] := by
  have alone : ∀ run, IsRun run → ofWholeRun run = [.identifier name] →
      scan name = [.identifier name, .finish] := by
    intro run whole single
    obtain rfl := of_whole_run_single single
    rw [scan, scan_from_run [] run whole, List.nil_append, single]
    rfl
  induction input generalizing run with
  | nil =>
    rcases identifier_in_front scanned with single | behind
    · exact alone run whole single
    · cases behind
  | cons character rest inductionHypothesis =>
    unfold scanFrom at scanned
    split at scanned
    · next sign signs =>
      rcases identifier_in_front scanned with single | behind
      · exact alone run whole single
      · exact absurd ((List.cons.inj behind).1 ▸ signs) sign_not_identifier
    · next noSign =>
      split at scanned
      · rcases identifier_in_front scanned with single | behind
        · exact alone run whole single
        · exact inductionHypothesis .nil behind
      · next noGap => exact inductionHypothesis (whole.snoc noSign noGap) scanned

end PriorArt.Token
