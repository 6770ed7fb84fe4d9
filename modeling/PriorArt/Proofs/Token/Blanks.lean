import Mathlib.Data.List.Forall2
import PriorArt.Proofs.Token.Identifiers

/-!
# Slices of a text and the blanks around them

Every token is read from a slice of the text. The slices stand one behind another and keep each
character of the text but the blanks between them, and the tokens keep their slices; only a field
suffix is put in upper case. So a text whose one token is an identifier is this identifier with
blanks before and behind it, and the identifier by itself is scanned in the same way.
-/

namespace PriorArt.Token

/-- A text without the blanks in it. -/
def withoutGaps (text : Text) : Text := text.filter (fun character => !isGap character)

/-- A text is longer than the one without blanks by the number of its blanks. -/
theorem length_without_gaps (text : Text) :
    text.length = (withoutGaps text).length + text.countP isGap := by
  rw [Nat.add_comm, withoutGaps, ← List.countP_eq_length_filter,
    List.length_eq_countP_add_countP isGap]
  simp

/-- An operator sign keeps its character, which is no blank. -/
theorem text_of_sign {character : Char} {sign : Token} (signs : ofSign? character = some sign) :
    sign.text = [character] ∧ isGap character = false := by
  unfold ofSign? at signs
  split at signs <;> first
    | (obtain rfl := Option.some.inj signs; exact ⟨rfl, rfl⟩)
    | cases signs

/-- No operator sign is a field suffix. -/
theorem sign_not_field {character : Char} {sign : Token} (signs : ofSign? character = some sign) :
    sign.kind ≠ .field := by
  unfold ofSign? at signs
  split at signs <;> cases signs <;> simp [kind]

/-- The letter of a unit is the one that was read, as a capital if it was one. -/
theorem unit_letter {letter : Char} {unit : DistanceUnit}
    (read : DistanceUnit.ofLetter? letter = some unit) :
    (if letter.isUpper then unit.letter.toUpper else unit.letter) = letter := by
  unfold DistanceUnit.ofLetter? at read
  split at read <;> first
    | (obtain rfl := Option.some.inj read; rfl)
    | cases read

/-- A run without a field suffix keeps its characters. -/
theorem text_of_run (run : Text) : (ofRun run).text = run := by
  have whole : run.takeWhile Char.isDigit ++ run.dropWhile Char.isDigit = run :=
    List.takeWhile_append_dropWhile
  unfold ofRun
  split
  · next digit digits letter front behind =>
    split
    · next unit read => rw [Token.text, unit_letter read, ← whole, front, behind]
    · rfl
  · rfl

/-- The text of a token is the slice that it is read from, where a field suffix is put in upper
case. -/
def IsReadFrom (token : Token) (slice : Text) : Prop :=
  token.text = if token.kind = .field then slice.map Char.toUpper else slice

/-- The slices stand in the text one behind another. All else is blanks, which stand in no slice. -/
inductive IsCutInto : Text → List Text → Prop where
  | nothing : IsCutInto [] []
  | gap {character : Char} {rest : Text} {slices : List Text} (gap : isGap character = true)
      (cut : IsCutInto rest slices) : IsCutInto (character :: rest) slices
  | slice {slice rest : Text} {slices : List Text}
      (visible : ∀ character ∈ slice, isGap character = false) (cut : IsCutInto rest slices) :
      IsCutInto (slice ++ rest) (slice :: slices)

/-- Two texts are cut into the slices of the one and then those of the other. -/
theorem IsCutInto.append {front back : Text} {slices others : List Text}
    (cutFront : IsCutInto front slices) (cutBack : IsCutInto back others) :
    IsCutInto (front ++ back) (slices ++ others) := by
  induction cutFront with
  | nothing => exact cutBack
  | gap gap _ inductionHypothesis => exact .gap gap inductionHypothesis
  | slice visible _ inductionHypothesis =>
    rw [List.append_assoc]
    exact .slice visible inductionHypothesis

/-- A text without blanks is a slice. -/
theorem IsCutInto.whole {text : Text} (visible : ∀ character ∈ text, isGap character = false) :
    IsCutInto text [text] := by
  simpa using IsCutInto.slice visible .nothing

/-- The slices of a text keep all its characters but the blanks. -/
theorem IsCutInto.flatten {text : Text} {slices : List Text} (cut : IsCutInto text slices) :
    slices.flatten = withoutGaps text := by
  induction cut with
  | nothing => rfl
  | gap gap _ inductionHypothesis => simpa [withoutGaps, gap] using inductionHypothesis
  | @slice slice rest slices visible _ inductionHypothesis =>
    have kept : slice.filter (fun character => !isGap character) = slice :=
      List.filter_eq_self.mpr (fun character inside => by simp [visible character inside])
    rw [List.flatten_cons, inductionHypothesis, withoutGaps, withoutGaps, List.filter_append, kept]

/-- No blank stands in a run. -/
theorem IsRun.visible {run : Text} (whole : IsRun run) :
    ∀ character ∈ run, isGap character = false :=
  fun character inside => (Bool.or_eq_false_iff.mp (whole character inside)).1

/-- A run without a field suffix is read as it is. -/
theorem read_of_run (run : Text) : IsReadFrom (ofRun run) run := by
  have noField : (ofRun run).kind ≠ .field := by
    unfold ofRun
    split
    · split <;> simp [kind]
    · simp [kind]
  simp [IsReadFrom, noField, text_of_run]

/-- A slash and its letters are read as they are, or they are a field suffix. -/
theorem read_of_slash (letters : Text) : IsReadFrom (ofSlash letters) ('/' :: letters) := by
  unfold ofSlash
  split
  · next name named =>
    have same : name.suffix.toList = '/' :: letters.map Char.toUpper := by
      simpa using List.find?_some named
    simp [IsReadFrom, kind, text, same]
  · simp [IsReadFrom, kind, text]

/-- The tokens of the rest of a run are read from slices of it. -/
theorem exists_slices_of_rest {run : Text} (whole : IsRun run) :
    ∃ slices, IsCutInto run slices ∧ List.Forall₂ IsReadFrom (ofRest run) slices := by
  unfold ofRest
  split
  · exact ⟨[], .nothing, .nil⟩
  · exact ⟨_, .whole whole.visible, .cons (read_of_run _) .nil⟩

/-- The tokens of a run are read from slices of it. -/
theorem exists_slices_of_run {run : Text} (whole : IsRun run) :
    ∃ slices, IsCutInto run slices ∧ List.Forall₂ IsReadFrom (ofWholeRun run) slices := by
  unfold ofWholeRun
  split
  · next rest =>
    split
    · exact exists_slices_of_rest whole
    · have parts : '/' :: rest.takeWhile Char.isAlpha ++ rest.dropWhile Char.isAlpha =
          '/' :: rest := by simp
      rw [← parts] at whole ⊢
      have wholeSlash : IsRun ('/' :: rest.takeWhile Char.isAlpha) :=
        fun character inside => whole character (List.mem_append_left _ inside)
      have wholeRest : IsRun (rest.dropWhile Char.isAlpha) :=
        fun character inside => whole character (List.mem_append_right _ inside)
      obtain ⟨slices, cut, read⟩ := exists_slices_of_rest wholeRest
      exact ⟨_ :: slices, .slice wholeSlash.visible cut, .cons (read_of_slash _) read⟩
  · exact exists_slices_of_rest whole

/-- The tokens of a scan but the one that ends it are read from slices of the text. -/
theorem exists_slices_of_scan {run input : Text} (whole : IsRun run) :
    ∃ tokens slices, scanFrom run input = tokens ++ [finish] ∧ IsCutInto (run ++ input) slices ∧
      List.Forall₂ IsReadFrom tokens slices := by
  induction input generalizing run with
  | nil =>
    obtain ⟨slices, cut, read⟩ := exists_slices_of_run whole
    exact ⟨ofWholeRun run, slices, rfl, by rwa [List.append_nil], read⟩
  | cons character rest inductionHypothesis =>
    obtain ⟨runSlices, cutRun, readRun⟩ := exists_slices_of_run whole
    unfold scanFrom
    split
    · next sign signs =>
      obtain ⟨tokens, slices, scanned, cut, read⟩ := inductionHypothesis .nil
      obtain ⟨kept, noGap⟩ := text_of_sign signs
      have cutSign : IsCutInto [character] [[character]] := .whole (by simpa using noGap)
      have readSign : IsReadFrom sign [character] := by
        simpa [IsReadFrom, kept] using fun isField => absurd isField (sign_not_field signs)
      exact ⟨ofWholeRun run ++ sign :: tokens, runSlices ++ [character] :: slices,
        by simp [scanned], cutRun.append (cutSign.append cut),
        List.rel_append readRun (.cons readSign read)⟩
    · next noSign =>
      split
      · next gap =>
        obtain ⟨tokens, slices, scanned, cut, read⟩ := inductionHypothesis .nil
        exact ⟨ofWholeRun run ++ tokens, runSlices ++ slices, by simp [scanned],
          cutRun.append (.gap gap cut), List.rel_append readRun read⟩
      · next noGap =>
        simpa using inductionHypothesis (whole.snoc noSign noGap)

/-- The tokens of a text are read from slices of the text. -/
theorem exists_slices (text : Text) :
    ∃ slices, IsCutInto text slices ∧ List.Forall₂ IsReadFrom (body text) slices := by
  obtain ⟨tokens, slices, scanned, cut, read⟩ := @exists_slices_of_scan [] text .nil
  refine ⟨slices, cut, ?_⟩
  rwa [body, scan, scanned, List.dropLast_concat]

/-- Tokens without field suffixes keep the slices that they are read from. -/
theorem text_of_slices {tokens : List Token} {slices : List Text}
    (read : List.Forall₂ IsReadFrom tokens slices) (noField : ∀ name, field name ∉ tokens) :
    tokens.flatMap Token.text = slices.flatten := by
  induction read with
  | nil => rfl
  | @cons token slice tokens slices first _ inductionHypothesis =>
    simp only [List.mem_cons, not_or, forall_and] at noField
    obtain ⟨notFirst, behind⟩ := noField
    have kept : token.text = slice := by
      cases token with
      | field name => exact absurd rfl (notFirst name)
      | _ => exact first
    rw [List.flatMap_cons, List.flatten_cons, kept, inductionHypothesis behind]

/-- The tokens of a text without field suffixes keep all its characters but the blanks. -/
theorem text_of_scan {text : Text} (noField : ∀ name, field name ∉ scan text) :
    (scan text).flatMap Token.text = withoutGaps text := by
  obtain ⟨slices, cut, read⟩ := exists_slices text
  rw [scan_eq_body] at noField ⊢
  have kept := text_of_slices read
    (fun name inside => noField name (List.mem_append_left _ inside))
  rw [List.flatMap_append, kept, cut.flatten]
  simp [Token.text]

/-- An identifier that is the only token of a text is scanned in the same way by itself. -/
theorem scan_identifier {text name : Text} (scanned : scan text = [.identifier name, .finish]) :
    scan name = [.identifier name, .finish] := by
  have apart : StartsApart ['='] := by
    intro first inside
    obtain rfl : '=' = first := by simpa using inside
    rfl
  have assigned : scan (text ++ ['=']) = .identifier name :: .assign :: [finish] := by
    have cut := scan_from_append [] text ['='] apart
    rw [show scanFrom [] text = scan text from rfl, scanned] at cut
    exact cut
  exact scan_name .nil assigned

/-- A text whose one token is an identifier is the identifier with blanks around it. -/
theorem scan_of_kinds {text : Text} (kinds : (scan text).map kind = [.identifier, .finish]) :
    scan text = [.identifier (withoutGaps text), .finish] := by
  obtain ⟨first, others, scanned, named, closed⟩ := List.map_eq_cons_iff.mp kinds
  obtain ⟨last, nothing, rfl, ends, none⟩ := List.map_eq_cons_iff.mp closed
  obtain rfl := List.map_eq_nil_iff.mp none
  obtain ⟨name, rfl⟩ : ∃ name, first = .identifier name := by
    cases first <;> first | exact ⟨_, rfl⟩ | cases named
  obtain rfl : last = .finish := by
    cases last <;> first | rfl | cases ends
  have kept : (scan text).flatMap Token.text = withoutGaps text :=
    text_of_scan (fun other inside => by simp [scanned] at inside)
  rw [scanned] at kept ⊢
  obtain rfl : name = withoutGaps text := by simpa [Token.text] using kept
  rfl

end PriorArt.Token
