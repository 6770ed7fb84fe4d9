import PriorArt.Proofs.Token.Signs

/-!
# Cuts at separators

What a character means depends on its neighbours: a slash opens a field suffix only at the front of a
run, and a number is a distance only where the run ends behind its unit. All of these neighbours are in
the same run. So a text can be cut at a separator, in front of it or behind it, and the two parts have the
tokens that they have in the whole.

Blanks beside an operator sign stand between two separators, or at a cut. They make no difference.
-/

namespace PriorArt.Token

/-- A text that ends with a separator, or nothing. Such a text leaves no run open. -/
def EndsApart (text : Text) : Prop := ∀ character ∈ text.getLast?, isSeparator character = true

/-- No run goes on from the one text into the other: one of them is empty, the first ends with a
separator, or the second begins with one. -/
def IsCut (front back : Text) : Prop :=
  front = [] ∨ back = [] ∨ (∃ character ∈ front.getLast?, isSeparator character = true) ∨
    ∃ character ∈ back.head?, isSeparator character = true

/-- At a cut the first text ends apart, or the second starts apart. -/
theorem IsCut.apart {front back : Text} (cut : IsCut front back) :
    EndsApart front ∨ StartsApart back := by
  rcases cut with rfl | rfl | ⟨last, isLast, separates⟩ | ⟨first, isFirst, separates⟩
  · exact .inl nofun
  · exact .inr nofun
  · exact .inl (fun other isOther => Option.mem_unique isLast isOther ▸ separates)
  · exact .inr (fun other isOther => Option.mem_unique isFirst isOther ▸ separates)

/-- A body is cut behind a separator. -/
theorem body_behind_separator {character : Char} (separates : isSeparator character = true)
    (front back : Text) :
    body (front ++ character :: back) = body (front ++ [character]) ++ body back := by
  cases signs : ofSign? character with
  | some sign =>
    rw [body_append_sign character sign signs, body_append_sign character sign signs, body_nil,
      List.append_assoc, List.singleton_append]
  | none =>
    have gap : isGap character = true := by simpa [isSeparator, signs] using separates
    rw [body_behind_gap gap, body_behind_gap gap, body_nil, List.append_nil]

/-- A body is cut behind a text that ends apart. -/
theorem body_append_ended {front : Text} (apart : EndsApart front) (back : Text) :
    body (front ++ back) = body front ++ body back := by
  rcases List.eq_nil_or_concat front with rfl | ⟨initial, last, rfl⟩
  · rfl
  · have separates : isSeparator last = true := apart last (by simp)
    rw [List.concat_eq_append, List.append_assoc, List.singleton_append,
      body_behind_separator separates]

/-- A body is cut at every cut. -/
theorem body_cut {front back : Text} (cut : IsCut front back) :
    body (front ++ back) = body front ++ body back :=
  cut.apart.elim (fun ended => body_append_ended ended back) (body_append front back)

/-- Blanks around an operator sign have no tokens. -/
theorem body_sign_among_gaps {character : Char} {sign : Token} (signs : ofSign? character = some sign)
    {before after : Text} (gapsBefore : ∀ blank ∈ before, isGap blank = true)
    (gapsAfter : ∀ blank ∈ after, isGap blank = true) (front back : Text) :
    body (front ++ (before ++ character :: (after ++ back))) = body (front ++ character :: back) := by
  have inFront : body (front ++ before) = body front := by
    have apart : StartsApart before := fun first isFirst => by
      simp [isSeparator, gapsBefore first (List.mem_of_mem_head? isFirst)]
    rw [body_append front before apart, body_gaps gapsBefore, List.append_nil]
  have behind : body (after ++ back) = body back := by
    have apart : EndsApart after := fun last isLast => by
      simp [isSeparator, gapsAfter last (List.mem_of_getLast? isLast)]
    rw [body_append_ended apart, body_gaps gapsAfter, List.nil_append]
  rw [← List.append_assoc, body_append_sign character sign signs, inFront, behind,
    body_append_sign character sign signs]

/-- A scan is compositional at separators. At a cut between two texts the tokens of the whole are those
of the first text, without the one that ends its scan, and then those of the second. Blanks on either side
of an operator sign can be written or left out without a change to the tokens. -/
theorem scan_compositional :
    (∀ front back, IsCut front back →
      ∃ tokens, scan front = tokens ++ [finish] ∧ finish ∉ tokens ∧
        scan (front ++ back) = tokens ++ scan back) ∧
      ∀ (front before after back : Text) (character : Char), (ofSign? character).isSome →
        (∀ blank ∈ before, isGap blank = true) → (∀ blank ∈ after, isGap blank = true) →
        scan (front ++ (before ++ character :: (after ++ back))) =
          scan (front ++ character :: back) := by
  constructor
  · intro front back cut
    refine ⟨body front, scan_eq_body front, finish_absent_body front, ?_⟩
    rw [scan_eq_body, body_cut cut, scan_eq_body back, List.append_assoc]
  · intro front before after back character isSign gapsBefore gapsAfter
    obtain ⟨sign, signs⟩ := Option.isSome_iff_exists.mp isSign
    rw [scan_eq_body, body_sign_among_gaps signs gapsBefore gapsAfter, scan_eq_body]

/-- A slash behind a bracket opens a field suffix, and a number in front of a comma is a distance, whether
the text is cut there or not, and with a tab and a blank around the sign. -/
theorem scan_compositional_field :
    scan ['A', '/', 'B', ')', '/', 't', 'x'] =
        [.identifier ['A', '/', 'B'], .rightParenthesis] ++ scan ['/', 't', 'x'] ∧
      scan ['/', 't', 'x'] = [.field .text, .finish] ∧
      scan ['5', 'n', '\t', ',', ' ', 'C'] = scan ['5', 'n', ',', 'C'] ∧
      scan ['5', 'n', ',', 'C'] = [.distance ['5'] .words false, .comma, .identifier ['C'], .finish] := by
  obtain ⟨compositional, free⟩ := scan_compositional
  -- The tokens in front are known from the scan of the front part, where they stand before its end.
  obtain ⟨tokens, ofFront, _, whole⟩ := compositional ['A', '/', 'B', ')'] ['/', 't', 'x']
    (.inr (.inr (.inl ⟨')', rfl, rfl⟩)))
  have front : [Token.identifier ['A', '/', 'B'], .rightParenthesis] ++ [finish] = tokens ++ [finish] :=
    ofFront
  rw [← List.append_cancel_right front] at whole
  exact ⟨whole, rfl, free ['5', 'n'] ['\t'] [' '] ['C'] ',' rfl (List.all_eq_true.mp rfl)
    (List.all_eq_true.mp rfl), rfl⟩

end PriorArt.Token
