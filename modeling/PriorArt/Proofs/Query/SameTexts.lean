import PriorArt.Proofs.Query.RowTexts

/-!
# Rows with the same text

The text of a proper row tells the row. A word ends where a mark stands that belongs to no word,
brackets are matched, and a comma opens a distance except between the operands of a brace, where no
distances stand. So the text is cut in one way only, atom by atom, also where something stands behind
the row that does not continue it. Each form of an atom or row is told if its parts are told, and so,
by induction, all of them are.
-/

namespace PriorArt.Layout

open Brackets Phrase

/-- The marks at which an operand of a brace ends, or a row inside brackets. -/
def innerEnds : List Char := [')', '}', ',']

/-- The marks at which a row inside round brackets ends. A distance can go on with a comma only. -/
def outerEnds : List Char := [')', '}']

/-- Where the rows in front of two texts end: distances stand in neither, or no comma follows. -/
def EndRows (left right : Row) (back rest : Text) : Prop :=
  StopsAt innerEnds back ∧ StopsAt innerEnds rest ∧
    ((left.distances = 0 ∧ right.distances = 0) ∨ (StopsAt outerEnds back ∧ StopsAt outerEnds rest))

/-- A suffix in front of what ends an atom. -/
theorem ends_suffix (marked : Bool) {back : Text} (stops : StopsAt closingMarks back) :
    EndsOpen (suffix marked ++ back) := by
  cases marked with
  | true => exact .field .text stops
  | false => exact .stop stops

/-- Whether an atom is in the text field is seen from what stands behind it. -/
theorem suffix_inj {marked other : Bool} {back rest : Text} (stops : StopsAt closingMarks back)
    (stopsOther : StopsAt closingMarks rest)
    (same : suffix marked ++ back = suffix other ++ rest) : marked = other ∧ back = rest := by
  have noSlash : ∀ {text behind : Text}, StopsAt closingMarks text → text ≠ '/' :: behind := by
    rintro text behind stops rfl
    exact absurd (stops '/' rfl) (by decide)
  cases marked with
  | true =>
    cases other with
    | true => exact ⟨rfl, List.append_cancel_left same⟩
    | false => exact absurd same.symm (noSlash stopsOther)
  | false =>
    cases other with
    | true => exact absurd same (noSlash stops)
    | false => exact ⟨rfl, same⟩

/-- A separator stops the atom in front of it. -/
theorem stops_separator (separator : Separator) (back : Text) :
    StopsAt closingMarks (separator.text ++ back) := by
  cases separator <;> exact stops_at_cons (by decide) _

/-- No separator stands where a row ends: a comma could end it, but not where distances stand. -/
theorem separator_not_end {atom : Atom} {separator : Separator} {others : Row} {back rest : Text}
    (stops : StopsAt innerEnds rest)
    (apart : (Row.more atom separator others).distances = 0 ∨ StopsAt outerEnds rest) :
    rest ≠ separator.text ++ back := by
  rintro rfl
  cases separator with
  | plus => exact absurd (stops '+' rfl) (by decide)
  | star => exact absurd (stops '*' rfl) (by decide)
  | near distance =>
    rcases apart with none | outer
    · cases none
    · exact absurd (outer ',' rfl) (by decide)

/-- The separator in front of a text is seen from the text. -/
theorem separator_inj {left right : Separator} {back rest : Text}
    (same : left.text ++ back = right.text ++ rest) : left = right ∧ back = rest := by
  cases left with
  | plus =>
    cases right with
    | plus => exact ⟨rfl, List.append_cancel_left same⟩
    | star => exact absurd same (by simp [Separator.text])
    | near distance => exact absurd same (by simp [Separator.text])
  | star =>
    cases right with
    | plus => exact absurd same (by simp [Separator.text])
    | star => exact ⟨rfl, List.append_cancel_left same⟩
    | near distance => exact absurd same (by simp [Separator.text])
  | near distance =>
    cases right with
    | plus => exact absurd same (by simp [Separator.text])
    | star => exact absurd same (by simp [Separator.text])
    | near other =>
      have behind : distance.text ++ ',' :: back = other.text ++ ',' :: rest := by
        simpa [Separator.text] using same
      have read := distance_append distance (',' :: back)
      rw [behind, distance_append] at read
      obtain ⟨rfl, sameBack⟩ := Prod.mk.inj (Option.some.inj read)
      exact ⟨rfl, (List.cons.inj sameBack).2.symm⟩

/-- A plain word does not begin with a bracket. -/
theorem word_opens {word : Text} (plain : IsPlain word) {opener : Char} {back rest : Text}
    (opens : isTermChar opener = false) : word ++ back ≠ opener :: rest := by
  obtain ⟨⟨first, others, rfl, termChar⟩, _⟩ := term_chars plain.term
  intro same
  rw [← (List.cons.inj same).1, termChar] at opens
  cases opens

/-- The text of an atom tells it among the proper atoms, also with something behind it that ends an
atom. -/
def Atom.IsTold (left : Atom) : Prop :=
  ∀ {right : Atom} {back rest : Text}, left.IsProper → right.IsProper →
    StopsAt closingMarks back → StopsAt closingMarks rest →
      left.text ++ back = right.text ++ rest → left = right ∧ back = rest

/-- The text of a row tells it among the proper rows, also with something behind it that ends a
row. -/
def Row.IsTold (left : Row) : Prop :=
  ∀ {right : Row} {back rest : Text}, left.IsProper → right.IsProper →
    EndRows left right back rest →
      left.text ++ back = right.text ++ rest → left = right ∧ back = rest

/-- A word is told by its characters, up to the field or the end. -/
theorem word_told (text : Text) (marked : Bool) : (Atom.word text marked).IsTold := by
  intro right back rest proper properRight stops stopsRight same
  have sameWord : text ++ (suffix marked ++ back) = right.text ++ rest := by
    simpa [Atom.text] using same
  cases right with
  | word other otherMarked =>
    have behind : other ++ (suffix otherMarked ++ rest) = text ++ (suffix marked ++ back) := by
      simpa [Atom.text] using sameWord.symm
    have read := term_append proper.term (ends_suffix marked stops)
    rw [← behind, term_append properRight.term (ends_suffix otherMarked stopsRight)] at read
    obtain ⟨rfl, sameBack⟩ := Prod.mk.inj (Option.some.inj read)
    obtain ⟨rfl, rfl⟩ := suffix_inj stopsRight stops sameBack
    exact ⟨rfl, rfl⟩
  | group inner otherMarked =>
    exact absurd sameWord (word_opens proper (by decide))
  | brace first second third count otherMarked =>
    exact absurd sameWord (word_opens proper (by decide))

/-- A group is told by its brackets, if the row in it is told. -/
theorem group_told {inner : Row} (told : inner.IsTold) (marked : Bool) :
    (Atom.group inner marked).IsTold := by
  intro right back rest proper properRight stops stopsRight same
  cases right with
  | word other otherMarked =>
    have sameWord : other ++ (suffix otherMarked ++ rest) =
        '(' :: (inner.text ++ ')' :: (suffix marked ++ back)) := by
      simpa [Atom.text, parenthesized] using same.symm
    exact absurd sameWord (word_opens properRight (by decide))
  | group other otherMarked =>
    have behind : inner.text ++ ')' :: (suffix marked ++ back) =
        other.text ++ ')' :: (suffix otherMarked ++ rest) := by
      simpa [Atom.text, parenthesized] using same
    have ends : EndRows inner other (')' :: (suffix marked ++ back))
        (')' :: (suffix otherMarked ++ rest)) :=
      ⟨stops_at_cons (by decide) _, stops_at_cons (by decide) _,
        .inr ⟨stops_at_cons (by decide) _, stops_at_cons (by decide) _⟩⟩
    obtain ⟨rfl, sameBack⟩ := told proper properRight ends behind
    obtain ⟨rfl, rfl⟩ := suffix_inj stops stopsRight (List.cons.inj sameBack).2
    exact ⟨rfl, rfl⟩
  | brace first second third count otherMarked => cases (List.cons.inj same).1

/-- An operand of a brace is told by the mark behind it, if the row is told: no distance stands in
it that a comma could open. -/
theorem Row.IsTold.operand {row other : Row} (told : row.IsTold)
    (proper : row.IsProper ∧ row.distances = 0) (properOther : other.IsProper ∧ other.distances = 0)
    {sign : Char} (isEnd : sign ∈ innerEnds) {back rest : Text}
    (same : row.text ++ sign :: back = other.text ++ sign :: rest) : row = other ∧ back = rest := by
  obtain ⟨sameRow, sameBack⟩ := told proper.1 properOther.1
    ⟨stops_at_cons isEnd _, stops_at_cons isEnd _, .inl ⟨proper.2, properOther.2⟩⟩ same
  exact ⟨sameRow, (List.cons.inj sameBack).2⟩

/-- A brace is told by its marks and its distance, if the rows in it are told. -/
theorem brace_told {first second third : Row} (toldFirst : first.IsTold)
    (toldSecond : second.IsTold) (toldThird : third.IsTold) (count : Nat) (marked : Bool) :
    (Atom.brace first second third count marked).IsTold := by
  intro right back rest proper properRight stops stopsRight same
  cases right with
  | word other otherMarked =>
    have sameWord : other ++ (suffix otherMarked ++ rest) =
        Expr.bracedText first.text second.text third.text count ++ (suffix marked ++ back) := by
      simpa [Atom.text] using same.symm
    exact absurd sameWord (word_opens properRight (by decide))
  | group other otherMarked => cases (List.cons.inj same).1
  | brace first' second' third' count' otherMarked =>
    obtain ⟨properFirst, properSecond, properThird⟩ := proper
    obtain ⟨properFirst', properSecond', properThird'⟩ := properRight
    rw [Atom.text, Atom.text, List.append_assoc, List.append_assoc, braced_append,
      braced_append] at same
    obtain ⟨rfl, behindFirst⟩ :=
      toldFirst.operand properFirst properFirst' (by decide) (List.cons.inj same).2
    obtain ⟨rfl, behindSecond⟩ :=
      toldSecond.operand properSecond properSecond' (by decide) behindFirst
    obtain ⟨rfl, behindThird⟩ :=
      toldThird.operand properThird properThird' (by decide) behindSecond
    have read := distance_append ⟨.words, count⟩ (suffix marked ++ back)
    rw [(List.cons.inj behindThird).2, distance_append] at read
    obtain ⟨sameDistance, sameBack⟩ := Prod.mk.inj (Option.some.inj read)
    obtain ⟨rfl, rfl⟩ := suffix_inj stopsRight stops sameBack
    obtain rfl := congrArg Distance.count sameDistance
    exact ⟨rfl, rfl⟩

/-- What ends a row ends the atom in front of it. -/
theorem closes_of_inner {text : Text} (stops : StopsAt innerEnds text) :
    StopsAt closingMarks text := stops.mono (by decide)

/-- A row of one atom is told by it. -/
theorem last_told {atom : Atom} (told : atom.IsTold) : (Row.last atom).IsTold := by
  rintro right back rest proper properRight ⟨stops, stopsRight, apart⟩ same
  cases right with
  | last other =>
    obtain ⟨rfl, rfl⟩ := told proper properRight (closes_of_inner stops)
      (closes_of_inner stopsRight) same
    exact ⟨rfl, rfl⟩
  | more other separator others =>
    rw [Row.text, Row.text, List.append_assoc, List.append_assoc] at same
    obtain ⟨rfl, sameBack⟩ := told proper properRight.1 (closes_of_inner stops)
      (stops_separator separator _) same
    exact absurd sameBack (separator_not_end stops (apart.imp And.right And.left))

/-- A longer row is told by its first atom, the separator behind it and the row behind that. -/
theorem more_told {atom : Atom} (told : atom.IsTold) (separator : Separator) {others : Row}
    (toldOthers : others.IsTold) : (Row.more atom separator others).IsTold := by
  rintro right back rest proper properRight ⟨stops, stopsRight, apart⟩ same
  cases right with
  | last other =>
    rw [Row.text, Row.text, List.append_assoc, List.append_assoc] at same
    obtain ⟨rfl, sameBack⟩ := told proper.1 properRight (stops_separator separator _)
      (closes_of_inner stopsRight) same
    exact absurd sameBack.symm (separator_not_end stopsRight (apart.imp And.left And.right))
  | more other separator' others' =>
    rw [Row.text, Row.text, List.append_assoc, List.append_assoc, List.append_assoc,
      List.append_assoc] at same
    obtain ⟨rfl, sameBack⟩ := told proper.1 properRight.1 (stops_separator separator _)
      (stops_separator separator' _) same
    obtain ⟨rfl, sameRest⟩ := separator_inj sameBack
    have apartRest : (others.distances = 0 ∧ others'.distances = 0) ∨
        (StopsAt outerEnds back ∧ StopsAt outerEnds rest) := by
      refine apart.imp_left (fun both => ?_)
      cases separator with
      | plus => exact both
      | star => exact both
      | near distance => cases both.1
    obtain ⟨rfl, rfl⟩ :=
      toldOthers proper.2 properRight.2 ⟨stops, stopsRight, apartRest⟩ sameRest
    exact ⟨rfl, rfl⟩

mutual

/-- The text of a proper atom tells the atom. -/
theorem Atom.told (atom : Atom) : atom.IsTold := by
  cases atom with
  | word text marked => exact word_told text marked
  | group inner marked => exact group_told (Row.told inner) marked
  | brace first second third count marked =>
    exact brace_told (Row.told first) (Row.told second) (Row.told third) count marked

/-- The text of a proper row tells the row. -/
theorem Row.told (row : Row) : row.IsTold := by
  cases row with
  | last atom => exact last_told (Atom.told atom)
  | more atom separator others => exact more_told (Atom.told atom) separator (Row.told others)

end

/-- Proper rows with the same text are the same. -/
theorem Row.eq_of_text {left right : Row} (proper : left.IsProper) (properRight : right.IsProper)
    (same : left.text = right.text) : left = right := by
  have nothing : ∀ marks, StopsAt marks [] := fun marks first inside => by cases inside
  exact (left.told proper properRight
    ⟨nothing _, nothing _, .inr ⟨nothing _, nothing _⟩⟩ (congrArg (· ++ []) same)).1

end PriorArt.Layout
