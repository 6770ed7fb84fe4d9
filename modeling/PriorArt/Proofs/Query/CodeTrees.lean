import PriorArt.Proofs.Expr.Leaves
import PriorArt.Proofs.Query.GroupSearch
import PriorArt.Proofs.Query.WordTrees
import PriorArt.Proofs.Text.Lists

/-!
# The parts of code trees

A code tree unites references to groups of plain codes. Its only part is the union of all the
codes, in order and with repetitions, and in the form of a query this part is searched in both
classification fields. Such a query is read as one span that has each code once.
-/

namespace PriorArt

open Brackets Expr Phrase

/-- A tree that only unites references to groups of plain codes, where no group is empty. -/
inductive IsCodeTree (catalogue : Catalogue) : Expr → Prop where
  | group {id : Text} {group : ClassEntity}
      (found : catalogue.find? id = some (.classification group)) (filled : group.codes ≠ [])
      (plain : ∀ code ∈ group.codes, IsPlain code) : IsCodeTree catalogue (.reference id)
  | union {first : Expr} {others : List Expr}
      (operands : ∀ operand ∈ first :: others, IsCodeTree catalogue operand) :
      IsCodeTree catalogue (.logical .or first others)

/-- The codes of the group with an id. -/
def Catalogue.groupCodes (catalogue : Catalogue) (id : Text) : List Text :=
  match catalogue.find? id with
  | some (.classification stored) => stored.codes
  | _ => []

/-- The codes of the groups to which a tree refers, in order. -/
def Catalogue.treeCodes (catalogue : Catalogue) (tree : Expr) : List Text :=
  tree.references.flatMap catalogue.groupCodes

/-- The codes of a union are those of its operands. -/
theorem treeCodes_union (catalogue : Catalogue) (first : Expr) (others : List Expr) :
    catalogue.treeCodes (.logical .or first others) =
      ((first :: others).map catalogue.treeCodes).flatten := by
  rw [Catalogue.treeCodes, references_logical, List.flatMap_append, List.flatMap_assoc,
    List.map_cons, List.flatten_cons, ← List.flatMap_def]
  rfl

/-- Plain codes, at least one. -/
structure ArePlain (codes : List Text) : Prop where
  filled : codes ≠ []
  plain : ∀ code ∈ codes, IsPlain code

/-- The distinct ones of plain codes are plain codes. -/
theorem ArePlain.eraseDups {codes : List Text} (plain : ArePlain codes) :
    ArePlain codes.eraseDups := by
  constructor
  · obtain ⟨code, inside⟩ := List.exists_mem_of_ne_nil codes plain.filled
    exact List.ne_nil_of_mem (List.mem_eraseDups.mpr inside)
  · intro code inside
    exact plain.plain code (List.mem_eraseDups.mp inside)

/-- The union of plain codes is tidy. -/
theorem ArePlain.tidy {codes : List Text} (plain : ArePlain codes) :
    IsTidy (Text.join '+' codes) :=
  tidy_join (by decide) (fun code inside => (plain.plain code inside).tidy)

/-- The union of plain codes has characters and no enclosing brackets. -/
theorem ArePlain.bare {codes : List Text} (plain : ArePlain codes) :
    Text.join '+' codes ≠ [] ∧ interior? (Text.join '+' codes) = none := by
  obtain ⟨filled, plain⟩ := plain
  cases codes with
  | nil => exact absurd rfl filled
  | cons code others =>
    have first := plain code (by simp)
    cases others with
    | nil =>
      rw [Text.join_single]
      exact ⟨first.filled, first.bare⟩
    | cons next rest =>
      rw [Text.join_cons (by simp)]
      exact ⟨by simp, interior_append first.tidy.nested first.filled (by simp)⟩

/-- A union of plain codes as the only part of a query. -/
def codeParts (codes : List Text) : Parts := .ofClass (parenthesized (Text.join '+' codes))

/-- The union of plain codes is not blank in round brackets. -/
theorem ArePlain.not_blank {codes : List Text} (plain : ArePlain codes) :
    (parenthesized (Text.join '+' codes)).allBlank = false := by
  have tidy := plain.tidy.enclosed (rfl : closerOf? '(' = some ')')
  exact Text.not_allBlank_of_solid tidy.solid (by simp [parenthesized])

/-- Parts of plain codes search for codes. -/
theorem codeParts_kind {codes : List Text} (plain : ArePlain codes) :
    (codeParts codes).kind = .classes := by
  simp [codeParts, Parts.ofClass, Parts.kind, plain.not_blank]

/-- The text of parts of plain codes is their union. -/
theorem codeParts_text {codes : List Text} (plain : ArePlain codes) :
    (codeParts codes).classesText = Text.join '+' codes := by
  have stripped := strip_parenthesized plain.tidy.solid.trimmed plain.tidy.nested plain.bare.2
  simp [codeParts, Parts.ofClass, Parts.classesText, plain.not_blank, stripped]

/-- The union of branches that all search for codes. -/
theorem unite_of_classes {fallback branch : Parts} {rest : List Parts}
    (kinds : ∀ part ∈ branch :: rest, part.kind = .classes) :
    Parts.unite fallback (branch :: rest) = Parts.uniteClasses (branch :: rest) := by
  simp only [Parts.unite, contains_kind kinds, branchesOf_kind kinds]
  rfl

/-- Codes of several lists, none of which is empty, are plain if all of them are. -/
theorem plain_flatten {lists : List (List Text)} (some : lists ≠ [])
    (plain : ∀ codes ∈ lists, ArePlain codes) : ArePlain lists.flatten where
  filled := by
    cases lists with
    | nil => exact absurd rfl some
    | cons codes others => simp [(plain codes (by simp)).filled]
  plain := by
    intro code inside
    obtain ⟨codes, listed, ofCodes⟩ := List.mem_flatten.mp inside
    exact (plain codes listed).plain code ofCodes

/-- The parts of every code tree are the union of its codes. -/
theorem code_tree_parts {catalogue : Catalogue} {tree : Expr}
    (codeTree : IsCodeTree catalogue tree) :
    ArePlain (catalogue.treeCodes tree) ∧
      catalogue.parts tree = codeParts (catalogue.treeCodes tree) := by
  induction codeTree with
  | @group id group found filled plain =>
    have codes : catalogue.treeCodes (.reference id) = group.codes := by
      simp [Catalogue.treeCodes, Catalogue.groupCodes, found]
    have means : catalogue.referenceParts catalogue.entities.length [] id =
        codeParts group.codes := by
      unfold Catalogue.referenceParts
      rw [found]
      simp [filled, codeParts, ClassEntity.union]
    rw [codes]
    exact ⟨⟨filled, plain⟩, means⟩
  | @union first others operands inductionHypothesis =>
    have plainLists : ∀ codes ∈ (first :: others).map catalogue.treeCodes, ArePlain codes := by
      rw [List.forall_mem_map]
      exact fun operand inside => (inductionHypothesis operand inside).1
    have branches : (first :: others).map catalogue.parts =
        ((first :: others).map catalogue.treeCodes).map codeParts := by
      rw [List.map_map]
      apply List.map_congr_left
      exact fun operand inside => (inductionHypothesis operand inside).2
    have kinds : ∀ part ∈ (first :: others).map catalogue.parts, part.kind = .classes := by
      rw [branches, List.forall_mem_map]
      exact fun codes inside => codeParts_kind (plainLists codes inside)
    have texts : ((first :: others).map catalogue.parts).map Parts.classesText =
        ((first :: others).map catalogue.treeCodes).map (Text.join '+') := by
      rw [branches, List.map_map]
      apply List.map_congr_left
      exact fun codes inside => codeParts_text (plainLists codes inside)
    refine ⟨?_, ?_⟩
    · rw [treeCodes_union]
      exact plain_flatten (by simp) plainLists
    · have filled : ∀ codes ∈ (first :: others).map catalogue.treeCodes, codes ≠ [] :=
        fun codes inside => (plainLists codes inside).filled
      rw [Catalogue.parts, partsWith, eachParts_eq, treeCodes_union, codeParts,
        ← Text.join_groups filled, ← texts]
      exact unite_of_classes kinds

/-- Plain codes that are joined by plus signs read as the union of their terms. -/
theorem reads_codes {code : Text} {others : List Text}
    (plain : ∀ member ∈ code :: others, IsPlain member) :
    ReadsUnion (Text.join '+' (code :: others)) (.term code, others.map Phrase.term) := by
  induction others generalizing code with
  | nil =>
    rw [Text.join_single]
    exact (reads_term (plain code (by simp))).atom.union
  | cons next rest inductionHypothesis =>
    have later : ReadsUnion (Text.join '+' (next :: rest)) (.term next, rest.map Phrase.term) :=
      inductionHypothesis (fun member inside => plain member (List.mem_cons_of_mem _ inside))
    rw [Text.join_cons (by simp)]
    exact later.cons (reads_term (plain code (by simp))).atom

/-- The factors of terms are their words. -/
theorem factorsOf_terms (texts : List Text) :
    factorsOf (texts.map Phrase.term) = .ok ((texts.map Expr.word).map Factor.words) := by
  induction texts with
  | nil => rfl
  | cons text others inductionHypothesis => exact factorsOf_cons rfl inductionHypothesis

/-- Words may stand in a group of codes. -/
theorem checkPlainUnions_words (texts : List Text) :
    checkPlainUnions (texts.map Expr.word) = .ok () := by
  induction texts with
  | nil => rfl
  | cons text others inductionHypothesis =>
    rw [List.map_cons, checkPlainUnions, inductionHypothesis]
    rfl

/-- The distinct codes among plain ones. -/
theorem distinctCodes_plain {codes : List Text} (plain : ∀ code ∈ codes, IsPlain code) :
    distinctCodes codes = codes.eraseDups :=
  distinctCodes_trimmed (fun code inside =>
    ⟨(plain code inside).tidy.solid.trimmed, (plain code inside).filled⟩)

/-- The codes of a union of plain codes. -/
theorem codes_join {code : Text} {others : List Text}
    (plain : ∀ member ∈ code :: others, IsPlain member) :
    (join .or (.word code) (others.map Expr.word)).codes = .ok (code :: others).eraseDups := by
  have check : checkPlainUnion (join .or (.word code) (others.map Expr.word)) = .ok () := by
    cases others with
    | nil => rfl
    | cons next rest => exact checkPlainUnions_words (next :: rest)
  have words : (join .or (.word code) (others.map Expr.word)).words = code :: others := by
    cases others with
    | nil => rfl
    | cons next rest => simp [join, List.flatMap_map]
  rw [codes, check, words, distinctCodes_plain plain, List.eraseDups_cons]
  rfl

/-- The union of a span with one of the same codes in the other field. -/
theorem span_union_same (codes : List Text) :
    CodeSpan.union ⟨codes.eraseDups, true, false⟩ ⟨codes.eraseDups, false, true⟩ =
      ⟨codes.eraseDups, true, true⟩ := by
  have nothing : codes.eraseDups.removeAll codes.eraseDups = [] := by
    simp [List.removeAll]
  have same : (codes.eraseDups ++ codes.eraseDups).eraseDups = codes.eraseDups := by
    rw [List.eraseDups_append, nothing, Text.eraseDups_eraseDups, List.eraseDups_nil, List.append_nil]
  simp [CodeSpan.union, same]

/-- A union of plain codes in one of the classification fields is a span of the codes. -/
theorem factor_field {code : Text} {others : List Text}
    (plain : ∀ member ∈ code :: others, IsPlain member) {field : Field} (codes : field ≠ .text) :
    (Phrase.fielded (.group (wholeUnion (.term code, others.map Phrase.term))) field).factor =
      .ok (.codes ⟨(code :: others).eraseDups, field = .primaryClass, field = .furtherClass⟩) := by
  have joined : (wholeUnion (.term code, others.map Phrase.term)).factor =
      .ok (.words (join .or (.word code) (others.map Expr.word))) :=
    factor_wholeUnion rfl (factorsOf_terms others)
  rw [Phrase.factor, Phrase.factor, joined, Reading.ok_bind]
  cases field with
  | text => exact absurd rfl codes
  | primaryClass => simp only [Factor.inField, codes_join plain]
  | furtherClass => simp only [Factor.inField, codes_join plain]

/-- Plain codes in the form of a query are tidy, and read as one span with each code once in both
fields. -/
theorem reads_span {codes : List Text} (plain : ArePlain codes) :
    ∃ text, renderClass? (parenthesized (Text.join '+' codes)) = some text ∧ IsTidy text ∧
      ∃ phrase, ReadsAtom text phrase ∧
        phrase.factor = .ok (.codes ⟨codes.eraseDups, true, true⟩) := by
  have stripped := strip_parenthesized plain.tidy.solid.trimmed plain.tidy.nested plain.bare.2
  have filled : (strip (parenthesized (Text.join '+' codes))).isEmpty = false := by
    rw [stripped]
    simp [plain.bare.1]
  have asQuery : renderClass (parenthesized (Text.join '+' codes)) =
      '[' :: (parenthesized (Text.join '+' codes) ++ Field.primaryClass.suffix.toList
        ++ '+' :: (parenthesized (Text.join '+' codes) ++ Field.furtherClass.suffix.toList))
        ++ [']'] := by
    rw [renderClass, stripped]
    simp
  have tidyGroup := plain.tidy.enclosed (rfl : closerOf? '(' = some ')')
  have tidy := tidy_sign (by decide : IsSign '+') (tidyGroup.fielded .primaryClass)
    (tidyGroup.fielded .furtherClass)
  refine ⟨_, by rw [renderClass?, filled]; rfl, by rw [asQuery]; exact tidy.bracketed, ?_⟩
  rw [asQuery]
  obtain ⟨filledCodes, plainCodes⟩ := plain
  cases codes with
  | nil => exact absurd rfl filledCodes
  | cons code others =>
    have group := reads_group (reads_codes plainCodes).product.inside
    have both := (group.fielded .furtherClass).union.cons (group.fielded .primaryClass)
    have primary := factor_field plainCodes (by decide : Field.primaryClass ≠ .text)
    have further := factor_field plainCodes (by decide : Field.furtherClass ≠ .text)
    have united : Factor.unite (.codes ⟨(code :: others).eraseDups, true, false⟩)
        [.codes ⟨(code :: others).eraseDups, false, true⟩] =
          .ok (.codes ⟨(code :: others).eraseDups, true, true⟩) := by
      rw [← span_union_same]
      rfl
    refine ⟨_, reads_bracket both.product.inside, ?_⟩
    have opened : (Phrase.union
        (.fielded (.group (wholeUnion (.term code, others.map Phrase.term))) .primaryClass)
        (.fielded (.group (wholeUnion (.term code, others.map Phrase.term))) .furtherClass)
        []).factor = .ok (.codes ⟨(code :: others).eraseDups, true, true⟩) := by
      rw [Phrase.factor, primary, further]
      exact united
    exact opened

end PriorArt
