import PriorArt.Proofs.Statement.Parsed
import PriorArt.Proofs.Workbook.Numbering

/-!
# References of stored expressions

A stored expression refers to groups of codes and to nothing else. A reference is stored while its
group is, but the group may go later: a line that defines a word or an expression takes its name
from the group that bears it, and the references to the group stay behind. This is the only way in
which a stored expression comes to refer to nothing.

The condition is about the history of a workbook, so it is proved along runs: every line leaves an
id in use unless it takes the name of its entity, and an id that is out of use stays so.
-/

namespace PriorArt

/-- The references of an expression whose names were resolved are to groups that are stored, or are
those of stored expressions. -/
theorem Catalogue.mem_references_link {catalogue : Catalogue} {expr : Expr}
    (noReference : expr.references = []) {id : Text}
    (refers : id ∈ (catalogue.link expr).references) :
    (∃ group, .classification group ∈ catalogue.entities ∧ group.id = id) ∨
      ∃ entity root, .expression entity ∈ catalogue.entities ∧ entity.root = some root ∧
        id ∈ root.references := by
  rw [link, Expr.references_replaceWords _ noReference] at refers
  obtain ⟨text, _, inside⟩ := List.mem_flatMap.mp refers
  unfold linkWord at inside
  split at inside
  · next group found =>
    obtain ⟨entity, followed, isGroup⟩ := Option.bind_eq_some_iff.mp found
    refine .inl ⟨group, ?_, (by simpa using inside : id = group.id).symm⟩
    cases entity with
    | word entity => cases isGroup
    | classification entity => exact Option.some.inj isGroup ▸ mem_of_follow followed
    | expression entity => cases isGroup
  · split at inside
    · next root rooted =>
      obtain ⟨entity, stored, ofEntity⟩ := root_of_label rooted
      exact .inr ⟨entity, root, stored, ofEntity, inside⟩
    · simp at inside

namespace Workbook

variable {line : Text} {before after : Catalogue} {outcome : Except Failure Achievement}

/-- Every reference of a stored expression has a property. -/
def RefersOnlyTo (property : Text → Prop) (catalogue : Catalogue) : Prop :=
  ∀ entity root, .expression entity ∈ catalogue.entities → entity.root = some root →
    ∀ id ∈ root.references, property id

/-- What the references before a line have, and the ids of groups before the line, the references
after the line have. -/
theorem LineEffect.refers_only_to {property : Text → Prop}
    (effect : LineEffect line before outcome after)
    (groups : ∀ group, .classification group ∈ before.entities → property group.id)
    (refers : RefersOnlyTo property before) : RefersOnlyTo property after := by
  intro entity root stored rooted id inside
  rcases effect.mem_roots stored rooted with earlier | ⟨name, defines⟩
  · exact refers entity root earlier rooted id inside
  · obtain ⟨statement, read, _, rfl⟩ := linked_of_expression defines
    rcases Catalogue.mem_references_link (Statement.references_nil read) inside with
      ⟨group, isStored, rfl⟩ | ⟨other, otherRoot, isStored, otherRooted, otherInside⟩
    · exact groups group isStored
    · exact refers other otherRoot isStored otherRooted id otherInside

/-- Every reference is to an id of a group of codes. -/
def RefersToGroups (catalogue : Catalogue) : Prop :=
  RefersOnlyTo (catalogue.HasIssued .classification) catalogue

/-- Every line keeps the references among the ids of groups. -/
theorem LineEffect.refers_to_groups (effect : LineEffect line before outcome after)
    (numbered : before.IsNumbered) (refers : RefersToGroups before) : RefersToGroups after := by
  have grown := effect.counters_le numbered .classification
  refine effect.refers_only_to ?_ ?_
  · intro group stored
    exact (numbered _ stored).mono grown
  · intro entity root stored rooted id inside
    exact (refers entity root stored rooted id inside).mono grown

/-- A line of a workbook has a property, in the state in which it is processed. -/
def SomeLine (property : Text → Catalogue → Prop) (lines : List Text) (start : Workspace) : Prop :=
  ∃ earlier line later, lines = earlier ++ line :: later ∧
    property line (afterLines earlier start).catalogue

/-- The last line has a property or one of the lines before it. -/
theorem some_line_snoc (property : Text → Catalogue → Prop) (lines : List Text) (line : Text)
    (start : Workspace) :
    SomeLine property (lines ++ [line]) start ↔
      SomeLine property lines start ∨ property line (afterLines lines start).catalogue := by
  constructor
  · rintro ⟨earlier, middle, later, split, holds⟩
    rcases List.eq_nil_or_concat later with rfl | ⟨front, last, rfl⟩
    · obtain ⟨rfl, same⟩ := List.append_inj' split rfl
      exact .inr (List.singleton_inj.mp same ▸ holds)
    · rw [List.concat_eq_append, ← List.cons_append, ← List.append_assoc] at split
      exact .inl ⟨earlier, middle, front, (List.append_inj' split rfl).1, holds⟩
  · rintro (⟨earlier, middle, later, rfl, holds⟩ | holds)
    · exact ⟨earlier, middle, later ++ [line], by simp, holds⟩
    · exact ⟨lines, line, [], rfl, holds⟩

/-- At some time of a workbook an entity had the id. -/
def WasStored (id : Text) (lines : List Text) (start : Workspace) : Prop :=
  ∃ earlier later, lines = earlier ++ later ∧
    (afterLines earlier start).catalogue.find? id ≠ none

/-- What was stored at some time was so after a further line as well. -/
theorem WasStored.snoc {id : Text} {lines : List Text} {start : Workspace}
    (stored : WasStored id lines start) (line : Text) : WasStored id (lines ++ [line]) start := by
  obtain ⟨earlier, later, rfl, found⟩ := stored
  exact ⟨earlier, later ++ [line], by simp, found⟩

/-- After a further line an id was in use at some time if it was before or is now. -/
theorem was_stored_snoc_iff (id : Text) (lines : List Text) (line : Text) (start : Workspace) :
    WasStored id (lines ++ [line]) start ↔
      WasStored id lines start ∨
        (afterLines (lines ++ [line]) start).catalogue.find? id ≠ none := by
  constructor
  · rintro ⟨earlier, later, split, found⟩
    rcases List.eq_nil_or_concat later with rfl | ⟨front, last, rfl⟩
    · rw [List.append_nil] at split
      exact .inr (split ▸ found)
    · rw [List.concat_eq_append, ← List.append_assoc] at split
      exact .inl ⟨earlier, front, (List.append_inj' split rfl).1, found⟩
  · rintro (stored | found)
    · exact stored.snoc line
    · exact ⟨lines ++ [line], [], by simp, found⟩

/-- A name is only taken from an entity that is stored. -/
theorem TakesName.found {id : Text} (takes : TakesName line before id) :
    before.find? id ≠ none := by
  obtain ⟨_, _, _, _, _, _, entity, found, rfl⟩ := takes
  exact Catalogue.find_of_stored (Catalogue.of_label_some found).1

/-- If an id was in use at some time, it is no longer exactly if some line took the name of its
entity. The induction is on the lines. An id that some line took was in use before that line, so
its kind is known, and the last line changes its use as every line does. -/
theorem gone_iff_name_taken {lines : List Text} {start : Workspace}
    (numbered : start.catalogue.IsNumbered) {id : Text} (stored : WasStored id lines start) :
    (∃ kind, (afterLines lines start).catalogue.HasIssued kind id) ∧
      ((afterLines lines start).catalogue.find? id = none ↔
        SomeLine (fun line before => TakesName line before id) lines start) := by
  have issuedOf : ∀ lines : List Text, (afterLines lines start).catalogue.find? id ≠ none →
      ∃ kind, (afterLines lines start).catalogue.HasIssued kind id := by
    intro lines found
    have numberedLines : (afterLines lines start).catalogue.IsNumbered :=
      invariant_after_lines _ _ (fun _ _ _ _ _ effect => effect.numbered) numbered
    obtain ⟨entity, foundEntity⟩ := Option.ne_none_iff_exists'.mp found
    refine ⟨entity.kind, ?_⟩
    rw [← Catalogue.id_of_find foundEntity]
    exact numberedLines entity (List.mem_of_find?_eq_some foundEntity)
  induction lines using List.reverseRecOn with
  | nil =>
    obtain ⟨earlier, later, split, found⟩ := stored
    obtain ⟨rfl, rfl⟩ := List.append_eq_nil_iff.mp split.symm
    refine ⟨issuedOf [] found, ?_⟩
    constructor
    · exact fun gone => absurd gone found
    · rintro ⟨earlier, line, later, impossible, _⟩
      simp at impossible
  | append_singleton earlier line inductionHypothesis =>
    have numberedEarlier : (afterLines earlier start).catalogue.IsNumbered :=
      invariant_after_lines _ _ (fun _ _ _ _ _ effect => effect.numbered) numbered
    have effect := line_effect line (afterLines earlier start)
    rw [← after_lines_snoc] at effect
    rw [some_line_snoc]
    by_cases storedEarlier : WasStored id earlier start
    · obtain ⟨⟨kind, issued⟩, gone⟩ := inductionHypothesis storedEarlier
      refine ⟨⟨kind, issued.mono (effect.counters_le numberedEarlier kind)⟩, ?_⟩
      rw [effect.find_none_iff numberedEarlier issued, gone]
    · have found := ((was_stored_snoc_iff ..).mp stored).resolve_left storedEarlier
      refine ⟨issuedOf _ found, ?_⟩
      constructor
      · exact fun gone => absurd gone found
      · rintro (⟨before, taking, after, rfl, takes⟩ | takes)
        · exact absurd ⟨before, taking :: after, rfl, takes.found⟩ storedEarlier
        · exact absurd ⟨earlier, [], by simp, takes.found⟩ storedEarlier

/-- After any lines from the empty catalogue every reference is to an id that was in use at some
time. -/
theorem references_were_stored (lines : List Text) (limit : Int) (tokens : TokenSource) :
    RefersOnlyTo (fun id => WasStored id lines ⟨Catalogue.empty limit, tokens⟩)
      (afterLines lines ⟨Catalogue.empty limit, tokens⟩).catalogue := by
  generalize started : (⟨Catalogue.empty limit, tokens⟩ : Workspace) = start
  induction lines using List.reverseRecOn with
  | nil =>
    intro entity root stored
    rw [← started] at stored
    cases stored
  | append_singleton earlier line inductionHypothesis =>
    rw [after_lines_snoc]
    refine (line_effect line (afterLines earlier start)).refers_only_to ?_ ?_
    · intro group stored
      exact ⟨earlier, [line], rfl, Catalogue.find_of_stored stored⟩
    · intro entity root stored rooted id inside
      exact (inductionHypothesis entity root stored rooted id inside).snoc line

/-- A line defines a word or an expression by the name that a group of codes with an id bears. -/
def TakesGroupName (line : Text) (before : Catalogue) (id : Text) : Prop :=
  ∃ statement name group, Statement.parse line = .ok statement ∧ statement.name = some name ∧
    statement.field ≠ some .primaryClass ∧ statement.field ≠ some .furtherClass ∧
    before.ofLabel? name .classification = some group ∧ group.id = id

/-- The name of a group is taken exactly by a line that defines a word or an expression by it. -/
theorem takes_name_iff_takes_group_name (numbered : before.IsNumbered) {id : Text}
    {catalogue : Catalogue} (issued : catalogue.HasIssued .classification id) :
    TakesName line before id ↔ TakesGroupName line before id := by
  constructor
  · rintro ⟨definition, name, defines, named, kind, different, group, found, rfl⟩
    obtain ⟨stored, ofKind, _⟩ := Catalogue.of_label_some found
    obtain rfl : kind = .classification :=
      ofKind ▸ (numbered group stored).kind_unique issued
    obtain ⟨statement, ofStatement, read, statementNamed, notPrimary, notFurther, rfl⟩ :=
      (defines_name_iff definition).mp ⟨defines, Ne.symm different⟩
    obtain rfl : ofStatement = name := Option.some.inj ((Definition.of_name_name ..).symm.trans named)
    exact ⟨statement, ofStatement, group, read, statementNamed, notPrimary, notFurther, found, rfl⟩
  · rintro ⟨statement, name, group, read, named, notPrimary, notFurther, found, same⟩
    obtain ⟨defines, other⟩ := (defines_name_iff (.ofName before name (before.link statement.expr))).mpr
      ⟨statement, name, read, named, notPrimary, notFurther, rfl⟩
    exact ⟨_, name, defines, Definition.of_name_name .., .classification, Ne.symm other, group,
      found, same⟩

/-- After any lines from the empty catalogue the references are to ids of groups. -/
theorem refers_to_groups_after_lines (lines : List Text) (limit : Int) (tokens : TokenSource) :
    RefersToGroups (afterLines lines ⟨Catalogue.empty limit, tokens⟩).catalogue := by
  have initial : (⟨Catalogue.empty limit, tokens⟩ : Workspace).catalogue.IsNumbered ∧
      RefersToGroups (⟨Catalogue.empty limit, tokens⟩ : Workspace).catalogue :=
    ⟨numbered_after_lines [] limit tokens, nofun⟩
  have both := invariant_after_lines
    (fun catalogue => catalogue.IsNumbered ∧ RefersToGroups catalogue) lines ?_ initial
  · exact both.2
  · rintro line - before outcome after effect ⟨numbered, refers⟩
    exact ⟨effect.numbered numbered, effect.refers_to_groups numbered refers⟩

/-- After any lines from the empty catalogue a reference in a stored expression is to a group of
codes or to nothing, and it is to nothing exactly if some line defined a word or an expression by
the name that the group bore then. -/
theorem reference_dangles_iff (limit : Int) (tokens : TokenSource) (lines : List Text)
    (entity : ExpressionEntity) (root : Expr) (id : Text)
    (stored : .expression entity ∈
      (afterLines lines ⟨Catalogue.empty limit, tokens⟩).catalogue.entities)
    (rooted : entity.root = some root) (refers : id ∈ root.references) :
    (∀ referred, (afterLines lines ⟨Catalogue.empty limit, tokens⟩).catalogue.find? id =
        some referred → referred.kind = .classification) ∧
      ((afterLines lines ⟨Catalogue.empty limit, tokens⟩).catalogue.find? id = none ↔
        ∃ earlier line later, lines = earlier ++ line :: later ∧
          TakesGroupName line
            (afterLines earlier ⟨Catalogue.empty limit, tokens⟩).catalogue id) := by
  have numbered := fun lines => numbered_after_lines lines limit tokens
  have issued := refers_to_groups_after_lines lines limit tokens entity root stored rooted id refers
  have wasStored := references_were_stored lines limit tokens entity root stored rooted id refers
  have initial : (⟨Catalogue.empty limit, tokens⟩ : Workspace).catalogue.IsNumbered := numbered []
  refine ⟨fun referred found => (numbered lines).kind_of_find issued found, ?_⟩
  rw [(gone_iff_name_taken initial wasStored).2]
  constructor
  · rintro ⟨earlier, line, later, split, takes⟩
    exact ⟨earlier, line, later, split,
      (takes_name_iff_takes_group_name (numbered earlier) issued).mp takes⟩
  · rintro ⟨earlier, line, later, split, takes⟩
    exact ⟨earlier, line, later, split,
      (takes_name_iff_takes_group_name (numbered earlier) issued).mpr takes⟩

/-- Lines that define a group `F`, an expression `E` that refers to it, and then a word `F`. -/
def renamingLines : List Text :=
  [['F', ' ', '=', ' ', 'A', ' ', '/', 'C', 'P'], ['E', ' ', '=', ' ', 'F', '*', 'X'],
    ['F', ' ', '=', ' ', 'Z']]

/-- The workspace after the lines. -/
def renamed : Workspace :=
  afterLines renamingLines ⟨Catalogue.empty 5, TokenSource.standard (congruential 1)⟩

/-- The id of the group. -/
def renamedId : Text := ['C', 'B', '-', '0', '0', '0', '1']

/-- The expression `E`. -/
def referring : Expr := .logical .and (.reference renamedId) [.word ['X']]

/-- The expression `E` stays stored with its reference after the group is gone, since the line that
defines the word took the name of the group; and only the other word is searched. -/
theorem reference_dangles_renamed :
    .expression ⟨['E', 'B', '-', '0', '0', '0', '1'], ['E'], some referring, false⟩ ∈
        renamed.catalogue.entities ∧
      renamedId ∈ referring.references ∧
      renamed.catalogue.find? renamedId = none ∧
      renamed.catalogue.query referring = ['X', '/', 'T', 'X'] ∧
      ∃ earlier line later, renamingLines = earlier ++ line :: later ∧
        TakesGroupName line (afterLines earlier
          ⟨Catalogue.empty 5, TokenSource.standard (congruential 1)⟩).catalogue renamedId := by
  have stored : .expression ⟨['E', 'B', '-', '0', '0', '0', '1'], ['E'], some referring, false⟩ ∈
      renamed.catalogue.entities := by decide +kernel
  have refers : renamedId ∈ referring.references := by decide +kernel
  have gone : renamed.catalogue.find? renamedId = none := by decide +kernel
  have dangles := reference_dangles_iff 5 (TokenSource.standard (congruential 1)) renamingLines _
    referring renamedId stored rfl refers
  exact ⟨stored, refers, gone, by decide +kernel, dangles.2.mp gone⟩

end Workbook

end PriorArt
