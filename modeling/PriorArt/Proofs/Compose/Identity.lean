import PriorArt.Proofs.Compose.Runs
import PriorArt.Proofs.Import.Factors
import PriorArt.Proofs.Import.CleanFailures

/-!
# Which compositions take one another's place

A composition is stored under its label, which is made of the titles of its sources with plus signs
between them. So two compositions by the same operator take the same place exactly if their joined
titles are the same text. Equal sources give equal titles. Different sources can give the same text as
well: two entities can have one title, and a title can have plus signs in it.
-/

namespace PriorArt

open Action Compose Composition

/-- The title of the stored entity with an id. -/
def Catalogue.titleOf (catalogue : Catalogue) (id : Text) : Text :=
  ((catalogue.find? id).map Entity.title).getD []

/-- What is stored keeps its title when the catalogue grows. -/
theorem Catalogue.GrowsTo.titleOf {before after : Catalogue} (grows : before.GrowsTo after)
    {id : Text} (stored : (before.find? id).isSome) : after.titleOf id = before.titleOf id := by
  obtain ⟨entity, found⟩ := Option.isSome_iff_exists.mp stored
  have kept (sameEntity : after.find? id = some entity) :
      after.titleOf id = before.titleOf id := by
    rw [Catalogue.titleOf, Catalogue.titleOf, found, sameEntity]
  cases entity with
  | word word => exact kept (grows.kept id _ found nofun)
  | classification group => exact kept (grows.kept id _ found nofun)
  | expression expression =>
    obtain ⟨later, foundLater, sameLabel⟩ := grows.relabelled id expression found
    have sameId : later.id = expression.id := (id_of_find foundLater).trans (id_of_find found).symm
    have sameTitle : (Entity.expression later).title = (Entity.expression expression).title := by
      rw [Entity.title, Entity.title, show (Entity.expression later).label = _ from sameLabel,
        show (Entity.expression later).id = _ from sameId]
      rfl
    rw [Catalogue.titleOf, Catalogue.titleOf, found, foundLater, Option.map_some,
      Option.map_some, sameTitle]

namespace Text

/-- Items are known from what they are mapped to if different items are mapped to different texts. -/
theorem eq_of_map_eq {α : Type} {text : α → Text} {front back : List α}
    (same : front.map text = back.map text)
    (apart : ∀ item ∈ front, ∀ other ∈ back, text item = text other → item = other) :
    front = back := by
  induction front generalizing back with
  | nil => exact (List.map_eq_nil_iff.mp same.symm).symm
  | cons item rest inductionHypothesis =>
    obtain ⟨other, others, rfl, sameFirst, sameRest⟩ := List.map_eq_cons_iff.mp same.symm
    rw [apart item (by simp) other (by simp) sameFirst.symm, inductionHypothesis sameRest.symm
      (fun item listed other listed' => apart item (by simp [listed]) other (by simp [listed']))]

/-- Texts without the separator in them are known from their join. -/
theorem join_injective {separator : Char} {front back : List Text} (someFront : front ≠ [])
    (someBack : back ≠ []) (apartFront : ∀ piece ∈ front, separator ∉ piece)
    (apartBack : ∀ piece ∈ back, separator ∉ piece)
    (same : join separator front = join separator back) : front = back := by
  rw [← List.splitOn_intercalate separator apartFront someFront,
    ← List.splitOn_intercalate separator apartBack someBack]
  exact congrArg (List.splitOn separator) same

end Text

namespace Composition

/-- The mark of the operator in the label of a composition. -/
def mark : Composition → String
  | single _ => "L1:"
  | union _ => "OR:"
  | intersection _ => "AND:"
  | proximity .. => "P2:"
  | simultaneous .. => "P3:"

/-- The ids of the sources of a composition, in order. -/
def sourceIds : Composition → List Text
  | single id => [id]
  | union ids | intersection ids | simultaneous ids _ => ids
  | proximity left right _ _ => [left, right]

/-- The joined titles of the sources of a composition. -/
def sourceTitles (catalogue : Catalogue) (composition : Composition) : Text :=
  Text.join '+' (composition.sourceIds.map catalogue.titleOf)

variable {catalogue : Catalogue} {composition first second : Composition} {label : Text}
  {root : Expr}

/-- Sources are stored under their ids. -/
theorem Sources.stored {ids : List Text} {sources : List Entity} {operands : List Expr}
    (stored : Sources catalogue ids sources operands) :
    ∀ id ∈ ids, (catalogue.find? id).isSome := by
  induction stored with
  | none => nofun
  | next found _ _ inductionHypothesis =>
    exact List.forall_mem_cons.mpr ⟨by simp [found], inductionHypothesis⟩

/-- Sources have the titles of their ids. -/
theorem Sources.titles {ids : List Text} {sources : List Entity} {operands : List Expr}
    (stored : Sources catalogue ids sources operands) :
    sources.map Entity.title = ids.map catalogue.titleOf := by
  induction stored with
  | none => rfl
  | next found _ _ inductionHypothesis =>
    rw [List.map_cons, List.map_cons, inductionHypothesis, Catalogue.titleOf, found]
    rfl

/-- The sources of a possible composition, with its label. -/
theorem Makes.sources (makes : Makes catalogue composition label root) :
    composition.sourceIds ≠ [] ∧ (∀ id ∈ composition.sourceIds, (catalogue.find? id).isSome) ∧
      label = composition.mark.toList ++ composition.sourceTitles catalogue := by
  have facts (mark : String) {ids : List Text} {sources : List Entity} {operand : Expr}
      {operands : List Expr} (stored : Sources catalogue ids sources (operand :: operands)) :
      ids ≠ [] ∧ (∀ id ∈ ids, (catalogue.find? id).isSome) ∧ Compose.label mark sources =
        mark.toList ++ Text.join '+' (ids.map catalogue.titleOf) := by
    refine ⟨?_, stored.stored, by rw [Compose.label, stored.titles]⟩
    rintro rfl
    cases stored
  cases makes with
  | single stored => exact facts "L1:" stored
  | union _ stored _ => exact facts "OR:" stored
  | intersection _ stored => exact facts "AND:" stored
  | proximity stored _ _ => exact facts "P2:" stored
  | simultaneous stored _ _ => exact facts "P3:" stored

end Composition

section Runs

variable {before middle after : Workspace} {label : Text} {root : Expr}
  {expression : ExpressionEntity}

/-- A composition that succeeds stores a tree that it makes under its label. -/
theorem Composition.stores {composition : Composition}
    (run : runOn composition.step before = (.ok expression, after)) :
    ∃ root, Makes before.catalogue composition expression.label root ∧
      ExpressionRun expression.label root before (.ok expression) after := by
  cases composition_run run with
  | @defined label root makes _ _ defined =>
    have stored := expression_run root before defined
    have same : expression.label = label := by rw [stored.expression_eq]; rfl
    rw [same]
    exact ⟨root, makes, stored⟩

namespace Action.ExpressionRun

/-- Of two expressions that are stored one after the other, the second takes the place of the first
exactly if it has the same label. -/
theorem same_id_iff (indexed : before.catalogue.IsIndexed)
    (run : ExpressionRun label root before (.ok expression) middle) {otherLabel : Text}
    {otherRoot : Expr} {other : ExpressionEntity}
    (next : ExpressionRun otherLabel otherRoot middle (.ok other) after) :
    other.id = expression.id ↔ otherLabel = label := by
  have labelled : middle.catalogue.idOfLabel? label .expression = some expression.id :=
    run.labelled indexed
  have found : middle.catalogue.find? expression.id = some (.expression expression) := by
    rw [run.find, if_pos rfl]
  have indexedMiddle : middle.catalogue.IsIndexed := (run.grows indexed).1
  cases next with
  | @redefined previous stored =>
    constructor
    · intro sameId
      obtain ⟨earlier, rfl, sameLabel, foundEarlier⟩ :=
        expression_of_label indexedMiddle.distinct stored
      have same : Entity.expression earlier = .expression expression :=
        Option.some.inj (foundEarlier.symm.trans ((congrArg _ sameId).trans found))
      rw [← sameLabel, Entity.expression.inj same, run.expression_eq]
      rfl
    · rintro rfl
      exact Option.some.inj (((congrArg (Option.map Entity.id) stored).symm).trans labelled)
  | new absent room =>
    constructor
    · intro sameId
      have fresh : middle.catalogue.find? (middle.catalogue.takeId .expression).1 = none :=
        Catalogue.take_id_fresh _ _
      exact absurd (found.symm.trans ((congrArg _ sameId).symm.trans fresh)) nofun
    · rintro rfl
      exact absurd (labelled.symm.trans (congrArg (Option.map Entity.id) absent)) nofun

end Action.ExpressionRun

/-- Which of two compositions takes the place of the other. After any requests on an empty
catalogue, let two compositions by the same operator succeed one after the other. Then the second one
is stored in the place of the first exactly if the joined titles of their sources are the same text,
which is so for equal sources; the first expression stays as it is otherwise. Where the titles have no
plus signs and no two sources share one, different sources give different places. -/
theorem composition_takes_place_iff (requests : List Request) (limit : Int) (tokens : TokenSource)
    {first second : Composition} (sameOperator : second.mark = first.mark)
    {expression other : ExpressionEntity} {middle after : Workspace}
    (firstRun : runOn first.step (afterRequests requests ⟨Catalogue.empty limit, tokens⟩) =
      (.ok expression, middle))
    (secondRun : runOn second.step middle = (.ok other, after)) :
    (other.id = expression.id ↔
      second.sourceTitles middle.catalogue = first.sourceTitles middle.catalogue) ∧
    (second.sourceIds = first.sourceIds → other.id = expression.id) ∧
    after.catalogue.find? expression.id =
      some (.expression (if other.id = expression.id then other else expression)) ∧
    ((∀ id ∈ first.sourceIds ++ second.sourceIds, '+' ∉ middle.catalogue.titleOf id) →
      (∀ id ∈ first.sourceIds, ∀ id' ∈ second.sourceIds,
        middle.catalogue.titleOf id = middle.catalogue.titleOf id' → id = id') →
      (other.id = expression.id ↔ second.sourceIds = first.sourceIds)) := by
  have indexed := indexed_after_requests requests limit tokens
  obtain ⟨root, makes, stored⟩ := Composition.stores firstRun
  obtain ⟨otherRoot, makesOther, storedOther⟩ := Composition.stores secondRun
  obtain ⟨someFirst, storedSources, label⟩ := makes.sources
  obtain ⟨someSecond, _, otherLabel⟩ := makesOther.sources
  have sameTitles : first.sourceTitles middle.catalogue = first.sourceTitles
      (afterRequests requests ⟨Catalogue.empty limit, tokens⟩).catalogue :=
    congrArg (Text.join '+') (List.map_congr_left
      (fun id listed => (stored.grows indexed).2.titleOf (storedSources id listed)))
  have exact : other.id = expression.id ↔
      second.sourceTitles middle.catalogue = first.sourceTitles middle.catalogue := by
    rw [stored.same_id_iff indexed storedOther, label, otherLabel, sameOperator, sameTitles,
      List.append_cancel_left_eq]
  have ofSame : second.sourceIds = first.sourceIds → other.id = expression.id := by
    intro same
    rw [exact, sourceTitles, sourceTitles, same]
  refine ⟨exact, ofSame, ?_, ?_⟩
  · rw [storedOther.find, stored.find, if_pos rfl]
    split
    · next same => rw [if_pos same.symm]
    · next different => rw [if_neg (fun same => different same.symm)]
  · intro plain apart
    refine ⟨fun sameId => ?_, ofSame⟩
    have sameTitles := Text.join_injective (by simpa using someSecond) (by simpa using someFirst)
      (by simpa using fun id listed => plain id (List.mem_append_right _ listed))
      (by simpa using fun id listed => plain id (List.mem_append_left _ listed))
      (exact.mp sameId)
    exact Text.eq_of_map_eq sameTitles
      (fun id listed other listed' same => (apart other listed' id listed same.symm).symm)

end Runs

/-- A word that a line names, a word of the same title that an import stores, and another word. -/
def namesakes : List Request :=
  [.line ['A', '=', 'X', '+', 'Y'], .importQuery false ['A', '/', 'T', 'X'], .line ['B', '=', 'Z']]

/-- The union of the word that the line names with the other word. -/
def namedUnion : Composition :=
  .union [['W', 'B', '-', '0', '0', '0', '1'], ['W', 'B', '-', '0', '0', '0', '3']]

/-- The union of the imported word with the other word. -/
def importedUnion : Composition :=
  .union [['W', 'B', '-', '0', '0', '0', '2'], ['W', 'B', '-', '0', '0', '0', '3']]

/-- The expression that is stored for the first union. -/
def unitedNamesake : ExpressionEntity :=
  ⟨['E', 'B', '-', '0', '0', '0', '2'], ['O', 'R', ':', 'A', '+', 'B'],
    some (.logical .or (.reference ['W', 'B', '-', '0', '0', '0', '1'])
      [.reference ['W', 'B', '-', '0', '0', '0', '3']]), true⟩

/-- The expression that is stored for the second union. -/
def unitedImport : ExpressionEntity :=
  { unitedNamesake with
    root := some (.logical .or (.reference ['W', 'B', '-', '0', '0', '0', '2'])
      [.reference ['W', 'B', '-', '0', '0', '0', '3']]) }

/-- The workspace in which the two unions are composed. -/
def besideNamesakes : Workspace :=
  afterRequests namesakes ⟨Catalogue.empty 5, TokenSource.standard (congruential 1)⟩

/-- The union of the imported word takes the place of the union of its namesake. -/
theorem composition_takes_place_of_namesake : ∃ middle after,
    runOn namedUnion.step besideNamesakes = (.ok unitedNamesake, middle) ∧
    runOn importedUnion.step middle = (.ok unitedImport, after) ∧
    importedUnion.sourceIds ≠ namedUnion.sourceIds ∧ unitedImport.root ≠ unitedNamesake.root ∧
    after.catalogue.find? unitedNamesake.id = some (.expression unitedImport) := by
  have given : (runOn namedUnion.step besideNamesakes).1.toOption = some unitedNamesake := by
    decide +kernel
  have givenNext : (runOn importedUnion.step (runOn namedUnion.step besideNamesakes).2).1.toOption =
      some unitedImport := by
    decide +kernel
  have firstRun := run_of_value given
  have secondRun := run_of_value givenNext
  have sameOperator : importedUnion.mark = namedUnion.mark := rfl
  have placed := (composition_takes_place_iff namesakes 5
    (TokenSource.standard (congruential 1)) sameOperator firstRun secondRun).2.2.1
  rw [if_pos (show unitedImport.id = unitedNamesake.id from rfl)] at placed
  exact ⟨_, _, firstRun, secondRun, by decide, by decide, placed⟩

end PriorArt
