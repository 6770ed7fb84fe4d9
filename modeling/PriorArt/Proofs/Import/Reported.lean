import PriorArt.Proofs.Import.CleanFailures
import PriorArt.Proofs.Import.TypedRoots

/-!
# What an import reports of what it stores

A report lists the entities of the factors that did not fail. A factor can fail behind the words that
it has stored already: for want of room for its next word, or for its expression. Such words are left
behind without being listed, unless another factor that did not fail asks for them. Everything else
that an import stores is listed, each id once.

The words that a factor stores are told by the keys of its operands, and each of them is found under
its key from then on. So what is left behind can be told from the report and the query.
-/

namespace PriorArt

open Action Catalogue

namespace Import

/-- The key of the word for an operand, if the operand is a union of plain words. -/
def operandKeys (operand : Expr) : List Text :=
  if operand.isPlainUnion then [Text.key operand.text] else []

/-- The keys of the words for a factor. -/
def wordKeys : Factor → List Text
  | .codes _ => []
  | .words expr => (importedOperands expr).flatMap operandKeys

/-- A word that is found under its key, which is one of some keys. -/
def IsWordUnder (keys : List Text) (catalogue : Catalogue) (entity : Entity) : Prop :=
  ∃ word, entity = .word word ∧ word.key ∈ keys ∧ catalogue.wordOfKey? word.key = some word

/-- A word that is found under one of some keys is found under one of more keys. -/
theorem IsWordUnder.mono {keys more : List Text} {catalogue : Catalogue} {entity : Entity}
    (under : IsWordUnder keys catalogue entity) (inside : ∀ key ∈ keys, key ∈ more) :
    IsWordUnder more catalogue entity := by
  obtain ⟨word, isWord, ofKeys, found⟩ := under
  exact ⟨word, isWord, inside _ ofKeys, found⟩

/-- A word that is found under its key is found there when the catalogue has grown. -/
theorem IsWordUnder.grown {keys : List Text} {before after : Catalogue} {entity : Entity}
    (under : IsWordUnder keys before entity) (grows : before.GrowsTo after) :
    IsWordUnder keys after entity := by
  obtain ⟨word, isWord, ofKeys, found⟩ := under
  exact ⟨word, isWord, ofKeys, (grows.keys _ (.inl (by simp [found]))).trans found⟩

/-- A step that can be repeated and stores nothing but words under some keys, where they are found
afterwards. -/
structure AddsWords {α : Type} (keys : List Text) (step : Action α) : Prop
    extends Repeats step where
  added : ∀ {before : Workspace}, before.catalogue.IsIndexed →
    ∀ entity ∈ (runOn step before).2.catalogue.entities, entity ∉ before.catalogue.entities →
      IsWordUnder keys (runOn step before).2.catalogue entity

namespace AddsWords

variable {α β : Type} {keys more : List Text}

/-- Giving a value stores nothing. -/
theorem pure (value : α) : AddsWords [] (pure value : Action α) where
  toRepeats := repeats_pure value
  added _ _ stored new := absurd stored new

/-- A step of which more keys are allowed. -/
theorem mono {step : Action α} (adds : AddsWords keys step) (inside : ∀ key ∈ keys, key ∈ more) :
    AddsWords more step where
  toRepeats := adds.toRepeats
  added indexed entity stored new := (adds.added indexed entity stored new).mono inside

/-- Two steps store words under the keys of both. -/
theorem bind {step : Action α} {next : α → Action β} (first : AddsWords keys step)
    (second : ∀ value, AddsWords more (next value)) : AddsWords (keys ++ more) (step >>= next) where
  toRepeats := first.toRepeats.bind (fun value => (second value).toRepeats)
  added := by
    intro before indexed entity stored new
    have ofFirst := first.added indexed entity
    have indexedMiddle := first.indexed before indexed
    rw [run_on_bind] at stored ⊢
    rcases run : runOn step before with ⟨outcome, middle⟩
    rw [run] at ofFirst indexedMiddle stored
    cases outcome with
    | error failure => exact (ofFirst stored new).mono (fun _ => List.mem_append_left _)
    | ok value =>
      by_cases early : entity ∈ middle.catalogue.entities
      · exact ((ofFirst early new).grown ((second value).grows indexedMiddle)).mono
          (fun _ => List.mem_append_left _)
      · exact ((second value).added indexedMiddle entity stored early).mono
          (fun _ => List.mem_append_right _)

end AddsWords

/-- The search for the word under a key stores a word under this key at most. -/
theorem adds_word_for_key (key : Text) (variants : List Text) (label : Text) :
    AddsWords [key] (wordForKey key variants label) where
  toRepeats := repeats_word_for_key key variants label
  added := by
    intro before indexed entity stored new
    rcases run : runOn (wordForKey key variants label) before with ⟨outcome, after⟩
    rw [run] at stored
    have ofRun := word_run variants label before key run
    cases outcome with
    | error failure =>
      have kept : after.catalogue.entities = before.catalogue.entities := by
        cases ofRun <;> rfl
      exact absurd (kept ▸ stored) new
    | ok word =>
      have found := (ofRun.stored indexed).2
      cases ofRun with
      | found filled _ => exact absurd stored new
      | new filled absent room tokens free tokenFilled same =>
        have sameKey : word.key = key := by rw [same]; rfl
        rw [store_entities] at stored
        rcases mem_replaceIn stored with rfl | earlier
        · exact ⟨word, rfl, by simp [sameKey], by rw [sameKey]; exact found⟩
        · exact absurd earlier new

/-- The import of an operand stores the word for it at most. -/
theorem adds_import_operand (expand : Bool) (expr : Expr) :
    AddsWords (operandKeys expr) (importOperand expand expr) := by
  unfold importOperand operandKeys
  split
  · exact (adds_word_for_key _ _ _).bind (fun word => .pure _)
  · exact .pure _

/-- The import of the expression for a factor stores the words for its operands at most. -/
theorem adds_import_root (expand : Bool) (expr : Expr) :
    AddsWords (wordKeys (.words expr)) (importRoot expand expr) := by
  have single (tree : Expr) (alone : importedOperands tree = [tree]) :
      AddsWords (wordKeys (.words tree)) (importOperand expand tree) :=
    (adds_import_operand expand tree).mono (by simp [wordKeys, alone])
  cases expr with
  | word text => exact single (.word text) rfl
  | reference id => exact single (.reference id) rfl
  | logical connective first others => exact single (.logical connective first others) rfl
  | proximity distance left right =>
    have both := (adds_import_operand expand left).bind (fun imported =>
      (adds_import_operand expand right).bind (fun other =>
        .pure (Expr.proximity distance imported.1 other.1, imported.2 ++ other.2)))
    exact both.mono (by simp [wordKeys, importedOperands])
  | simultaneous count first second third =>
    have all := (adds_import_operand expand first).bind (fun imported =>
      (adds_import_operand expand second).bind (fun other =>
        (adds_import_operand expand third).bind (fun last =>
          .pure (Expr.simultaneous count imported.1 other.1 last.1,
            imported.2 ++ other.2 ++ last.2))))
    exact all.mono (by simp [wordKeys, importedOperands])

variable {expand : Bool} {before after : Workspace} {factor : Factor} {factors : List Factor}
  {outcome : Except Failure (List Entity)} {outcomes : List (Except Failure (List Entity))}

/-- Storing an expression under its label adds this expression at most. -/
theorem added_expression {label : Text} {root : Expr} {expression : ExpressionEntity}
    (run : ExpressionRun label root before (.ok expression) after) {entity : Entity}
    (stored : entity ∈ after.catalogue.entities) (new : entity ∉ before.catalogue.entities) :
    entity = .expression expression := by
  cases run with
  | redefined labelled =>
    rw [store_entities] at stored
    exact (mem_replaceIn stored).resolve_right new
  | new absent room =>
    rw [store_entities] at stored
    exact (mem_replaceIn stored).resolve_right new

/-- What the import of a factor stores is given for the factor, or it is a word for the factor that
is found under its key. -/
theorem FactorRun.added (run : FactorRun expand before factor outcome after)
    (plain : factor.IsPlain) (indexed : before.catalogue.IsIndexed) :
    ∀ entity ∈ after.catalogue.entities, entity ∉ before.catalogue.entities →
      entity ∈ entitiesOf outcome ∨ IsWordUnder (wordKeys factor) after.catalogue entity := by
  intro entity stored new
  cases run with
  | @codes span group after ofSpan =>
    cases span_run span before ofSpan with
    | found _ => exact absurd stored new
    | new absent room tokens free tokenFilled same =>
      rw [store_entities] at stored
      rcases mem_replaceIn stored with rfl | earlier
      · exact .inl List.mem_cons_self
      · exact absurd earlier new
  | @codesFailed span failure after ofSpan =>
    have kept : after.catalogue.entities = before.catalogue.entities := by
      cases span_run span before ofSpan <;> rfl
    exact absurd (kept ▸ stored) new
  | @wordFailed expr failure after ofRoot =>
    have adds := (adds_import_root expand expr).added indexed entity
    rw [ofRoot] at adds
    exact .inr (adds stored new)
  | @full expr root words middle ofRoot absent full =>
    have adds := (adds_import_root expand expr).added indexed entity
    rw [ofRoot] at adds
    exact .inr (adds stored new)
  | @stored expr root words middle after expression ofRoot define =>
    have adds := (adds_import_root expand expr).added indexed entity
    rw [ofRoot] at adds
    obtain ⟨indexedMiddle, _⟩ := (adds_import_root expand expr).run_grows indexed ofRoot
    obtain ⟨_, growsAfter⟩ := define.grows indexedMiddle
    by_cases early : entity ∈ middle.catalogue.entities
    · exact .inr ((adds early new).grown growsAfter)
    · rw [added_expression define stored early]
      exact .inl (List.mem_append_right _ List.mem_cons_self)

/-- What an import stores is given for a factor, or it is a word for a factor that is found under its
key when the import is over. -/
theorem Imports.added (imports : Imports expand factors before outcomes after)
    (plain : ∀ factor ∈ factors, factor.IsPlain) (indexed : before.catalogue.IsIndexed) :
    ∀ entity ∈ after.catalogue.entities, entity ∉ before.catalogue.entities →
      entity ∈ outcomes.flatMap entitiesOf ∨
        IsWordUnder (factors.flatMap wordKeys) after.catalogue entity := by
  intro entity stored new
  induction imports with
  | nil before => exact absurd stored new
  | @cons factor rest before middle after outcome outcomes first goesOn others
      inductionHypothesis =>
    obtain ⟨plainFirst, plainOthers⟩ := List.forall_mem_cons.mp plain
    have run := factor_run first
    obtain ⟨indexedMiddle, _⟩ := run.grows plainFirst indexed
    obtain ⟨_, grows⟩ := others.grows plainOthers indexedMiddle
    rw [List.flatMap_cons, List.flatMap_cons]
    by_cases early : entity ∈ middle.catalogue.entities
    · rcases run.added plainFirst indexed entity early new with given | under
      · exact .inl (List.mem_append_left _ given)
      · exact .inr ((under.grown grows).mono (fun _ => List.mem_append_left _))
    · rcases inductionHypothesis plainOthers indexedMiddle stored early with given | under
      · exact .inl (List.mem_append_right _ given)
      · exact .inr (under.mono (fun _ => List.mem_append_right _))

/-- Items that are counted are related as those that they are related with. -/
theorem related_at {α β : Type} {relation : α → β → Prop} {lefts : List α} {rights : List β}
    (related : List.Forall₂ relation lefts rights) {left : α} {first number : Nat}
    (inside : (left, number) ∈ lefts.zipIdx first) :
    ∃ right, (right, number) ∈ rights.zipIdx first ∧ relation left right := by
  induction related generalizing first with
  | nil => cases inside
  | @cons item right lefts rights one others inductionHypothesis =>
    rw [List.zipIdx_cons] at inside ⊢
    rcases List.mem_cons.mp inside with same | later
    · obtain ⟨rfl, rfl⟩ := Prod.mk.inj same
      exact ⟨right, List.mem_cons_self, one⟩
    · obtain ⟨other, ofOther, relates⟩ := inductionHypothesis later
      exact ⟨other, List.mem_cons_of_mem _ ofOther, relates⟩

/-- A word to which an import refers has the key of an operand. -/
theorem key_of_imported {catalogue : Catalogue} (indexed : catalogue.IsIndexed) {expr : Expr}
    {word : WordEntity} (inside : .word word ∈ catalogue.importedWords expr) :
    word.key ∈ wordKeys (.words expr) := by
  obtain ⟨operand, isOperand, ofOperand⟩ := List.mem_flatMap.mp inside
  have imported : catalogue.importedWord? operand = some word := by simpa using ofOperand
  unfold importedWord? at imported
  split at imported
  · next plain =>
    refine List.mem_flatMap.mpr ⟨operand, isOperand, ?_⟩
    rw [operandKeys, if_pos plain, (indexed.key_of_word imported).2]
    exact List.mem_cons_self
  · cases imported

/-- An import refers to the word that is found under the key of an operand. -/
theorem imported_of_key {catalogue : Catalogue} {expr : Expr} {word : WordEntity}
    (found : catalogue.wordOfKey? word.key = some word)
    (ofKeys : word.key ∈ wordKeys (.words expr)) :
    .word word ∈ catalogue.importedWords expr := by
  obtain ⟨operand, isOperand, ofOperand⟩ := List.mem_flatMap.mp ofKeys
  unfold operandKeys at ofOperand
  split at ofOperand
  · next plain =>
    have imported : catalogue.importedWord? operand = some word := by
      rw [importedWord?, if_pos plain, ← List.mem_singleton.mp ofOperand, found]
    exact List.mem_flatMap.mpr ⟨operand, isOperand, by simp [imported]⟩
  · cases ofOperand

/-- A report lists no id twice when an entity is recorded. -/
theorem nodup_record {report : ImportReport} (once : (report.entities.map Entity.id).Nodup)
    (entity : Entity) : ((report.record entity).entities.map Entity.id).Nodup := by
  unfold ImportReport.record
  split
  · exact once
  · next unknown =>
    rw [List.map_append, List.nodup_append]
    refine ⟨once, List.nodup_singleton _, ?_⟩
    rintro id listed other isOther rfl
    obtain ⟨recorded, inside, sameId⟩ := List.mem_map.mp listed
    obtain rfl := List.mem_singleton.mp isOther
    exact unknown (List.any_eq_true.mpr ⟨recorded, inside, by simpa using sameId⟩)

/-- A report lists no id twice when outcomes are added. -/
theorem nodup_add {report : ImportReport} (once : (report.entities.map Entity.id).Nodup)
    (outcomes : List (Except Failure (List Entity) × Nat)) :
    ((outcomes.foldl ImportReport.add report).entities.map Entity.id).Nodup := by
  induction outcomes generalizing report with
  | nil => exact once
  | cons numbered rest inductionHypothesis =>
    refine inductionHypothesis ?_
    obtain ⟨outcome, number⟩ := numbered
    cases outcome with
    | error failure => exact once
    | ok entities =>
      rw [ImportReport.add]
      induction entities generalizing report with
      | nil => exact once
      | cons entity others innerHypothesis => exact innerHypothesis (nodup_record once entity)

/-- A stored word that an import leaves behind: some factor asks for it, but only factors that failed
do. -/
def IsLeftBehind (factors : List Factor) (report : ImportReport) (entity : Entity) : Prop :=
  ∃ word, entity = .word word ∧
    (∃ factor ∈ factors, word.key ∈ wordKeys factor) ∧
    ∀ factor number, (factor, number) ∈ factors.zipIdx 1 → word.key ∈ wordKeys factor →
      report.failed number = true

section Listed

variable {query : Text} {report : ImportReport}
  (imports : Imports expand factors before outcomes after)
  (plain : ∀ factor ∈ factors, factor.IsPlain) (indexed : before.catalogue.IsIndexed)
  (reported : report = (outcomes.zipIdx 1).foldl ImportReport.add .empty)
include imports plain indexed reported

/-- A stored word that is listed is asked for by a factor that did not fail. -/
theorem Imports.asked_for {word : WordEntity}
    (stored : after.catalogue.find? word.id = some (.word word))
    (listed : ∃ listed ∈ report.entities, listed.id = word.id) :
    ∃ factor number, (factor, number) ∈ factors.zipIdx 1 ∧ word.key ∈ wordKeys factor ∧
      report.failed number = false := by
  obtain ⟨indexedAfter, _⟩ := imports.grows plain indexed
  have lists : report.Lists (outcomes.flatMap entitiesOf) := reported ▸ lists_report outcomes 1
  obtain ⟨entity, inside, sameId⟩ := listed
  obtain ⟨outcome, taken, given⟩ := List.mem_flatMap.mp (lists.given entity inside)
  rw [← List.zipIdx_map_fst 1 outcomes] at taken
  obtain ⟨⟨other, number⟩, counted, same⟩ := List.mem_map.mp taken
  obtain rfl : other = outcome := same
  obtain ⟨factor, ofFactor, imported⟩ := related_at
    (List.Forall₂.flip (R := flip (IsImportedAs after.catalogue))
      (imports.imported_as plain indexed)) counted
  have found : after.catalogue.find? entity.id = some (.word word) := sameId ▸ stored
  refine ⟨factor, number, ofFactor, ?_, ?_⟩
  · cases imported with
    | failed factor failure => cases given
    | codes isGroup =>
      rw [List.mem_singleton.mp given] at found
      cases (group_of_codes indexedAfter.distinct isGroup).1.symm.trans found
    | words has isStored =>
      rcases List.mem_append.mp given with isWord | isExpression
      · obtain ⟨operand, _, ofOperand⟩ := List.mem_flatMap.mp isWord
        obtain ⟨other, ofImport, rfl⟩ := by simpa using ofOperand
        obtain rfl : other = word :=
          Entity.word.inj (Option.some.inj ((indexedAfter.find_imported ofImport).symm.trans found))
        exact key_of_imported indexedAfter isWord
      · rw [List.mem_singleton.mp isExpression] at found
        obtain ⟨later, foundLater, _⟩ := isStored.find indexedAfter.distinct
        cases foundLater.symm.trans found
  · rw [← Bool.not_eq_true, reported, failed_in_report]
    rintro ⟨failure, noted⟩
    have one := (List.mk_mem_zipIdx_iff_le_and_getElem?_sub.mp counted).2
    have two := (List.mk_mem_zipIdx_iff_le_and_getElem?_sub.mp noted).2
    rw [Option.some.inj (one.symm.trans two)] at given
    cases given

/-- What an import stores is listed unless it is left behind. -/
theorem Imports.listed_iff {entity : Entity} (stored : entity ∈ after.catalogue.entities)
    (new : entity ∉ before.catalogue.entities) :
    (∃ listed ∈ report.entities, listed.id = entity.id) ↔
      ¬ IsLeftBehind factors report entity := by
  obtain ⟨indexedAfter, _⟩ := imports.grows plain indexed
  have lists : report.Lists (outcomes.flatMap entitiesOf) := reported ▸ lists_report outcomes 1
  constructor
  · rintro listed ⟨word, rfl, _, allFailed⟩
    obtain ⟨factor, number, taken, ofKeys, succeeded⟩ :=
      imports.asked_for plain indexed reported (indexedAfter.distinct.find stored) listed
    simp [allFailed factor number taken ofKeys] at succeeded
  · intro notBehind
    rcases imports.added plain indexed entity stored new with
      given | ⟨word, rfl, ofFactors, found⟩
    · exact lists.each entity given
    · obtain ⟨factor, number, taken, ofKeys, succeeded⟩ : ∃ factor number,
          (factor, number) ∈ factors.zipIdx 1 ∧ word.key ∈ wordKeys factor ∧
            report.failed number ≠ true := by
        by_contra none
        refine notBehind ⟨word, rfl, List.mem_flatMap.mp ofFactors, ?_⟩
        intro factor number taken ofKeys
        by_contra succeeded
        exact none ⟨factor, number, taken, ofKeys, succeeded⟩
      obtain ⟨outcome, counted, imported⟩ :=
        related_at (imports.imported_as plain indexed) taken
      apply lists.each
      refine List.mem_flatMap.mpr ⟨outcome, List.fst_mem_of_mem_zipIdx counted, ?_⟩
      cases imported with
      | failed factor failure =>
        refine absurd ?_ succeeded
        rw [reported, failed_in_report]
        exact ⟨failure, counted⟩
      | codes isGroup => cases ofKeys
      | words has isStored => exact List.mem_append_left _ (imported_of_key found ofKeys)

end Listed

/-- What an import reports of what it stores. After any requests on an empty catalogue, let an import
of a text give a report. The report lists no id twice, and every id that it lists is in use. Of the
entities that the import stored, new ones and such that took the place of others, it lists all but the
words that were left behind: those for which only factors asked that failed. -/
theorem report_lists_stored (requests : List Request) (limit : Int) (tokens : TokenSource)
    (expand : Bool) (query : Text) {report : ImportReport} {after : Workspace}
    (run : runOn (importQuery expand query)
      (afterRequests requests ⟨Catalogue.empty limit, tokens⟩) = (.ok report, after)) :
    (report.entities.map Entity.id).Nodup ∧
    (∀ listed ∈ report.entities, after.catalogue.find? listed.id ≠ none) ∧
    ∃ factors, Query.parse query = .ok factors ∧
      ∀ entity ∈ after.catalogue.entities,
        entity ∉ (afterRequests requests ⟨Catalogue.empty limit, tokens⟩).catalogue.entities →
        ((∃ listed ∈ report.entities, listed.id = entity.id) ↔
          ¬ IsLeftBehind factors report entity) := by
  have indexed := indexed_after_requests requests limit tokens
  cases accepted : Query.parse query with
  | error error =>
    rw [importQuery, accepted] at run
    cases run
  | ok factors =>
    have plain := Query.plain_factors accepted
    obtain ⟨outcomes, imports, reported⟩ := imports_of_report accepted run
    obtain ⟨indexedAfter, _⟩ := imports.grows plain indexed
    refine ⟨?_, ?_, factors, rfl, fun entity stored new =>
      imports.listed_iff plain indexed reported stored new⟩
    · rw [reported]
      have once : (ImportReport.empty.entities.map Entity.id).Nodup := List.nodup_nil
      exact nodup_add once _
    · intro entity listed
      have lists : report.Lists (outcomes.flatMap entitiesOf) := reported ▸ lists_report outcomes 1
      obtain ⟨factor, _, given⟩ := given_for_factor (imports.imported_as plain indexed)
        indexedAfter (lists.given entity listed)
      obtain ⟨found, isFound, _⟩ := given.find_kind indexedAfter.distinct
      simp [isFound]

/-- A nearness of two words. -/
def nearWords : Text := ['[', 'A', ',', '5', 'n', ',', 'B', '/', 'T', 'X', ']']

/-- The word that is stored for the first operand of the nearness. -/
def nearWord : WordEntity :=
  ⟨['W', 'B', '-', '0', '0', '0', '1'], ['A'], ['k', '2', 'H', 'f', 'z'], ['(', 'A', ')'], ['A'],
    [['A']]⟩

/-- Where there is room for one word, the first word of a nearness is left behind: it is stored, and
the report lists nothing. -/
theorem report_lists_stored_but_left_behind : ∃ report after factors,
    runOn (importQuery false nearWords) ⟨.empty 1, .standard (congruential 1)⟩ = (.ok report, after) ∧
      Query.parse nearWords = .ok factors ∧ report.entities = [] ∧
      .word nearWord ∈ after.catalogue.entities ∧ IsLeftBehind factors report (.word nearWord) := by
  have lists : (runOn (importQuery false nearWords)
      ⟨.empty 1, .standard (congruential 1)⟩).1.toOption.map ImportReport.entities = some [] := by
    decide +kernel
  have stores : .word nearWord ∈ (runOn (importQuery false nearWords)
      ⟨.empty 1, .standard (congruential 1)⟩).2.catalogue.entities := by
    decide +kernel
  obtain ⟨report, given, listed⟩ := Option.map_eq_some_iff.mp lists
  have run := run_of_value given
  obtain ⟨_, _, factors, accepted, reports⟩ :=
    report_lists_stored [] 1 (.standard (congruential 1)) false nearWords run
  refine ⟨report, _, factors, run, accepted, listed, stores, ?_⟩
  by_contra notBehind
  obtain ⟨entity, inside, _⟩ := (reports _ stores nofun).mpr notBehind
  rw [listed] at inside
  cases inside

end Import

end PriorArt
