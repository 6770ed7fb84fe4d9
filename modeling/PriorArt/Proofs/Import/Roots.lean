import PriorArt.Proofs.Import.Repeats
import PriorArt.Proofs.Query.WordContent
import PriorArt.Proofs.Statement.Built

/-!
# The expressions that an import stores

Where an import does not fail, it stores the expression of a factor with each union of plain words
replaced by a reference to the word under its key. This can be told from the catalogue afterwards,
and also when it has grown. What such an expression searches for does not change any more: it is a
reference to a word, a nearness, or a tree of plain words.
-/

namespace PriorArt

namespace Catalogue

/-- The word to which an import refers in the place of an expression. -/
def importedWord? (catalogue : Catalogue) (expr : Expr) : Option WordEntity :=
  if expr.isPlainUnion then catalogue.wordOfKey? (Text.key expr.text) else none

/-- An operand as an import stores it. -/
def importedOperand (catalogue : Catalogue) (expr : Expr) : Expr :=
  match catalogue.importedWord? expr with
  | some word => .reference word.id
  | none => expr

/-- The expression that an import stores for a factor. -/
def importedRoot (catalogue : Catalogue) : Expr → Expr
  | .proximity distance left right =>
    .proximity distance (catalogue.importedOperand left) (catalogue.importedOperand right)
  | .simultaneous count first second third =>
    .simultaneous count (catalogue.importedOperand first) (catalogue.importedOperand second)
      (catalogue.importedOperand third)
  | expr => catalogue.importedOperand expr

/-- The operands of a factor that an import may replace by references. -/
def importedOperands : Expr → List Expr
  | .proximity _ left right => [left, right]
  | .simultaneous _ first second third => [first, second, third]
  | expr => [expr]

/-- The words to which an import refers in the place of operands. -/
def importedWords (catalogue : Catalogue) (expr : Expr) : List Entity :=
  (importedOperands expr).flatMap (fun operand =>
    ((catalogue.importedWord? operand).map Entity.word).toList)

/-- An operand that is a union of plain words has a word under its key. -/
def HasWord (catalogue : Catalogue) (operand : Expr) : Prop :=
  operand.isPlainUnion = true → catalogue.wordOfKey? (Text.key operand.text) ≠ none

/-- A word that is found under a key is stored under its id. -/
theorem IsIndexed.find_of_key {catalogue : Catalogue} (indexed : catalogue.IsIndexed)
    {key : Text} {word : WordEntity} (stored : catalogue.wordOfKey? key = some word) :
    catalogue.find? word.id = some (.word word) := by
  obtain ⟨entity, followed, isWord⟩ := Option.bind_eq_some_iff.mp stored
  cases entity with
  | word other =>
    obtain rfl := Option.some.inj isWord
    exact indexed.distinct.find (mem_of_follow followed)
  | classification group => cases isWord
  | expression expression => cases isWord

variable {before after : Catalogue} {operand expr : Expr}

/-- A word for an operand is found when the catalogue has grown. -/
theorem HasWord.grown (has : before.HasWord operand) (grows : before.GrowsTo after) :
    after.HasWord operand ∧ after.importedWord? operand = before.importedWord? operand := by
  unfold HasWord importedWord? at *
  by_cases plain : operand.isPlainUnion = true
  · have same := grows.keys _ (.inl (has plain))
    rw [same]
    exact ⟨has, rfl⟩
  · simp [plain]

/-- An operand with a word is replaced by the same reference when the catalogue has grown. -/
theorem HasWord.operand_grown (has : before.HasWord operand) (grows : before.GrowsTo after) :
    after.importedOperand operand = before.importedOperand operand := by
  rw [importedOperand, importedOperand, (has.grown grows).2]

/-- The expression for a factor stays the same when the catalogue has grown, if its operands have
words. -/
theorem imported_root_grown (has : ∀ operand ∈ importedOperands expr, before.HasWord operand)
    (grows : before.GrowsTo after) : after.importedRoot expr = before.importedRoot expr := by
  have same : ∀ operand ∈ importedOperands expr,
      after.importedOperand operand = before.importedOperand operand :=
    fun operand inside => (has operand inside).operand_grown grows
  cases expr with
  | word text => exact same (.word text) List.mem_cons_self
  | reference id => exact same (.reference id) List.mem_cons_self
  | logical connective first others =>
    exact same (.logical connective first others) List.mem_cons_self
  | proximity distance left right =>
    simp only [importedOperands, List.forall_mem_cons] at same
    rw [importedRoot, importedRoot, same.1, same.2.1]
  | simultaneous count first second third =>
    simp only [importedOperands, List.forall_mem_cons] at same
    rw [importedRoot, importedRoot, same.1, same.2.1, same.2.2.1]

/-- A word to which an import refers is stored under its id. -/
theorem IsIndexed.find_imported (indexed : before.IsIndexed) {word : WordEntity}
    (imported : before.importedWord? operand = some word) :
    before.find? word.id = some (.word word) := by
  unfold importedWord? at imported
  split at imported
  · exact indexed.find_of_key imported
  · cases imported

/-- The expression that an import stores for a tree of plain words is built from plain words and from
references to words. -/
theorem imported_root_built (indexed : before.IsIndexed) (plainTree : IsPlainTree expr) :
    Expr.IsBuilt (fun id => ∃ word, before.find? id = some (.word word)) (before.importedRoot expr) := by
  have ofOperand : ∀ {tree : Expr}, IsPlainTree tree →
      Expr.IsBuilt (fun id => ∃ word, before.find? id = some (.word word))
        (before.importedOperand tree) := by
    intro tree plainTree
    unfold importedOperand
    split
    · next word imported => exact .reference ⟨word, indexed.find_imported imported⟩
    · exact Expr.IsBuilt.mono plainTree (fun id _ isNamed => isNamed.elim)
  cases plainTree with
  | word plain => exact ofOperand (.word plain)
  | reference isNamed => exact isNamed.elim
  | logical connective operands => exact ofOperand (.logical connective operands)
  | proximity distance ofLeft ofRight =>
    exact .proximity distance (ofOperand ofLeft) (ofOperand ofRight)
  | simultaneous count ofFirst ofSecond ofThird =>
    exact .simultaneous count (ofOperand ofFirst) (ofOperand ofSecond) (ofOperand ofThird)

/-- What an expression that an import stores searches for stays the same when the catalogue has
grown. -/
theorem content_kind_imported (indexed : before.IsIndexed) (grows : before.GrowsTo after)
    (plainTree : IsPlainTree expr) :
    after.contentKind (before.importedRoot expr) =
      before.contentKind (before.importedRoot expr) := by
  have settled : ∀ tree, (∀ meaning, (tree.partsWith meaning).kind = .words) →
      after.contentKind tree = before.contentKind tree :=
    fun tree kind => (kind after.meaning).trans (kind before.meaning).symm
  have ofOperand : ∀ tree, IsPlainTree tree → after.contentKind (before.importedOperand tree) =
      before.contentKind (before.importedOperand tree) := by
    intro tree plainTree
    unfold importedOperand
    split
    · next word stored =>
      have found := indexed.find_imported stored
      have kept := grows.kept _ _ found nofun
      simp only [contentKind, parts, Expr.partsWith, meaning]
      unfold referenceParts
      rw [found, kept]
    · exact (plainTree.kind (fun _ plain => after.kind_word_parts plain)).trans
        (plainTree.kind (fun _ plain => before.kind_word_parts plain)).symm
  cases expr with
  | word text => exact ofOperand _ plainTree
  | reference id => exact ofOperand _ plainTree
  | logical connective first others => exact ofOperand _ plainTree
  | proximity distance left right => exact settled _ (fun _ => Expr.kind_of_proximity ..)
  | simultaneous count first second third => exact settled _ (fun _ => Expr.kind_of_simultaneous ..)

end Catalogue

namespace Import

open Action

variable {expand : Bool} {before after : Workspace} {expr operand root : Expr}
  {words : List Entity}

/-- A word that was imported is stored under its key. -/
theorem import_word_ok (indexed : before.catalogue.IsIndexed) {word : WordEntity}
    (run : runOn (importWord expand expr) before = (.ok word, after)) :
    after.catalogue.wordOfKey? (Text.key expr.text) = some word := by
  unfold importWord at run
  exact ((word_run _ _ before _ run).stored indexed).2

/-- An operand that was imported is replaced by what the catalogue says, and has a word. -/
theorem import_operand_ok (indexed : before.catalogue.IsIndexed)
    (run : runOn (importOperand expand expr) before = (.ok (operand, words), after)) :
    operand = after.catalogue.importedOperand expr ∧
      words = ((after.catalogue.importedWord? expr).map Entity.word).toList ∧
      after.catalogue.HasWord expr := by
  unfold importOperand at run
  by_cases plain : expr.isPlainUnion = true
  · rw [if_pos plain] at run
    obtain ⟨found, middle, word, given⟩ := run_on_bind_success run
    obtain ⟨same, rfl⟩ := Prod.mk.inj given
    obtain ⟨rfl, rfl⟩ := Prod.mk.inj (Except.ok.inj same)
    have stored := import_word_ok indexed word
    have imported : middle.catalogue.importedWord? expr = some found := by
      rw [Catalogue.importedWord?, if_pos plain, stored]
    refine ⟨?_, ?_, fun _ => ?_⟩
    · rw [Catalogue.importedOperand, imported]
    · rw [imported]
      rfl
    · simp [stored]
  · rw [if_neg plain] at run
    obtain ⟨same, rfl⟩ := Prod.mk.inj run
    obtain ⟨rfl, rfl⟩ := Prod.mk.inj (Except.ok.inj same)
    have noWord : before.catalogue.importedWord? expr = none := by
      rw [Catalogue.importedWord?, if_neg plain]
    refine ⟨?_, ?_, fun isPlain => absurd isPlain plain⟩
    · rw [Catalogue.importedOperand, noWord]
    · rw [noWord]
      rfl

/-- What was imported for an operand, as the catalogue says after it has grown. -/
theorem import_operand_grown (indexed : before.catalogue.IsIndexed)
    (run : runOn (importOperand expand expr) before = (.ok (operand, words), after))
    {later : Catalogue} (grows : after.catalogue.GrowsTo later) :
    operand = later.importedOperand expr ∧
      words = ((later.importedWord? expr).map Entity.word).toList ∧ later.HasWord expr := by
  obtain ⟨isOperand, areWords, has⟩ := import_operand_ok indexed run
  refine ⟨?_, ?_, (has.grown grows).1⟩
  · rw [has.operand_grown grows, isOperand]
  · rw [(has.grown grows).2, areWords]

/-- The expression that was imported for a factor is the one that the catalogue says, with the words
in the place of the operands that have one. -/
theorem import_root_ok (indexed : before.catalogue.IsIndexed)
    (run : runOn (importRoot expand expr) before = (.ok (root, words), after)) :
    root = after.catalogue.importedRoot expr ∧ words = after.catalogue.importedWords expr ∧
      ∀ operand ∈ Catalogue.importedOperands expr, after.catalogue.HasWord operand := by
  have single : ∀ tree, runOn (importOperand expand tree) before = (.ok (root, words), after) →
      Catalogue.importedOperands tree = [tree] →
      root = after.catalogue.importedOperand tree ∧ words = after.catalogue.importedWords tree ∧
        ∀ operand ∈ Catalogue.importedOperands tree, after.catalogue.HasWord operand := by
    intro tree run alone
    obtain ⟨isOperand, areWords, has⟩ := import_operand_ok indexed run
    refine ⟨isOperand, ?_, by simpa [alone] using has⟩
    rw [areWords, Catalogue.importedWords, alone, List.flatMap_singleton]
  cases expr with
  | word text => exact single _ run rfl
  | reference id => exact single _ run rfl
  | logical connective first others => exact single _ run rfl
  | proximity distance left right =>
    obtain ⟨⟨left', leftWords⟩, middle, ofLeft, run⟩ := run_on_bind_success run
    obtain ⟨⟨right', rightWords⟩, last, ofRight, run⟩ := run_on_bind_success run
    obtain ⟨same, rfl⟩ := Prod.mk.inj run
    obtain ⟨rfl, rfl⟩ := Prod.mk.inj (Except.ok.inj same)
    have indexedMiddle := ((repeats_import_operand expand left).run_grows indexed ofLeft).1
    have grows := ((repeats_import_operand expand right).run_grows indexedMiddle ofRight).2
    obtain ⟨isLeft, areLeft, hasLeft⟩ := import_operand_grown indexed ofLeft grows
    obtain ⟨isRight, areRight, hasRight⟩ := import_operand_ok indexedMiddle ofRight
    refine ⟨?_, ?_, by simp [Catalogue.importedOperands, hasLeft, hasRight]⟩
    · rw [Catalogue.importedRoot, ← isLeft, ← isRight]
    · simp [Catalogue.importedWords, Catalogue.importedOperands, areLeft, areRight]
  | simultaneous count first second third =>
    obtain ⟨⟨first', firstWords⟩, middle, ofFirst, run⟩ := run_on_bind_success run
    obtain ⟨⟨second', secondWords⟩, next, ofSecond, run⟩ := run_on_bind_success run
    obtain ⟨⟨third', thirdWords⟩, last, ofThird, run⟩ := run_on_bind_success run
    obtain ⟨same, rfl⟩ := Prod.mk.inj run
    obtain ⟨rfl, rfl⟩ := Prod.mk.inj (Except.ok.inj same)
    have indexedMiddle := ((repeats_import_operand expand first).run_grows indexed ofFirst).1
    obtain ⟨indexedNext, grows⟩ :=
      (repeats_import_operand expand second).run_grows indexedMiddle ofSecond
    have growsNext := ((repeats_import_operand expand third).run_grows indexedNext ofThird).2
    obtain ⟨isFirst, areFirst, hasFirst⟩ :=
      import_operand_grown indexed ofFirst (grows.trans indexedNext.distinct growsNext)
    obtain ⟨isSecond, areSecond, hasSecond⟩ :=
      import_operand_grown indexedMiddle ofSecond growsNext
    obtain ⟨isThird, areThird, hasThird⟩ := import_operand_ok indexedNext ofThird
    refine ⟨?_, ?_, by simp [Catalogue.importedOperands, hasFirst, hasSecond, hasThird]⟩
    · rw [Catalogue.importedRoot, ← isFirst, ← isSecond, ← isThird]
    · simp [Catalogue.importedWords, Catalogue.importedOperands, areFirst, areSecond, areThird]

end Import

end PriorArt
