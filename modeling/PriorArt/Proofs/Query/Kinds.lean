import PriorArt.Proofs.Catalogue.WrittenOut
import PriorArt.Proofs.Query.WordContent

/-!
# Kinds of content, bottom-up

The kind of an expression is read off the parts of its query. It can be told without them: the kinds
of the leaves decide the kind of every operator, because whatever an operator writes, also where its
operands do not fit it and its logical form is written instead, has a character to be seen.

Only a name could be blank. An expression that is written by name is one that is being written out
already or one that searches for words and for codes, so the names of expressions must be visible.
-/

namespace PriorArt

open Brackets

/-- The kind of a text: it searches for words unless it is blank. -/
def ContentKind.ofText (text : Text) : ContentKind := if text.allBlank then .empty else .words

/-- The kind of operands that are all to be met. -/
def ContentKind.together (kinds : List ContentKind) : ContentKind :=
  match kinds.any (fun kind => kind = .words || kind = .mixed),
    kinds.any (fun kind => kind = .classes || kind = .mixed) with
  | true, true => .mixed
  | true, false => .words
  | false, true => .classes
  | false, false => .empty

/-- The kind of operands one of which is to be met: operands that search for nothing do not count, and
words stand for those that are not all of one kind. -/
def ContentKind.either (kinds : List ContentKind) : ContentKind :=
  if ∀ kind ∈ kinds, kind = .empty then .empty
  else if ∀ kind ∈ kinds, kind = .empty ∨ kind = .words then .words
  else if ∀ kind ∈ kinds, kind = .empty ∨ kind = .classes then .classes
  else .words

namespace Expr

mutual

/-- The kind of an expression whose leaves have the given kinds. -/
def kindWith (word reference : Text → ContentKind) : Expr → ContentKind
  | .word text => word text
  | .reference id => reference id
  | logical .and first others =>
    .together (kindWith word reference first :: eachKind word reference others)
  | logical .or first others =>
    .either (kindWith word reference first :: eachKind word reference others)
  | proximity .. => .words
  | simultaneous .. => .words

/-- The kind of each of several operands. -/
def eachKind (word reference : Text → ContentKind) : List Expr → List ContentKind
  | [] => []
  | expr :: exprs => kindWith word reference expr :: eachKind word reference exprs

end

end Expr

namespace Catalogue

/-- The kind of a word: it searches for itself or for the definition of the word that it is the token
of, as far as one of them is not blank. -/
def wordKind (catalogue : Catalogue) (text : Text) : ContentKind :=
  match catalogue.wordOfToken? text with
  | some entity => if text.allBlank && entity.definition.allBlank then .empty else .words
  | none => .ofText text

/-- The kind of a reference while the expressions of a stack are open. -/
def referenceKind (catalogue : Catalogue) (stack : List Text) (id : Text) : ContentKind :=
  match _found : catalogue.find? id with
  | none => .empty
  | some (.word entity) =>
    .ofText (if entity.definition.isEmpty then entity.token else entity.definition)
  | some (.classification group) => if group.codes.isEmpty then .empty else .classes
  | some (.expression entity) =>
    match entity.root with
    | none => .empty
    | some root =>
      if _isOpen : stack.contains id then .words
      else root.kindWith catalogue.wordKind (catalogue.referenceKind (id :: stack))
termination_by catalogue.unopened stack
decreasing_by exact unopened_push _found (by simpa using _isOpen)

/-- The kind of an expression, from the kinds of the words and of the entities to which it refers. -/
def kindOf (catalogue : Catalogue) (expr : Expr) : ContentKind :=
  expr.kindWith catalogue.wordKind (catalogue.referenceKind [])

end Catalogue

/-- Operands one of which is to be met, by the kinds that occur among them. -/
theorem ContentKind.either_eq (kinds : List ContentKind) :
    either kinds =
      if mixed ∈ kinds ∨ words ∈ kinds ∧ classes ∈ kinds then words
      else if words ∈ kinds then words
      else if classes ∈ kinds then classes else empty := by
  have only : ∀ allowed : ContentKind → Prop, (∀ kind ∈ kinds, allowed kind) ↔
      (words ∈ kinds → allowed words) ∧ (classes ∈ kinds → allowed classes) ∧
        (mixed ∈ kinds → allowed mixed) ∧ (empty ∈ kinds → allowed empty) := by
    intro allowed
    constructor
    · intro each
      exact ⟨each words, each classes, each mixed, each empty⟩
    · rintro ⟨ofWords, ofClasses, ofMixed, ofEmpty⟩ kind inside
      cases kind with
      | words => exact ofWords inside
      | classes => exact ofClasses inside
      | mixed => exact ofMixed inside
      | empty => exact ofEmpty inside
  simp only [either, only]
  by_cases someWords : words ∈ kinds <;> by_cases someClasses : classes ∈ kinds <;>
    by_cases someMixed : mixed ∈ kinds <;> simp [someWords, someClasses, someMixed]

/-- A single operand that is to be met alone keeps its kind. -/
theorem ContentKind.together_single (kind : ContentKind) : together [kind] = kind := by
  cases kind <;> rfl

/-- The union of operands never searches for words and for codes at once. -/
theorem ContentKind.either_ne_mixed (kinds : List ContentKind) :
    either kinds ≠ .mixed := by
  unfold either
  split_ifs <;> simp

/-- A text with a character to be seen is not blank. -/
theorem Text.visible_of_mem {text : Text} (character : Char) (inside : character ∈ text)
    (visible : isBlank character = false) : text.allBlank = false := by
  simpa [Text.allBlank] using ⟨character, inside, visible⟩

namespace Parts

/-- Parts have content on the word side if they search for words, alone or with codes. -/
theorem word_content_iff (parts : Parts) :
    parts.words.any WordFactor.hasContent = (parts.kind = .words || parts.kind = .mixed) := by
  unfold kind
  split <;> simp_all

/-- Parts have content on the side of the codes if they search for codes, alone or with words. -/
theorem code_content_iff (parts : Parts) :
    parts.classes.any (fun group => !group.allBlank) =
      (parts.kind = .classes || parts.kind = .mixed) := by
  unfold kind
  split <;> simp_all

/-- The kind of several parts together. -/
theorem kind_together (several : List Parts) :
    (several.foldr (· ++ ·) empty).kind = .together (several.map kind) := by
  have sides : (several.foldr (· ++ ·) empty).words.any WordFactor.hasContent =
        (several.map kind).any (fun kind => kind = .words || kind = .mixed) ∧
      (several.foldr (· ++ ·) empty).classes.any (fun group => !group.allBlank) =
        (several.map kind).any (fun kind => kind = .classes || kind = .mixed) := by
    induction several with
    | nil => exact ⟨rfl, rfl⟩
    | cons parts others inductionHypothesis =>
      obtain ⟨words, classes⟩ := inductionHypothesis
      rw [List.map_cons, List.any_cons, List.any_cons, ← words, ← classes, ← word_content_iff,
        ← code_content_iff]
      exact ⟨List.any_append, List.any_append⟩
  cases words : (several.map kind).any (fun kind => kind = .words || kind = .mixed) <;>
    cases classes : (several.map kind).any (fun kind => kind = .classes || kind = .mixed) <;>
      simp only [kind, ContentKind.together, sides.1, sides.2, words, classes]

/-- A text searches for words unless it is blank. -/
theorem kind_ofText (text : Text) : (ofText text).kind = .ofText text := by
  cases blank : text.allBlank <;>
    simp [ofText, ofFactor, kind, WordFactor.hasContent, ContentKind.ofText, blank]

/-- So does a text without the blanks around it. -/
theorem kind_ofTrimmed (text : Text) : (ofTrimmed text).kind = .ofText text := by
  cases blank : text.allBlank with
  | false =>
    rw [kind_of_trimmed blank]
    simp [ContentKind.ofText, blank]
  | true =>
    have nothing : Text.trimStart text = [] := by
      simpa [Text.trimStart, Text.allBlank] using blank
    rw [ofTrimmed, Text.trim, nothing]
    simp [Text.trimEnd, kind, empty, ContentKind.ofText, blank]

/-- A group in round brackets searches for codes. -/
theorem kind_of_group (text : Text) : (ofClass (parenthesized text)).kind = .classes := by
  have visible : (parenthesized text).allBlank = false :=
    Text.visible_of_mem '(' (by simp [parenthesized]) (by decide)
  simp [ofClass, kind, visible]

/-- The kind of a union, where the fallback can be seen if it is taken. -/
theorem kind_unite {fallback : Parts} {branches : List Parts}
    (visible : ContentKind.mixed ∈ branches.map kind ∨
      ContentKind.words ∈ branches.map kind ∧ ContentKind.classes ∈ branches.map kind →
        fallback.kind = .words) :
    (unite fallback branches).kind = .either (branches.map kind) := by
  have chosen : ∀ {kind : ContentKind}, kind ∈ branches.map Parts.kind →
      branchesOf kind branches ≠ [] := by
    intro kind inside
    obtain ⟨branch, listed, same⟩ := List.mem_map.mp inside
    exact List.ne_nil_of_mem (List.mem_filter.mpr ⟨listed, decide_eq_true same⟩)
  rw [ContentKind.either_eq]
  simp only [unite, List.contains_eq_mem, Bool.or_eq_true, Bool.and_eq_true, decide_eq_true_eq]
  by_cases degraded : ContentKind.mixed ∈ branches.map kind ∨
      ContentKind.words ∈ branches.map kind ∧ ContentKind.classes ∈ branches.map kind
  · rw [if_pos degraded, if_pos degraded]
    exact visible degraded
  · rw [if_neg degraded, if_neg degraded]
    by_cases words : ContentKind.words ∈ branches.map kind
    · rw [if_pos words, if_pos words]
      exact kind_uniteWords (chosen words)
    · rw [if_neg words, if_neg words]
      by_cases classes : ContentKind.classes ∈ branches.map kind
      · rw [if_pos classes, if_pos classes]
        exact kind_of_group _
      · rw [if_neg classes, if_neg classes]
        decide

end Parts

namespace Expr

/-- Leaves whose meanings have the given kinds. A word does not search for codes, and a reference
that searches for words and for codes has a name to be seen. -/
structure LeavesHaveKinds (meaning : Meaning) (word reference : Text → ContentKind) : Prop where
  ofWord : ∀ text, (meaning.word text).kind = word text
  ofReference : ∀ id, (meaning.reference id).kind = reference id
  wordsOnly : ∀ text, word text ≠ ContentKind.mixed
  named : ∀ id, reference id = ContentKind.mixed → (meaning.name id).allBlank = false

variable {meaning : Meaning} {word reference : Text → ContentKind}

/-- The logical form of an expression that searches for words and for codes can be seen. -/
theorem LeavesHaveKinds.visible (leaves : LeavesHaveKinds meaning word reference) (expr : Expr)
    (mixed : expr.kindWith word reference = .mixed) :
    (logicalForm meaning.name expr).allBlank = false := by
  cases expr with
  | word text => exact absurd mixed (leaves.wordsOnly text)
  | reference id => exact leaves.named id mixed
  | logical connective first others =>
    cases connective with
    | or => exact absurd mixed (ContentKind.either_ne_mixed _)
    | and =>
      cases others with
      | nil =>
        rw [kindWith, eachKind, ContentKind.together_single] at mixed
        have ofFirst := leaves.visible first mixed
        rw [logicalForm, logicalForms, List.append_nil, factorText]
        split
        · exact Text.visible_of_mem '(' (by simp [parenthesized]) (by decide)
        · exact ofFirst
      | cons second rest =>
        exact Text.visible_of_mem '*'
          (by simp [logicalForm, logicalForms, Connective.sign]) (by decide)
  | proximity distance left right => cases mixed
  | simultaneous count first second third => cases mixed

mutual

/-- The kind of the parts of an expression is made of the kinds of its leaves. -/
theorem LeavesHaveKinds.kind_partsWith (leaves : LeavesHaveKinds meaning word reference)
    (expr : Expr) : (expr.partsWith meaning).kind = expr.kindWith word reference := by
  cases expr with
  | word text => exact leaves.ofWord text
  | reference id => exact leaves.ofReference id
  | logical connective first others =>
    have ofFirst := leaves.kind_partsWith first
    have ofOthers := leaves.kind_eachParts others
    cases connective with
    | and =>
      have together := Parts.kind_together (first.partsWith meaning :: eachParts meaning others)
      rw [List.map_cons, ofFirst, ofOthers] at together
      rw [partsWith, kindWith, ← together, productParts_eq, ← eachParts_eq]
      rfl
    | or =>
      rw [partsWith, kindWith, ← ofFirst, ← ofOthers, ← List.map_cons]
      apply Parts.kind_unite
      -- With a second operand the sign can be seen, and a single one searches for both.
      cases others with
      | nil =>
        intro degraded
        have mixed : first.kindWith word reference = .mixed := by
          rw [eachParts, List.map_singleton, List.mem_singleton, List.mem_singleton,
            List.mem_singleton, ofFirst] at degraded
          rcases degraded with mixed | ⟨words, classes⟩
          · exact mixed.symm
          · rw [← words] at classes
            cases classes
        have inside := leaves.visible first mixed
        simp [verbatim, Parts.kind_ofText, ContentKind.ofText, logicalForm, logicalForms, factorText,
          inside]
      | cons second rest =>
        intro _
        exact Parts.kind_of_text '+' (by simp [logicalForm, logicalForms, Connective.sign])
          (by decide)
  | proximity distance left right => exact kind_of_proximity ..
  | simultaneous count first second third => exact kind_of_simultaneous ..

/-- The kinds of the parts of several operands. -/
theorem LeavesHaveKinds.kind_eachParts (leaves : LeavesHaveKinds meaning word reference)
    (exprs : List Expr) :
    (eachParts meaning exprs).map Parts.kind = eachKind word reference exprs := by
  cases exprs with
  | nil => rfl
  | cons expr others =>
    rw [eachParts, eachKind, List.map_cons, leaves.kind_partsWith expr,
      leaves.kind_eachParts others]

end

end Expr

namespace Catalogue

variable {catalogue : Catalogue}

/-- Every stored entity has a display name that can be seen. -/
def HasVisibleNames (catalogue : Catalogue) : Prop :=
  ∀ entity ∈ catalogue.entities, entity.displayName.allBlank = false

/-- A stored entity is written by a name that can be seen. -/
theorem HasVisibleNames.name (visible : catalogue.HasVisibleNames) {id : Text} {entity : Entity}
    (found : catalogue.find? id = some entity) : (catalogue.nameOf id).allBlank = false := by
  have shown := visible entity (List.mem_of_find?_eq_some found)
  simp [nameOf, found, Text.isEmpty_of_visible shown, shown]

/-- Only stored entities have content. -/
theorem HasVisibleNames.named (visible : catalogue.HasVisibleNames) {stack : List Text} {id : Text}
    (content : catalogue.referenceKind stack id ≠ .empty) :
    (catalogue.nameOf id).allBlank = false := by
  cases found : catalogue.find? id with
  | some entity => exact visible.name found
  | none =>
    rw [referenceKind] at content
    split at content
    · exact absurd rfl content
    all_goals simp_all

/-- The kind of a word, from its text and its definition. -/
theorem kind_wordParts (catalogue : Catalogue) (text : Text) :
    (catalogue.wordParts text).kind = catalogue.wordKind text := by
  cases found : catalogue.wordOfToken? text with
  | none => simp [wordParts, wordKind, found, Parts.kind_ofTrimmed]
  | some entity =>
    cases defined : entity.definition.allBlank <;>
      simp [wordParts, wordKind, found, Parts.kind_ofTrimmed, ContentKind.ofText, defined]

/-- A word does not search for codes. -/
theorem wordKind_ne_mixed (catalogue : Catalogue) (text : Text) :
    catalogue.wordKind text ≠ .mixed := by
  unfold wordKind ContentKind.ofText
  repeat' split
  all_goals simp

/-- The leaves of an expression have the kinds of words and of references if the references do. -/
theorem HasVisibleNames.leaves (visible : catalogue.HasVisibleNames) {stack : List Text} {depth : Nat}
    (ofReference : ∀ id,
      (catalogue.referenceParts depth stack id).kind = catalogue.referenceKind stack id) :
    Expr.LeavesHaveKinds ⟨catalogue.wordParts, catalogue.referenceParts depth stack, catalogue.nameOf⟩
      catalogue.wordKind (catalogue.referenceKind stack) where
  ofWord := catalogue.kind_wordParts
  ofReference := ofReference
  wordsOnly := catalogue.wordKind_ne_mixed
  named := by
    intro id mixed
    have content : catalogue.referenceKind stack id ≠ .empty := by
      rw [mixed]
      decide
    exact visible.named content

/-- The kind of a reference to any depth that is not less than the number of entities that are not
open. -/
theorem HasVisibleNames.kind_referenceParts (visible : catalogue.HasVisibleNames)
    {stack : List Text} {depth : Nat} (enough : catalogue.unopened stack ≤ depth) (id : Text) :
    (catalogue.referenceParts depth stack id).kind = catalogue.referenceKind stack id := by
  -- Along the recursion of the kind, where each expression that is opened leaves fewer that are not.
  fun_induction catalogue.referenceKind stack id generalizing depth with
  | case1 stack id unknown => simp [referenceParts, unknown, Parts.kind, Parts.empty]
  | case2 stack id word found =>
    simp only [referenceParts, found, WordEntity.content, Parts.ofTrimmed, (Text.trimmed_trim _).trim]
    exact Parts.kind_ofTrimmed _
  | case3 stack id group found bare =>
    simp [referenceParts, found, bare, Parts.kind, Parts.empty]
  | case4 stack id group found filled =>
    simp [referenceParts, found, filled, ClassEntity.union, Parts.kind_of_group]
  | case5 stack id expression found noTree =>
    simp [referenceParts, found, noTree, Parts.kind, Parts.empty]
  | case6 stack id expression found root rooted isOpen =>
    rw [List.contains_iff_mem] at isOpen
    have named : (Parts.ofText (catalogue.nameOf id)).kind = .words := by
      simp [Parts.kind_ofText, ContentKind.ofText, visible.name found]
    cases depth <;> simp [referenceParts, found, rooted, isOpen, named]
  | case7 stack id expression found root rooted notOpen inductionHypothesis =>
    rw [List.contains_iff_mem] at notOpen
    have fewer := unopened_push found notOpen
    obtain ⟨less, rfl⟩ := Nat.exists_eq_succ_of_ne_zero (show depth ≠ 0 by omega)
    have leaves := visible.leaves (fun id => inductionHypothesis id (show _ ≤ less by omega))
    simpa [referenceParts, found, rooted, notOpen] using leaves.kind_partsWith root

/-- Where names can be seen, the kind of content of an expression is composed of the kinds of its
words and of the entities to which it refers. -/
theorem content_kind_composed (catalogue : Catalogue) (visible : catalogue.HasVisibleNames)
    (expr : Expr) : catalogue.contentKind expr = catalogue.kindOf expr :=
  (visible.leaves (visible.kind_referenceParts (catalogue.unopened_le []))).kind_partsWith expr

/-- A group, an expression that searches for words and for codes while it refers to itself, and one
that unites words with codes. -/
def mixing : Catalogue :=
  { empty 5 with
    entities :=
      [.classification ⟨['c'], ['C'], ['G'], [['A'], ['B']]⟩,
        .expression ⟨['p'], ['P'], some (.logical .and (.reference ['p']) [.reference ['c']]), false⟩,
        .expression ⟨['q'], ['Q'], some (.logical .or (.word ['A']) [.reference ['c']]), true⟩] }

/-- An expression that refers to itself searches for words by its name, and a union of an expression
that searches for words and for codes is written by name. -/
theorem content_kind_composed_mixing :
    mixing.HasVisibleNames ∧ mixing.kindOf (.reference ['p']) = .mixed ∧
      mixing.kindOf (.logical .or (.reference ['p']) []) = .words ∧
      mixing.kindOf (.logical .or (.reference ['c']) [.word []]) = .classes ∧
      mixing.kindOf (.logical .and (.reference ['q']) [.reference ['r']]) = .words := by
  have visible : mixing.HasVisibleNames := by
    unfold HasVisibleNames
    decide
  have composed := fun expr => (content_kind_composed mixing visible expr).symm
  refine ⟨visible, ?_, ?_, ?_, ?_⟩
  · exact (composed _).trans (by decide +kernel)
  · exact (composed _).trans (by decide +kernel)
  · exact (composed _).trans (by decide +kernel)
  · exact (composed _).trans (by decide +kernel)

end Catalogue

end PriorArt
