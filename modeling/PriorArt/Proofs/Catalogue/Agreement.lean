import PriorArt.Proofs.Catalogue.Stored
import PriorArt.Proofs.Expr.Agreement
import PriorArt.Proofs.Text.Solid
import PriorArt.Proofs.Text.Trimmed

/-!
# Catalogues that agree on words and groups

As long as expressions refer to no expressions, their meaning is found without following one
reference behind another. So two catalogues in which the same words are found by token, and the
same entity under each id that an expression refers to, give the expression the same query.
-/

namespace PriorArt

/-- Trimming a text beforehand does not change the factor. -/
theorem Parts.ofTrimmed_trim (text : Text) : ofTrimmed (Text.trim text) = ofTrimmed text := by
  unfold ofTrimmed
  rw [(Text.trimmed_trim text).trim]

namespace Catalogue

variable {left right : Catalogue}

/-- Two catalogues store the same under an id, and it is no expression. -/
structure AgreesAt (left right : Catalogue) (id : Text) : Prop where
  same : left.find? id = right.find? id
  leaf : ∀ entity, left.find? id = some entity → entity.kind ≠ .expression

/-- An entity has the same name where the same is found under its id. -/
theorem name_of_congr {id : Text} (same : left.find? id = right.find? id) :
    left.nameOf id = right.nameOf id := by
  rw [nameOf, nameOf, same]

/-- A reference that is to no expression means the same in both catalogues, however deep it
stands. -/
theorem AgreesAt.reference_parts {id : Text} (agrees : AgreesAt left right id)
    (depth otherDepth : Nat) (expanding others : List Text) :
    left.referenceParts depth expanding id = right.referenceParts otherDepth others id := by
  unfold referenceParts
  rw [← agrees.same]
  split
  · rfl
  · rfl
  · rfl
  · next found => exact absurd rfl (agrees.leaf _ found)

/-- Where the same word is found by a token, the token means the same. -/
theorem word_parts_congr {text : Text} (same : left.wordOfToken? text = right.wordOfToken? text) :
    left.wordParts text = right.wordParts text := by
  rw [wordParts, wordParts, same]

/-- An expression whose leaves mean the same in both catalogues has the same parts in both, however deep
it stands. -/
theorem partsWith_agree {expr : Expr}
    (words : ∀ text ∈ expr.words, left.wordOfToken? text = right.wordOfToken? text)
    (agrees : ∀ id ∈ expr.references, AgreesAt left right id) (depth otherDepth : Nat)
    (expanding others : List Text) :
    expr.partsWith ⟨left.wordParts, left.referenceParts depth expanding, left.nameOf⟩ =
      expr.partsWith ⟨right.wordParts, right.referenceParts otherDepth others, right.nameOf⟩ := by
  apply Expr.partsWith_congr
  refine ⟨?_, ?_, ?_⟩
  · intro text inside
    exact word_parts_congr (words text (by simpa using inside))
  · intro id inside
    exact (agrees id (by simpa using inside)).reference_parts ..
  · intro id inside
    exact name_of_congr (agrees id (by simpa using inside)).same

/-- An expression whose leaves mean the same in both catalogues has the same parts in both. -/
theorem parts_agree_on {expr : Expr}
    (words : ∀ text ∈ expr.words, left.wordOfToken? text = right.wordOfToken? text)
    (agrees : ∀ id ∈ expr.references, AgreesAt left right id) :
    left.parts expr = right.parts expr := partsWith_agree words agrees ..

/-- An expression whose leaves mean the same in both catalogues has the same query in both. -/
theorem query_agree_on {expr : Expr}
    (words : ∀ text ∈ expr.words, left.wordOfToken? text = right.wordOfToken? text)
    (agrees : ∀ id ∈ expr.references, AgreesAt left right id) :
    left.query expr = right.query expr := by
  rw [query, query, parts_agree_on words agrees]

/-- Where the same words are found, an expression whose references mean the same in both catalogues
has the same query in both. -/
theorem query_agree (words : left.wordOfToken? = right.wordOfToken?) {expr : Expr}
    (agrees : ∀ id ∈ expr.references, AgreesAt left right id) :
    left.query expr = right.query expr :=
  query_agree_on (fun text _ => congrFun words text) agrees

/-- A reference to a word means its content. -/
theorem reference_parts_word {catalogue : Catalogue} {id : Text} {word : WordEntity}
    (found : catalogue.find? id = some (.word word)) :
    catalogue.meaning.reference id = .ofTrimmed word.content := by
  rw [meaning]
  unfold referenceParts
  rw [found]

/-- The token of a word means the content of the word, unless its definition is blank without being
empty. -/
theorem parts_of_token {catalogue : Catalogue} {word : WordEntity}
    (defined : word.definition = [] ∨ word.definition.allBlank = false)
    (bound : catalogue.wordOfToken? word.token = some word) :
    catalogue.wordParts word.token = .ofTrimmed word.content := by
  rw [WordEntity.content, Parts.ofTrimmed_trim]
  rcases defined with none | visible
  · simp [wordParts, bound, none, Text.allBlank]
  · simp [wordParts, bound, visible, Text.isEmpty_of_visible visible]

/-- The parts of a reference to a group with codes are the union of the codes. -/
theorem parts_reference_group {catalogue : Catalogue} {id : Text} {group : ClassEntity}
    (filled : group.codes ≠ []) (found : catalogue.find? id = some (.classification group)) :
    catalogue.parts (.reference id) = .ofClass group.union := by
  rw [parts, meaning, Expr.partsWith]
  dsimp only
  unfold referenceParts
  simp [found, filled]

/-- A reference to an expression means what the tree of the expression means, if this refers to no
expressions. -/
theorem reference_parts_root {catalogue : Catalogue} {id : Text} {expression : ExpressionEntity}
    (found : catalogue.find? id = some (.expression expression)) {root : Expr}
    (rooted : expression.root = some root)
    (leaves : ∀ id ∈ root.references, ∀ entity, catalogue.find? id = some entity →
      entity.kind ≠ .expression) :
    catalogue.meaning.reference id = root.partsWith catalogue.meaning := by
  have inside := List.mem_of_find?_eq_some found
  obtain ⟨depth, length⟩ := Nat.exists_eq_add_one.mpr (List.length_pos_of_mem inside)
  have agrees : ∀ id ∈ root.references, AgreesAt catalogue catalogue id :=
    fun id inside => ⟨rfl, leaves id inside⟩
  have expanded := partsWith_agree (fun _ _ => rfl) agrees depth (depth + 1) [id] []
  rw [meaning, length, ← expanded]
  dsimp only
  unfold referenceParts
  simp [found, rooted]

/-- A reference to an expression is written out as the tree of the expression, if this refers to no
expressions. -/
theorem query_reference_root {catalogue : Catalogue} {id : Text} {expression : ExpressionEntity}
    (found : catalogue.find? id = some (.expression expression)) {root : Expr}
    (rooted : expression.root = some root)
    (leaves : ∀ id ∈ root.references, ∀ entity, catalogue.find? id = some entity →
      entity.kind ≠ .expression) :
    catalogue.query (.reference id) = catalogue.query root := by
  rw [query, query, parts, parts, Expr.partsWith, reference_parts_root found rooted leaves]

/-- A reference to an entity that is found in both catalogues has the same query in both, if the
leaves of its expression mean the same. -/
theorem query_reference_agree_on {id : Text} {entity : Entity}
    (found : left.find? id = some entity) (same : right.find? id = some entity)
    (words : ∀ expression root, entity = .expression expression → expression.root = some root →
      ∀ text ∈ root.words, left.wordOfToken? text = right.wordOfToken? text)
    (agrees : ∀ expression root, entity = .expression expression → expression.root = some root →
      ∀ id ∈ root.references, AgreesAt left right id) :
    left.query (.reference id) = right.query (.reference id) := by
  by_cases rooted : ∃ expression root, entity = .expression expression ∧
      expression.root = some root
  · obtain ⟨expression, root, rfl, rooted⟩ := rooted
    have agree := agrees expression root rfl rooted
    have leavesRight : ∀ id ∈ root.references, ∀ entity, right.find? id = some entity →
        entity.kind ≠ .expression := fun id inside other foundRight =>
      (agree id inside).leaf other ((agree id inside).same.trans foundRight)
    rw [query_reference_root found rooted (fun id inside => (agree id inside).leaf),
      query_reference_root same rooted leavesRight,
      query_agree_on (words expression root rfl rooted) agree]
  · simp only [query, parts, meaning, Expr.partsWith]
    unfold referenceParts
    rw [found, same]
    cases entity with
    | word word => rfl
    | classification group => rfl
    | expression expression =>
      cases tree : expression.root with
      | none => simp [tree]
      | some root => exact absurd ⟨expression, root, rfl, tree⟩ rooted

/-- Where the same words are found, a reference to an entity that is found in both catalogues has the
same query in both, if the references of its expression mean the same. -/
theorem query_reference_agree (words : left.wordOfToken? = right.wordOfToken?) {id : Text}
    {entity : Entity} (found : left.find? id = some entity) (same : right.find? id = some entity)
    (agrees : ∀ expression root, entity = .expression expression → expression.root = some root →
      ∀ id ∈ root.references, AgreesAt left right id) :
    left.query (.reference id) = right.query (.reference id) :=
  query_reference_agree_on found same (fun _ _ _ _ text _ => congrFun words text) agrees

end Catalogue

end PriorArt
