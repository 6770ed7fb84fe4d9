import PriorArt.Proofs.Catalogue.Agreement
import PriorArt.Proofs.Expr.Rewriting

/-!
# Words by id and by token

An expression can refer to a word in two ways: by the id of the word, as expressions do that are
composed or imported, and by its token, as they are written in a workbook. Both mean the definition of
the word, or its token if it has none, and both are written as the token. So they can be exchanged
anywhere in an expression.

The two ways tell differently whether a word is defined: a reference asks for a definition of any
characters, a token for one with characters to be seen. They differ on a word whose definition is blank
and not empty, which no line, import or composition stores.
-/

namespace PriorArt.Catalogue

/-- Every definition that is not empty has a character to be seen. -/
def HasVisibleDefinitions (catalogue : Catalogue) : Prop :=
  ∀ word, .word word ∈ catalogue.entities →
    word.definition = [] ∨ word.definition.allBlank = false

/-- A reference to a word gives way to the token of the word, if the token has a character to be seen
and the word is found by it. -/
inductive SpellsWord (catalogue : Catalogue) : Expr → Expr → Prop where
  | spell {id : Text} {word : WordEntity} (found : catalogue.find? id = some (.word word))
      (visible : word.token.allBlank = false)
      (bound : catalogue.wordOfToken? word.token = some word) :
      SpellsWord catalogue (.reference id) (.word word.token)

variable {catalogue : Catalogue}

/-- A word is written as its token, if this is not empty. -/
theorem name_of_word {id : Text} {word : WordEntity} (found : catalogue.find? id = some (.word word))
    (visible : word.token.allBlank = false) : catalogue.nameOf id = word.token := by
  simp [nameOf, found, Entity.displayName, Entity.token, Text.isEmpty_of_visible visible]

/-- A reference to a word is read like the token of the word. -/
theorem SpellsWord.reads_alike (defined : catalogue.HasVisibleDefinitions) {expr spelled : Expr}
    (spells : catalogue.SpellsWord expr spelled) :
    Expr.ReadsAlike catalogue.meaning expr spelled := by
  obtain ⟨found, visible, bound⟩ := spells
  have stored := List.mem_of_find?_eq_some found
  refine ⟨?_, name_of_word found visible, rfl, rfl⟩
  rw [Expr.partsWith, Expr.partsWith, reference_parts_word found]
  exact (parts_of_token (defined _ stored) bound).symm

/-- A word by id is the same as the word by token. Where no definition is blank without being empty,
any references to words that are found by their tokens can give way to these tokens: the expression has
the same parts, the same query and the same logical form as before. -/
theorem word_by_id_or_token (catalogue : Catalogue) (defined : catalogue.HasVisibleDefinitions)
    {expr spelled : Expr} (rewrites : expr.Rewrites catalogue.SpellsWord spelled) :
    catalogue.parts expr = catalogue.parts spelled ∧ catalogue.query expr = catalogue.query spelled ∧
      expr.logicalForm catalogue.nameOf = spelled.logicalForm catalogue.nameOf := by
  have alike : Expr.ReadsAlike catalogue.meaning expr spelled :=
    rewrites.reads_alike (fun spells => spells.reads_alike defined)
  have sameParts : catalogue.parts expr = catalogue.parts spelled := alike.parts
  exact ⟨sameParts, congrArg Parts.render sameParts, alike.form⟩

/-- A word with a definition. -/
def definedWord : WordEntity := ⟨['w'], [], ['A'], ['(', 'a', '+', 'b', ')'], [], []⟩

/-- A word without a definition. -/
def bareWord : WordEntity := ⟨['v'], [], ['B'], [], [], []⟩

/-- A word with a definition, one without, and a group. -/
def spelling : Catalogue :=
  { empty 3 with
    entities :=
      [.word definedWord, .word bareWord, .classification ⟨['c'], [], ['C'], [['G', '0']]⟩]
    wordTokens := [(['A'], ['w']), (['B'], ['v'])] }

/-- A nearness to the defined word, and a union of the other word with the group that is written as its
logical form. -/
def composedTree : Expr :=
  .logical .and (.proximity ⟨.sentences, 0⟩ (.reference ['w']) (.word ['d']))
    [.logical .or (.reference ['v']) [.reference ['c']]]

/-- The same with the words by token. -/
def spelledTree : Expr :=
  .logical .and (.proximity ⟨.sentences, 0⟩ (.word ['A']) (.word ['d']))
    [.logical .or (.word ['B']) [.reference ['c']]]

/-- The query is `[(a+b),0c,d/TX]*(B+C)/TX` with the words by id and by token. -/
theorem word_by_id_or_token_spelling :
    spelling.HasVisibleDefinitions ∧ composedTree.Rewrites spelling.SpellsWord spelledTree ∧
      spelling.query composedTree = spelling.query spelledTree := by
  have defined : spelling.HasVisibleDefinitions := by
    intro word stored
    obtain rfl | rfl : word = definedWord ∨ word = bareWord := by simpa [spelling] using stored
    · exact .inr (by decide)
    · exact .inl rfl
  have ofDefined : spelling.SpellsWord (.reference ['w']) (.word ['A']) :=
    @SpellsWord.spell spelling ['w'] definedWord rfl (by decide) rfl
  have ofBare : spelling.SpellsWord (.reference ['v']) (.word ['B']) :=
    @SpellsWord.spell spelling ['v'] bareWord rfl (by decide) rfl
  have rewrites : composedTree.Rewrites spelling.SpellsWord spelledTree :=
    .logical .and (.proximity _ (.replaced ofDefined) (.kept _))
      (.cons (.logical .or (.replaced ofBare) (.cons (.kept _) .nil)) .nil)
  exact ⟨defined, rewrites, (word_by_id_or_token spelling defined rewrites).2.1⟩

end PriorArt.Catalogue
