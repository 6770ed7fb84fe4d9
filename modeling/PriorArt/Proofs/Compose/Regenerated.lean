import PriorArt.Proofs.Catalogue.Writes
import PriorArt.Proofs.Import.CleanFailures
import PriorArt.Proofs.Workspace.Legible

/-!
# The words of an expression that are defined again

The words of a stored tree that stand for nothing are defined one after the other, each for itself.
Whether one stands for something is looked up by its token, but where it is stored is looked up by its
label. If no word has it as a label, a new word is stored. But a word that was imported has a token of
its own beside its label, and where the label is a word of the tree, the imported word is overwritten:
it gets the label as its token and as its definition, and its own token stands for nothing any more.
-/

namespace PriorArt

open Action Brackets Catalogue

/-- The sorted distinct members of a list of texts, each once. -/
theorem Text.nodup_sortedDistinct (texts : List Text) : (sortedDistinct texts).Nodup :=
  (List.mergeSort_perm _ _).nodup_iff.mpr (nodup_eraseDups texts)

/-- The members of a list of texts stay when they are made distinct and sorted. -/
theorem Text.mem_sortedDistinct {texts : List Text} {text : Text} :
    text ∈ sortedDistinct texts ↔ text ∈ texts := by
  rw [sortedDistinct, List.mem_mergeSort, List.mem_eraseDups]

/-- The words of the tree of an expression, each once, in code-point order. -/
def ExpressionEntity.treeWords (expression : ExpressionEntity) : List Text :=
  match expression.root with
  | some root => Text.sortedDistinct root.words
  | none => []

/-- A word for itself under an id. -/
def WordEntity.forItself (id token : Text) : WordEntity :=
  ⟨id, token, token, parenthesized token, [], []⟩

/-- A word that was overwritten: it stands for its label, and keeps its key and its variants. -/
def WordEntity.overwritten (word : WordEntity) : WordEntity :=
  { word with token := word.label, definition := parenthesized word.label }

/-- What defining a word for itself does if it succeeds: the first word with the label is
overwritten, or a new word is stored if there is none. -/
inductive DefinesItself (token : Text) (before : Catalogue) : WordEntity → Catalogue → Prop where
  | overwrites {word : WordEntity}
      (labelled : before.ofLabel? token .word = some (.word word)) :
      DefinesItself token before word.overwritten (before.store (.word word.overwritten))
  | adds (absent : before.ofLabel? token .word = none) (room : before.isFull .word = false) :
      DefinesItself token before (.forItself (before.takeId .word).1 token)
        ((before.takeId .word).2.store (.word (.forItself (before.takeId .word).1 token)))

/-- The next id is not in use when it has been given out for a word for itself. -/
theorem WordEntity.for_itself_fresh (catalogue : Catalogue) (token : Text) :
    (catalogue.takeId .word).2.find?
      (Entity.word (.forItself (catalogue.takeId .word).1 token)).id = none :=
  catalogue.take_id_fresh .word

/-- The word with a label is a stored word with it. -/
theorem Catalogue.word_of_label {catalogue : Catalogue} {label : Text} {entity : Entity}
    (found : catalogue.ofLabel? label .word = some entity) :
    ∃ word, entity = .word word ∧ word.label = label := by
  obtain ⟨_, sameKind, sameLabel⟩ := of_label_some found
  cases entity with
  | word word => exact ⟨word, rfl, sameLabel⟩
  | classification group => cases sameKind
  | expression expression => cases sameKind

/-- Defining a word for itself succeeds in one of these ways. -/
theorem Action.defines_itself {token : Text} {before after : Workspace} {word : WordEntity}
    (indexed : before.catalogue.IsIndexed)
    (run : runOn (defineWord token (parenthesized token)) before = (.ok word, after)) :
    DefinesItself token before.catalogue word after.catalogue := by
  unfold defineWord at run
  rw [run_on_bind_ok (run_on_take_id_for_label ..), run_on_bind_ok (run_on_catalogue _),
    Catalogue.takeIdForLabel] at run
  cases labelled : before.catalogue.ofLabel? token .word with
  | some entity =>
    obtain ⟨previous, rfl, rfl⟩ := word_of_label labelled
    have found : before.catalogue.find? (Entity.word previous).id = some (.word previous) :=
      indexed.distinct.find (of_label_some labelled).1
    rw [labelled] at run
    dsimp only at run
    rw [found] at run
    obtain ⟨_, middle, put, given⟩ := run_on_bind_success run
    obtain ⟨sameWord, rfl⟩ := Prod.mk.inj given
    obtain ⟨_, rfl⟩ := run_on_put_success put
    rw [← Except.ok.inj sameWord]
    exact .overwrites labelled
  | none =>
    have fresh := before.catalogue.take_id_fresh .word
    rw [labelled] at run
    dsimp only at run
    rw [show (before.catalogue.takeId .word).2.find? (before.catalogue.takeId .word).1 = none from
      fresh] at run
    obtain ⟨_, middle, put, given⟩ := run_on_bind_success run
    obtain ⟨sameWord, rfl⟩ := Prod.mk.inj given
    obtain ⟨fits, rfl⟩ := run_on_put_success put
    rw [← Except.ok.inj sameWord]
    refine .adds labelled (fits.resolve_left ?_)
    rw [contains, Bool.not_eq_true, Option.isSome_eq_false_iff, Option.isNone_iff_eq_none]
    exact fresh

namespace DefinesItself

variable {token : Text} {before after : Catalogue} {word : WordEntity}

/-- A word that is defined for itself bears its token as its label, and in brackets as its definition. -/
theorem itself (defines : DefinesItself token before word after) :
    word.token = token ∧ word.label = token ∧ word.definition = parenthesized token := by
  cases defines with
  | adds absent room => exact ⟨rfl, rfl, rfl⟩
  | @overwrites previous labelled =>
    have sameLabel : previous.label = token := (of_label_some labelled).2.2
    exact ⟨sameLabel, sameLabel, congrArg parenthesized sameLabel⟩

/-- The word with the label, if there is one, is overwritten. -/
theorem overwritten (defines : DefinesItself token before word after) {previous : WordEntity}
    (labelled : before.ofLabel? token .word = some (.word previous)) :
    after.find? previous.id = some (.word previous.overwritten) := by
  cases defines with
  | @overwrites other labelledOther =>
    obtain rfl := Entity.word.inj (Option.some.inj (labelledOther.symm.trans labelled))
    rw [find_store]
    exact if_pos rfl
  | adds absent room => cases absent.symm.trans labelled

variable (defines : DefinesItself token before word after) (indexed : before.IsIndexed)
include defines indexed

/-- A catalogue stays indexed. -/
theorem indexed_after : after.IsIndexed := by
  cases defines with
  | overwrites labelled => exact indexed_stable.store _ indexed
  | adds absent room =>
    exact indexed_stable.store _ (indexed.taken .word)

/-- The word is found by its label, and nothing changes under other labels. -/
theorem of_label (label : Text) :
    after.ofLabel? label .word =
      if label = token then some (.word word) else before.ofLabel? label .word := by
  cases defines with
  | @overwrites previous labelled =>
    obtain ⟨stored, _, sameLabel⟩ := of_label_some labelled
    have sameId : (Entity.word previous).id = (Entity.word previous.overwritten).id := rfl
    rw [of_label_replaced indexed.distinct stored sameId rfl rfl]
    split
    · next same =>
      rw [same, labelled, Option.map_some]
      exact congrArg some (if_pos rfl)
    · next different =>
      cases found : before.ofLabel? label .word with
      | none => rfl
      | some other =>
        have notReplaced : other.id ≠ (Entity.word previous.overwritten).id := by
          intro sameId
          obtain ⟨otherStored, _, otherLabel⟩ := of_label_some found
          obtain rfl := indexed.distinct.eq_of_id otherStored stored sameId
          exact different (otherLabel.symm.trans sameLabel)
        rw [Option.map_some, if_neg notReplaced]
  | adds absent room =>
    have fresh := WordEntity.for_itself_fresh before token
    have sameBefore : (before.takeId .word).2.ofLabel? label .word = before.ofLabel? label .word := rfl
    rw [of_label_store_fresh fresh, sameBefore]
    by_cases same : label = token
    · rw [if_pos same, same, absent, Option.none_or, if_pos ⟨rfl, rfl⟩]
    · rw [if_neg same, if_neg (fun own => same own.2.symm), Option.or_none]

/-- What is found under an id stays there, or it is a word with the label that was overwritten. -/
theorem found {id : Text} {entity : Entity} (found : before.find? id = some entity) :
    after.find? id = some entity ∨
      ∃ previous, entity = .word previous ∧ previous.label = token ∧
        after.find? id = some (.word previous.overwritten) := by
  cases defines with
  | @overwrites previous labelled =>
    obtain ⟨stored, _, sameLabel⟩ := of_label_some labelled
    rw [find_store]
    split
    · next same =>
      have foundPrevious : before.find? id = some (.word previous) := by
        rw [same]
        exact indexed.distinct.find stored
      obtain rfl := Option.some.inj (found.symm.trans foundPrevious)
      exact .inr ⟨previous, rfl, sameLabel, rfl⟩
    · exact .inl found
  | adds absent room =>
    exact .inl (find_store_fresh (WordEntity.for_itself_fresh before token) found)

/-- Other tokens that stand for nothing stand for nothing afterwards. -/
theorem unbound {other : Text} (different : other ≠ token)
    (unbound : before.wordOfToken? other = none) : after.wordOfToken? other = none := by
  have apart : Entity.entry? (.word word) .wordTokens ≠ some other := by
    intro entered
    exact different ((Option.some.inj entered).symm.trans defines.itself.1)
  cases defines with
  | overwrites labelled =>
    rw [word_of_token_store_other (indexed.leads .wordTokens) apart, unbound]
    rfl
  | adds absent room =>
    have taken : (before.takeId .word).2.wordOfToken? other = none := unbound
    rw [word_of_token_store_other ((indexed.taken .word).leads .wordTokens) apart, taken]
    rfl

/-- Where no word has the label, a new word is stored, its token stands for it, and other tokens stand
for what they stood for before. -/
theorem added (absent : before.ofLabel? token .word = none) (filled : token ≠ []) :
    after.entities = before.entities ++ [.word word] ∧ after.wordOfToken? token = some word ∧
      ∀ other, other ≠ token → after.wordOfToken? other = before.wordOfToken? other := by
  cases defines with
  | overwrites labelled => cases absent.symm.trans labelled
  | adds _ room =>
    have fresh := WordEntity.for_itself_fresh before token
    have followed (other : Text) :=
      ((indexed.taken .word).leads .wordTokens).follow_store_fresh fresh
        (before.take_id_filled .word) other
    refine ⟨store_fresh_entities fresh, ?_, fun other different => ?_⟩
    · rw [wordOfToken?]
      exact congrArg (Option.bind · Entity.word?) ((followed token).trans (if_pos ⟨rfl, filled⟩))
    · have apart : ¬ (Entity.entry? (.word (.forItself (before.takeId .word).1 token)) .wordTokens =
          some other ∧ other ≠ []) :=
        fun entered => different (Option.some.inj entered.1).symm
      rw [wordOfToken?]
      exact congrArg (Option.bind · Entity.word?) ((followed other).trans (if_neg apart))

end DefinesItself

/-- What defining the words for several tokens does if it succeeds: those that stand for something are
passed over, and the others are defined for themselves, each where the ones before are defined. -/
inductive DefinesUnbound : List Text → Catalogue → List WordEntity → Catalogue → Prop where
  | nothing (catalogue : Catalogue) : DefinesUnbound [] catalogue [] catalogue
  | bound {token : Text} {tokens : List Text} {before after : Catalogue} {words : List WordEntity}
      (isBound : before.wordOfToken? token ≠ none)
      (others : DefinesUnbound tokens before words after) :
      DefinesUnbound (token :: tokens) before words after
  | defined {token : Text} {tokens : List Text} {before middle after : Catalogue} {word : WordEntity}
      {words : List WordEntity} (unbound : before.wordOfToken? token = none)
      (first : DefinesItself token before word middle)
      (others : DefinesUnbound tokens middle words after) :
      DefinesUnbound (token :: tokens) before (word :: words) after

/-- Defining the words for several tokens succeeds in one of these ways. -/
theorem Compose.defines_unbound {tokens : List Text} {before after : Workspace}
    {words : List WordEntity} (indexed : before.catalogue.IsIndexed)
    (run : runOn (defineTokens tokens) before = (.ok words, after)) :
    DefinesUnbound tokens before.catalogue words after.catalogue := by
  induction tokens generalizing before words with
  | nil =>
    obtain ⟨same, rfl⟩ := Prod.mk.inj run
    rw [← Except.ok.inj same]
    exact .nothing _
  | cons token rest inductionHypothesis =>
    rw [defineTokens, run_on_bind_ok (run_on_catalogue before)] at run
    split at run
    · next isBound =>
      exact .bound (Option.isSome_iff_ne_none.mp isBound) (inductionHypothesis indexed run)
    · next notBound =>
      obtain ⟨word, middle, ofFirst, run⟩ := run_on_bind_success run
      obtain ⟨others, last, ofRest, given⟩ := run_on_bind_success run
      obtain ⟨same, rfl⟩ := Prod.mk.inj given
      rw [← Except.ok.inj same]
      have first := defines_itself indexed ofFirst
      exact .defined (by simpa using notBound) first
        (inductionHypothesis (first.indexed_after indexed) ofRest)

namespace DefinesUnbound

variable {tokens : List Text} {before after : Catalogue} {words : List WordEntity}

/-- The words that are defined bear tokens of the list as their labels, and in brackets as their
definitions. -/
theorem themselves (defines : DefinesUnbound tokens before words after) :
    ∀ word ∈ words, word.token ∈ tokens ∧ word.label = word.token ∧
      word.definition = parenthesized word.token := by
  induction defines with
  | nothing catalogue => nofun
  | bound isBound others inductionHypothesis =>
    intro word listed
    obtain ⟨inside, rest⟩ := inductionHypothesis word listed
    exact ⟨List.mem_cons_of_mem _ inside, rest⟩
  | defined unbound first others inductionHypothesis =>
    obtain ⟨rfl, sameLabel, isDefinition⟩ := first.itself
    refine List.forall_mem_cons.mpr ⟨⟨List.mem_cons_self, sameLabel, isDefinition⟩, ?_⟩
    intro word listed
    obtain ⟨inside, rest⟩ := inductionHypothesis word listed
    exact ⟨List.mem_cons_of_mem _ inside, rest⟩

variable (defines : DefinesUnbound tokens before words after) (indexed : before.IsIndexed)
include defines indexed

/-- A catalogue stays indexed. -/
theorem indexed_after : after.IsIndexed := by
  induction defines with
  | nothing catalogue => exact indexed
  | bound isBound others inductionHypothesis => exact inductionHypothesis indexed
  | defined unbound first others inductionHypothesis =>
    exact inductionHypothesis (first.indexed_after indexed)

/-- What is found under an id stays there, or it is a word with a token of the list as its label that
was overwritten. -/
theorem found {id : Text} {entity : Entity} (found : before.find? id = some entity) :
    after.find? id = some entity ∨
      ∃ previous, entity = .word previous ∧ previous.label ∈ tokens ∧
        after.find? id = some (.word previous.overwritten) := by
  induction defines generalizing entity with
  | nothing catalogue => exact .inl found
  | bound isBound others inductionHypothesis =>
    refine (inductionHypothesis indexed found).imp_right ?_
    rintro ⟨previous, isWord, inside, later⟩
    exact ⟨previous, isWord, List.mem_cons_of_mem _ inside, later⟩
  | defined unbound first others inductionHypothesis =>
    have indexedMiddle := first.indexed_after indexed
    rcases first.found indexed found with kept | ⟨previous, isWord, labelled, overwritten⟩
    · refine (inductionHypothesis indexedMiddle kept).imp_right ?_
      rintro ⟨previous, isWord, inside, later⟩
      exact ⟨previous, isWord, List.mem_cons_of_mem _ inside, later⟩
    · refine .inr ⟨previous, isWord, labelled ▸ List.mem_cons_self, ?_⟩
      -- A word that is overwritten once more stays what it has become.
      rcases inductionHypothesis indexedMiddle overwritten with later | ⟨_, same, _, later⟩
      · exact later
      · rw [later, ← Entity.word.inj same]
        rfl

/-- A label that is not a token of the list leads to the same word. -/
theorem of_label {label : Text} (foreign : label ∉ tokens) :
    after.ofLabel? label .word = before.ofLabel? label .word := by
  induction defines with
  | nothing catalogue => rfl
  | bound isBound others inductionHypothesis =>
    exact inductionHypothesis indexed (List.not_mem_of_not_mem_cons foreign)
  | defined unbound first others inductionHypothesis =>
    have notLater := List.not_mem_of_not_mem_cons foreign
    rw [inductionHypothesis (first.indexed_after indexed) notLater, first.of_label indexed,
      if_neg (List.ne_of_not_mem_cons foreign)]

/-- Each word that is defined is found by its label. -/
theorem labelled (once : tokens.Nodup) :
    ∀ word ∈ words, after.ofLabel? word.token .word = some (.word word) := by
  induction defines with
  | nothing catalogue => nofun
  | bound isBound others inductionHypothesis =>
    exact inductionHypothesis indexed (List.nodup_cons.mp once).2
  | defined unbound first others inductionHypothesis =>
    obtain ⟨foreign, onceLater⟩ := List.nodup_cons.mp once
    have indexedMiddle := first.indexed_after indexed
    refine List.forall_mem_cons.mpr ⟨?_, inductionHypothesis indexedMiddle onceLater⟩
    have sameToken := first.itself.1
    rw [others.of_label indexedMiddle (sameToken ▸ foreign), first.of_label indexed,
      if_pos sameToken]

/-- A word is overwritten if it is the first one with a token of the list as its label and the token
stands for nothing. -/
theorem overwritten (once : tokens.Nodup) {token : Text} (listed : token ∈ tokens)
    (unbound : before.wordOfToken? token = none) {previous : WordEntity}
    (labelled : before.ofLabel? token .word = some (.word previous)) :
    after.find? previous.id = some (.word previous.overwritten) := by
  induction defines with
  | nothing catalogue => cases listed
  | bound isBound others inductionHypothesis =>
    have later := (List.mem_cons.mp listed).resolve_left (fun same => isBound (same ▸ unbound))
    exact inductionHypothesis indexed (List.nodup_cons.mp once).2 later unbound labelled
  | @defined head rest before middle after word words _ first others inductionHypothesis =>
    obtain ⟨foreign, onceLater⟩ := List.nodup_cons.mp once
    have indexedMiddle := first.indexed_after indexed
    rcases List.mem_cons.mp listed with rfl | later
    · have sameLabel : previous.label = token := (of_label_some labelled).2.2
      rcases others.found indexedMiddle (first.overwritten labelled) with
        kept | ⟨other, same, inside, _⟩
      · exact kept
      · rw [← Entity.word.inj same] at inside
        exact absurd (show token ∈ rest from sameLabel ▸ inside) foreign
    · have different : token ≠ head := fun same => foreign (same ▸ later)
      refine inductionHypothesis indexedMiddle onceLater later (first.unbound indexed different unbound)
        ?_
      rw [first.of_label indexed, if_neg different, labelled]

end DefinesUnbound

/-- The law of words that are only added: behind the entities that are stored there comes one word for
each of the tokens that stood for nothing, and then each of the tokens stands for a word. -/
structure OnlyAdds (tokens : List Text) (before : Catalogue) (words : List WordEntity)
    (after : Catalogue) : Prop where
  entities : after.entities = before.entities ++ words.map Entity.word
  oneEach : words.map WordEntity.token = tokens.filter (before.wordOfToken? · = none)
  bound : ∀ token ∈ tokens, after.wordOfToken? token ≠ none

/-- Words are only added if no token that stands for nothing is the label of a word. -/
theorem DefinesUnbound.only_adds {tokens : List Text} {before after : Catalogue}
    {words : List WordEntity} (defines : DefinesUnbound tokens before words after)
    (indexed : before.IsIndexed) (once : tokens.Nodup) (filled : ∀ token ∈ tokens, token ≠ [])
    (unlabelled : ∀ token ∈ tokens, before.wordOfToken? token = none →
      before.ofLabel? token .word = none) :
    OnlyAdds tokens before words after ∧
      ∀ other, other ∉ tokens → after.wordOfToken? other = before.wordOfToken? other := by
  induction defines with
  | nothing catalogue => exact ⟨⟨by simp, rfl, nofun⟩, fun _ _ => rfl⟩
  | @bound token rest before after words isBound others inductionHypothesis =>
    obtain ⟨foreign, onceLater⟩ := List.nodup_cons.mp once
    obtain ⟨adds, kept⟩ := inductionHypothesis indexed onceLater
      (List.forall_mem_cons.mp filled).2 (List.forall_mem_cons.mp unlabelled).2
    refine ⟨⟨adds.entities, ?_, ?_⟩, fun other notListed =>
      kept other (List.not_mem_of_not_mem_cons notListed)⟩
    · rw [adds.oneEach, List.filter_cons_of_neg (by simpa using isBound)]
    · refine List.forall_mem_cons.mpr ⟨?_, adds.bound⟩
      rw [kept token foreign]
      exact isBound
  | @defined token rest before middle after word words unbound first others inductionHypothesis =>
    obtain ⟨foreign, onceLater⟩ := List.nodup_cons.mp once
    obtain ⟨filledFirst, filledLater⟩ := List.forall_mem_cons.mp filled
    obtain ⟨unlabelledFirst, unlabelledLater⟩ := List.forall_mem_cons.mp unlabelled
    have absent := unlabelledFirst unbound
    obtain ⟨appended, isBound, same⟩ := first.added indexed absent filledFirst
    have different : ∀ other ∈ rest, other ≠ token := by
      rintro other inside rfl
      exact foreign inside
    have sameLater : ∀ other ∈ rest, middle.wordOfToken? other = before.wordOfToken? other :=
      fun other inside => same other (different other inside)
    have unlabelledMiddle : ∀ other ∈ rest, middle.wordOfToken? other = none →
        middle.ofLabel? other .word = none := by
      intro other inside otherUnbound
      rw [first.of_label indexed, if_neg (different other inside)]
      exact unlabelledLater other inside (sameLater other inside ▸ otherUnbound)
    obtain ⟨adds, kept⟩ := inductionHypothesis (first.indexed_after indexed) onceLater filledLater
      unlabelledMiddle
    refine ⟨⟨?_, ?_, ?_⟩, ?_⟩
    · rw [adds.entities, appended, List.append_assoc]
      rfl
    · have sameFilter : rest.filter (middle.wordOfToken? · = none) =
          rest.filter (before.wordOfToken? · = none) :=
        List.filter_congr (fun other inside => by rw [sameLater other inside])
      rw [List.map_cons, adds.oneEach, first.itself.1, sameFilter,
        List.filter_cons_of_pos (by simpa using unbound)]
    · refine List.forall_mem_cons.mpr ⟨?_, adds.bound⟩
      rw [kept token foreign, isBound]
      exact nofun
    · intro other notListed
      rw [kept other (List.not_mem_of_not_mem_cons notListed),
        same other (List.ne_of_not_mem_cons notListed)]

/-- Where words are only added, no token that stood for nothing was the label of a word. -/
theorem OnlyAdds.unlabelled {tokens : List Text} {before after : Catalogue} {words : List WordEntity}
    (adds : OnlyAdds tokens before words after) (distinct : after.HasDistinctIds)
    (labelled : ∀ word ∈ words, after.ofLabel? word.token .word = some (.word word)) :
    ∀ token ∈ tokens, before.wordOfToken? token = none → before.ofLabel? token .word = none := by
  intro token listed unbound
  have inside : token ∈ words.map WordEntity.token := by
    rw [adds.oneEach]
    exact List.mem_filter.mpr ⟨listed, by simpa using unbound⟩
  obtain ⟨word, isWord, rfl⟩ := List.mem_map.mp inside
  by_contra present
  obtain ⟨previous, found⟩ := Option.ne_none_iff_exists'.mp present
  -- The first word with the label is the new one, and it is among the earlier entities.
  have first : after.ofLabel? word.token .word = some previous := by
    rw [ofLabel?, adds.entities, List.find?_append]
    exact congrArg (Option.or · _) found
  obtain rfl : .word word = previous := Option.some.inj ((labelled word isWord).symm.trans first)
  have apart := distinct
  rw [HasDistinctIds, adds.entities, List.map_append, List.nodup_append] at apart
  exact apart.2.2 _ (List.mem_map_of_mem (of_label_some found).1) _
    (List.mem_map_of_mem (List.mem_map_of_mem isWord)) rfl

/-- Defining the words of a stored expression again is defining the words of its tree. -/
theorem Compose.run_on_regenerate {id : Text} {before : Workspace} {expression : ExpressionEntity}
    (found : before.catalogue.find? id = some (.expression expression)) :
    runOn (regenerateWords id) before = runOn (defineTokens expression.treeWords) before := by
  have given : runOn (entity id) before = (.ok (.expression expression), before) := by
    rw [entity, run_on_bind_ok (run_on_catalogue before), found, run_on_pure]
  rw [regenerateWords, run_on_bind_ok given, ExpressionEntity.treeWords]
  dsimp only
  cases expression.root with
  | some root => rfl
  | none => rfl

/-- Defining the words of an expression again succeeds for a stored expression, and defines the words
of its tree that stand for nothing. -/
theorem Compose.regenerates {id : Text} {before after : Workspace} {words : List WordEntity}
    (indexed : before.catalogue.IsIndexed)
    (run : runOn (regenerateWords id) before = (.ok words, after)) :
    ∃ expression, before.catalogue.find? id = some (.expression expression) ∧
      DefinesUnbound expression.treeWords before.catalogue words after.catalogue := by
  obtain ⟨source, middle, given, rest⟩ := run_on_bind_success run
  have checks : Checks before (entity id) _ := checks_entity id
  cases checks with
  | refused refused refusal => cases refused.symm.trans given
  | @given other given' found =>
    obtain ⟨same, rfl⟩ := Prod.mk.inj (given'.symm.trans given)
    obtain rfl := Except.ok.inj same
    cases other with
    | word word => cases rest
    | classification group => cases rest
    | expression expression =>
      rw [run_on_regenerate found] at run
      exact ⟨expression, found, defines_unbound indexed run⟩

/-- Which words are overwritten when the words of an expression are defined again. After any managed
requests on an empty catalogue, let the words of an expression be defined again without a failure. This
only adds words, one for each word of the tree that stood for nothing, exactly if none of these is the
label of a stored word. Otherwise the first word with the label is overwritten. Everything that was
stored stays as it was, except for such words as have a word of the tree for their label; and what is
defined stands for itself. -/
theorem regeneration_only_adds_iff {requests : List Request}
    (managed : ∀ request ∈ requests, request.IsManaged) (limit : Int) (tokens : TokenSource)
    {before after : Workspace} (reached : afterRequests requests ⟨.empty limit, tokens⟩ = before)
    {id : Text} {words : List WordEntity}
    (run : runOn (Compose.regenerateWords id) before = (.ok words, after)) :
    ∃ expression, before.catalogue.find? id = some (.expression expression) ∧
      (OnlyAdds expression.treeWords before.catalogue words after.catalogue ↔
        ∀ token ∈ expression.treeWords, before.catalogue.wordOfToken? token = none →
          before.catalogue.ofLabel? token .word = none) ∧
      (∀ token ∈ expression.treeWords, before.catalogue.wordOfToken? token = none →
        ∀ word, before.catalogue.ofLabel? token .word = some (.word word) →
          after.catalogue.find? word.id = some (.word word.overwritten)) ∧
      (∀ storedId entity, before.catalogue.find? storedId = some entity →
        after.catalogue.find? storedId = some entity ∨
          ∃ word, entity = .word word ∧ word.label ∈ expression.treeWords ∧
            after.catalogue.find? storedId = some (.word word.overwritten)) ∧
      ∀ word ∈ words, word.token ∈ expression.treeWords ∧ word.label = word.token ∧
        word.definition = parenthesized word.token := by
  subst reached
  have indexed := indexed_after_requests requests limit tokens
  obtain ⟨expression, found, defines⟩ := Compose.regenerates indexed run
  have once : expression.treeWords.Nodup := by
    unfold ExpressionEntity.treeWords
    split
    · exact Text.nodup_sortedDistinct _
    · exact List.nodup_nil
  have filled : ∀ token ∈ expression.treeWords, token ≠ [] := by
    intro token listed
    unfold ExpressionEntity.treeWords at listed
    split at listed
    · next root rooted =>
      exact (legible_after_requests managed limit tokens).legible (List.mem_of_find?_eq_some found)
        rooted token (Text.mem_sortedDistinct.mp listed)
    · cases listed
  have indexedAfter := defines.indexed_after indexed
  refine ⟨expression, found, ⟨?_, ?_⟩, ?_, ?_, defines.themselves⟩
  · exact fun adds => adds.unlabelled indexedAfter.distinct (defines.labelled indexed once)
  · exact fun unlabelled => (defines.only_adds indexed once filled unlabelled).1
  · exact fun token listed unbound word labelled =>
      defines.overwritten indexed once listed unbound labelled
  · exact fun storedId entity stored => defines.found indexed stored

/-- A line that names a nearness of two words, and the import of a union whose first word is one of
them. -/
def importedNear : List Request :=
  [.line ['E', '=', 'X', ',', '5', 'n', ',', 'Y'],
    .importQuery false ['(', 'X', '+', 'Z', ')', '/', 'T', 'X']]

/-- The expression that the line stores. -/
def namedNear : ExpressionEntity :=
  ⟨['E', 'B', '-', '0', '0', '0', '1'], ['E'],
    some (.proximity ⟨.words, 5⟩ (.word ['X']) (.word ['Y'])), true⟩

/-- The word that the import stores. -/
def importedUnionWord : WordEntity :=
  ⟨['W', 'B', '-', '0', '0', '0', '1'], ['X'], ['k', '2', 'H', 'f', 'z'],
    ['(', 'X', '+', 'Z', ')'], ['X', '+', 'Z'], [['X'], ['Z']]⟩

/-- The workspace in which the words of the nearness are defined again. -/
def besideImport : Workspace := afterRequests importedNear ⟨.empty 5, .standard (congruential 1)⟩

/-- The words that are defined for the nearness. -/
def regeneratedNear : List WordEntity :=
  [importedUnionWord.overwritten, .forItself ['W', 'B', '-', '0', '0', '0', '2'] ['Y']]

/-- The imported word is overwritten when the words of the nearness are defined again: it does not
search for the whole union any more, and its token stands for nothing. -/
theorem regeneration_overwrites_imported :
    (∀ request ∈ importedNear, request.IsManaged) ∧
      besideImport.catalogue.wordOfToken? importedUnionWord.token = some importedUnionWord ∧
      ∃ after,
        runOn (Compose.regenerateWords namedNear.id) besideImport = (.ok regeneratedNear, after) ∧
        ¬ OnlyAdds namedNear.treeWords besideImport.catalogue regeneratedNear after.catalogue ∧
        after.catalogue.find? importedUnionWord.id = some (.word importedUnionWord.overwritten) ∧
        after.catalogue.wordOfToken? importedUnionWord.token = none := by
  have managed : ∀ request ∈ importedNear, request.IsManaged := by
    simp [importedNear, Request.IsManaged]
  have stored : besideImport.catalogue.find? namedNear.id = some (.expression namedNear) := by
    decide +kernel
  have treeWords : namedNear.treeWords = [['X'], ['Y']] := List.mergeSort_of_pairwise (by decide)
  have labelled : besideImport.catalogue.ofLabel? ['X'] .word = some (.word importedUnionWord) := by
    decide +kernel
  have unbound : besideImport.catalogue.wordOfToken? ['X'] = none := by decide +kernel
  have given : (runOn (Compose.regenerateWords namedNear.id) besideImport).1.toOption =
      some regeneratedNear := by
    rw [Compose.run_on_regenerate stored, treeWords]
    decide +kernel
  have lost : (runOn (Compose.regenerateWords namedNear.id) besideImport).2.catalogue.wordOfToken?
      importedUnionWord.token = none := by
    rw [Compose.run_on_regenerate stored, treeWords]
    decide +kernel
  have run := run_of_value given
  have reached : afterRequests importedNear ⟨.empty 5, .standard (congruential 1)⟩ = besideImport :=
    rfl
  obtain ⟨expression, found, adds, overwrites, _⟩ :=
    regeneration_only_adds_iff managed 5 (.standard (congruential 1)) reached run
  obtain rfl : expression = namedNear :=
    Entity.expression.inj (Option.some.inj (found.symm.trans stored))
  have listed : ['X'] ∈ namedNear.treeWords := by simp [treeWords]
  refine ⟨managed, by decide +kernel, _, run, fun onlyAdds => ?_, ?_, lost⟩
  · cases (adds.mp onlyAdds ['X'] listed unbound).symm.trans labelled
  · exact overwrites ['X'] listed unbound importedUnionWord labelled

end PriorArt
