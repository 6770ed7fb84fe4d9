import PriorArt.Proofs.Import.TypedRoots
import PriorArt.Proofs.Workspace.IssuedIds

/-!
# Words under keys

An import stores a word under its key and defines it by the words of the key; a later import finds it
by the key again. A line of a workbook that defines the word anew leaves it its key. So what a word
under a key means depends on the last line that defined it: where there is none, it means its key, and
otherwise it means what that line says.
-/

namespace PriorArt

open Brackets Import Action

namespace Workbook

/-- The expression by which a line defines the word with an id, if it does not fail. -/
def definedWord? (before : Catalogue) (line : Text) (outcome : Except Failure Achievement)
    (id : Text) : Option Expr :=
  match definitionOf before line with
  | some (.word _ linked) => if outcome.toOption.bind (·.id?) = some id then some linked else none
  | _ => none

variable {line : Text} {before after : Catalogue} {outcome : Except Failure Achievement}

/-- The words behind a line are those before it, and one that the line defines in the place of a word,
which keeps its key, or without a key. -/
theorem LineEffect.words (effect : LineEffect line before outcome after)
    (indexed : before.IsIndexed) {word : WordEntity} (stored : .word word ∈ after.entities) :
    (definedWord? before line outcome word.id = none ∧ .word word ∈ before.entities) ∨
      ∃ linked, definedWord? before line outcome word.id = some linked ∧
        word.definition = parenthesized linked.text ∧
        (word.key ≠ [] → ∃ previous, .word previous ∈ before.entities ∧ previous.id = word.id ∧
          previous.key = word.key) := by
  cases effect with
  | kept nothing =>
    refine .inl ⟨?_, stored⟩
    rw [definedWord?, nothing]
  | refused definition defines failure =>
    refine .inl ⟨?_, definition.mem_of_mem_site stored⟩
    unfold definedWord?
    split
    · exact if_neg nofun
    · rfl
  | stored definition defines drawn query logical isDrawn reports =>
    have atSite := LineEffect.refused definition defines .noToken
    have distinct := (atSite.stable Catalogue.indexed_stable indexed).distinct
    have given := (definition.achievement_facts (definition.site before).1 query logical).1
    have sameId := (definition.entity_facts before drawn).1
    rcases (distinct.mem_store _ _).mp stored with same | ⟨earlier, different⟩
    · cases definition with
      | group name codes => cases same
      | expression name linked => cases same
      | word name linked =>
        obtain ⟨isDefined, sameKey⟩ := Definition.word_entity same.symm
        have wordId : word.id = ((Definition.word name linked).site before).1 :=
          (congrArg Entity.id same).trans sameId
        refine .inr ⟨linked, ?_, isDefined, fun filled => ?_⟩
        · rw [definedWord?, defines, wordId]
          exact if_pos given
        · rw [sameKey] at filled
          obtain ⟨previous, found, previousKey⟩ := Definition.keyAndVariants_filled filled
          refine ⟨previous, ?_, ?_, previousKey.trans sameKey.symm⟩
          · exact Definition.mem_of_mem_site _ (List.mem_of_find?_eq_some found)
          · exact (Catalogue.id_of_find found).trans wordId.symm
    · refine .inl ⟨?_, definition.mem_of_mem_site earlier⟩
      unfold definedWord?
      split
      · refine if_neg (fun same => different ?_)
        rw [sameId]
        exact (Option.some.inj (given.symm.trans same)).symm
      · rfl

/-- The id of a word that a line defines is issued. -/
theorem LineEffect.defined_issued (effect : LineEffect line before outcome after)
    (numbered : before.IsNumbered) {id : Text} {linked : Expr}
    (defined : definedWord? before line outcome id = some linked) : after.HasIssued .word id := by
  cases effect with
  | kept nothing =>
    rw [definedWord?, nothing] at defined
    cases defined
  | refused definition defines failure =>
    rw [definedWord?, defines] at defined
    cases definition with
    | word name linked => cases defined
    | group name codes => cases defined
    | expression name linked => cases defined
  | stored definition defines drawn query logical isDrawn reports =>
    rw [definedWord?, defines] at defined
    cases definition with
    | group name codes => cases defined
    | expression name linked => cases defined
    | word name linked =>
      dsimp only at defined
      split at defined
      · next given =>
        obtain rfl := Option.some.inj given
        have issued := Definition.site_issued (.word name linked) numbered
        refine issued.mono (Nat.le_of_eq ?_)
        rw [Definition.after, Catalogue.store_counters]
      · cases defined

end Workbook

/-- A line of a workbook, or an import without further spellings. -/
def Request.IsTyped : Request → Prop
  | line _ => True
  | importQuery expand _ => expand = false
  | _ => False

/-- The expression by which a request defines the word with an id. Only lines do. -/
def Request.definedWord? (request : Request) (before : Workspace) (id : Text) : Option Expr :=
  match request with
  | line text =>
    Workbook.definedWord? before.catalogue text (runOn (Workbook.processLine text) before).1 id
  | _ => none

/-- The expression by which requests in order defined the word with an id last. -/
def lastDefinition? (id : Text) : List Request → Workspace → Option Expr
  | [], _ => none
  | request :: rest, before =>
    (lastDefinition? id rest (runOn request.step before).2).or (request.definedWord? before id)

/-- The last of several requests comes before the others. -/
theorem last_definition_snoc (id : Text) (earlier : List Request) (request : Request)
    (start : Workspace) :
    lastDefinition? id (earlier ++ [request]) start =
      (request.definedWord? (afterRequests earlier start) id).or
        (lastDefinition? id earlier start) := by
  induction earlier generalizing start with
  | nil =>
    change (none : Option Expr).or (request.definedWord? start id) = _
    rw [Option.none_or, lastDefinition?, Option.or_none]
    rfl
  | cons first rest inductionHypothesis =>
    rw [List.cons_append, lastDefinition?, lastDefinition?, inductionHypothesis, Option.or_assoc]
    rfl

/-- A typed request is managed. -/
theorem Request.IsTyped.managed {request : Request} (typed : request.IsTyped) :
    request.IsManaged := by
  cases request with
  | operate operation => exact typed.elim
  | _ => exact trivial

/-- What defines a word under a key: the key as it was typed, or the last definition. -/
def definitionUnder (key : Text) : Option Expr → Text
  | none => typedDefinition key
  | some linked => parenthesized linked.text

/-- A word under a key, which is a union of plain words, and its definition. -/
structure WordEntity.IsUnderKey (word : WordEntity) (last : Option Expr) : Prop where
  key : ∃ texts, ArePlain texts ∧ word.key = Text.join '+' texts
  definition : word.definition = definitionUnder word.key last

/-- After requests each word under a key is defined by the key or by the last line that defined it, and
lines only defined words whose ids were given out. -/
structure RecordsWords (requests : List Request) (start : Workspace) : Prop where
  words : ∀ word, .word word ∈ (afterRequests requests start).catalogue.entities →
    word.key ≠ [] → word.IsUnderKey (lastDefinition? word.id requests start)
  issued : ∀ id linked, lastDefinition? id requests start = some linked →
    (afterRequests requests start).catalogue.HasIssued .word id

section Step

variable {earlier : List Request} {start : Workspace} (records : RecordsWords earlier start)
include records

/-- A line records the word that it defines. -/
theorem RecordsWords.line (grounded : (afterRequests earlier start).catalogue.IsGrounded)
    (text : Text) : RecordsWords (earlier ++ [.line text]) start := by
  have effect : Workbook.LineEffect text (afterRequests earlier start).catalogue
      (runOn (Workbook.processLine text) (afterRequests earlier start)).1
      (runOn (Workbook.processLine text) (afterRequests earlier start)).2.catalogue :=
    Workbook.line_effect text (afterRequests earlier start)
  have state : afterRequests (earlier ++ [.line text]) start =
      (runOn (Workbook.processLine text) (afterRequests earlier start)).2 := by
    rw [after_requests_append]
    exact run_on_discard ..
  constructor
  · intro word stored filled
    rw [state] at stored
    rw [last_definition_snoc]
    rcases effect.words grounded.indexed stored with
      ⟨kept, before⟩ | ⟨linked, defined, definition, ofKey⟩
    · rw [Request.definedWord?, kept, Option.none_or]
      exact records.words word before filled
    · rw [Request.definedWord?, defined, Option.some_or]
      refine ⟨?_, definition⟩
      obtain ⟨previous, before, sameId, sameKey⟩ := ofKey filled
      rw [← sameKey] at filled ⊢
      exact (records.words previous before filled).key
  · intro id linked last
    rw [last_definition_snoc] at last
    rw [state]
    rcases Option.or_eq_some_iff.mp last with defined | ⟨_, earlierDefinition⟩
    · exact effect.defined_issued grounded.numbered defined
    · exact (records.issued id linked earlierDefinition).mono
        (effect.counters_le grounded.numbered .word)

/-- An import without further spellings defines no word anew, and those that it adds were not defined
by lines. -/
theorem RecordsWords.importQuery (query : Text) :
    RecordsWords (earlier ++ [.importQuery false query]) start := by
  have adds := adds_typed_words query (afterRequests earlier start)
  have state : afterRequests (earlier ++ [.importQuery false query]) start =
      (runOn (Import.importQuery false query) (afterRequests earlier start)).2 := by
    rw [after_requests_append]
    exact run_on_discard ..
  have sameLast : ∀ id, lastDefinition? id (earlier ++ [.importQuery false query]) start =
      lastDefinition? id earlier start := fun id => last_definition_snoc ..
  constructor
  · intro word stored filled
    rw [state] at stored
    rw [sameLast]
    rcases adds.words word stored with before | ⟨fresh, typed⟩
    · exact records.words word before filled
    · have undefined : lastDefinition? word.id earlier start = none := by
        by_contra defined
        obtain ⟨linked, last⟩ := Option.ne_none_iff_exists'.mp defined
        exact fresh (records.issued word.id linked last)
      rw [undefined]
      exact ⟨typed.key, typed.definition⟩
  · intro id linked last
    rw [sameLast] at last
    rw [state]
    exact (records.issued id linked last).mono (adds.counters .word)

end Step

/-- Typed requests on an empty catalogue record the words. -/
theorem records_words (limit : Int) (tokens : TokenSource) (requests : List Request)
    (typed : ∀ request ∈ requests, request.IsTyped) :
    RecordsWords requests ⟨Catalogue.empty limit, tokens⟩ := by
  induction requests using List.reverseRecOn with
  | nil => exact ⟨nofun, nofun⟩
  | append_singleton earlier request inductionHypothesis =>
    obtain ⟨typedEarlier, typedLast⟩ := List.forall_mem_append.mp typed
    have records := inductionHypothesis typedEarlier
    have grounded := grounded_after_requests (fun other inside =>
      (typedEarlier other inside).managed) limit tokens
    have typedRequest := typedLast request (List.mem_singleton_self request)
    cases request with
    | line text => exact records.line grounded text
    | importQuery expand query =>
      obtain rfl : expand = false := typedRequest
      exact records.importQuery query
    | _ => exact typedRequest.elim

/-- After any lines and imports without further spellings on an empty catalogue, a word under a key is
defined by the words of the key as they were typed, or by the last line that defined it. References to
it are written as its definition. It means its key exactly if no line defined it, or if the last line
that did so gave it the words of its key. -/
theorem word_means_key_iff (limit : Int) (tokens : TokenSource) (requests : List Request)
    (typed : ∀ request ∈ requests, request.IsTyped) (word : WordEntity) :
    let start : Workspace := ⟨Catalogue.empty limit, tokens⟩
    let final := (afterRequests requests start).catalogue
    .word word ∈ final.entities → word.key ≠ [] →
      word.definition = definitionUnder word.key (lastDefinition? word.id requests start) ∧
      final.meaning.reference word.id = .ofTrimmed word.content ∧
      (word.MeansItsKey ↔ ∀ linked, lastDefinition? word.id requests start = some linked →
        SameWords (strip (parenthesized linked.text)) word.key) := by
  intro start final stored filled
  have underKey := (records_words limit tokens requests typed).words word stored filled
  have grounded : final.IsGrounded :=
    grounded_after_requests (fun request inside => (typed request inside).managed) limit tokens
  refine ⟨underKey.definition, ?_, ?_⟩
  · exact Catalogue.reference_parts_word (grounded.indexed.distinct.find stored)
  · cases last : lastDefinition? word.id requests start with
    | none =>
      rw [last] at underKey
      exact iff_of_true (WordEntity.IsTyped.means_key ⟨underKey.key, underKey.definition⟩) nofun
    | some linked =>
      rw [last] at underKey
      rw [WordEntity.MeansItsKey, underKey.definition, definitionUnder]
      constructor
      · intro means other same
        rw [← Option.some.inj same]
        exact means
      · intro all
        exact all linked rfl

/-- A query is imported, a line defines its word by another one, and the query is imported again. -/
def redefined : List Request :=
  [.importQuery false ['X', '/', 'T', 'X'], .line ['X', '=', 'Y'],
    .importQuery false ['X', '/', 'T', 'X']]

/-- The word of the query behind the line. -/
def redefinedWord : WordEntity :=
  ⟨['W', 'B', '-', '0', '0', '0', '1'], ['X'], ['X'], ['(', 'Y', ')'], ['X'], [['X']]⟩

/-- The word is still found under its key but no longer means it, and the query that is imported again
is written with the other word. -/
theorem word_means_key_iff_redefined :
    (∀ request ∈ redefined, request.IsTyped) ∧
      let final := (afterRequests redefined
        ⟨Catalogue.empty 5, TokenSource.standard (congruential 1)⟩).catalogue
      .word redefinedWord ∈ final.entities ∧ redefinedWord.key ≠ [] ∧
        final.wordOfKey? redefinedWord.key = some redefinedWord ∧
        ¬ redefinedWord.MeansItsKey ∧
        final.query (.reference ['E', 'B', '-', '0', '0', '0', '2']) = ['Y', '/', 'T', 'X'] := by
  have typed : ∀ request ∈ redefined, request.IsTyped := by
    simp [redefined, Request.IsTyped]
  have stored : .word redefinedWord ∈ (afterRequests redefined
      ⟨Catalogue.empty 5, TokenSource.standard (congruential 1)⟩).catalogue.entities :=
    List.mem_cons_self
  have last : lastDefinition? redefinedWord.id redefined
      ⟨Catalogue.empty 5, TokenSource.standard (congruential 1)⟩ = some (.word ['Y']) := rfl
  obtain ⟨_, _, meansIff⟩ := word_means_key_iff 5 (TokenSource.standard (congruential 1)) redefined
    typed redefinedWord stored nofun
  refine ⟨typed, stored, nofun, rfl, fun means => ?_, rfl⟩
  have same := meansIff.mp means (.word ['Y']) last ['Y']
  exact absurd (same.mp (by decide)) (by decide)

end PriorArt
