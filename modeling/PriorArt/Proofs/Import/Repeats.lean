import PriorArt.Proofs.Workspace.Writes
import PriorArt.Proofs.Query.ReadFactors

/-!
# Steps that can be repeated

The search for a word or for a group of codes can be repeated: where it stored something, it finds
this the next time, and where it was refused for want of room, it is refused again. So it has the
same outcome and changes nothing, also after the catalogue has grown in the meantime. Steps that are
put together from such steps can be repeated as well.
-/

namespace PriorArt

namespace Action

variable {α β : Type}

/-- A step that adds to the catalogue, leaves every entity as it is, and can be repeated, unless it
failed for want of a token. -/
structure Repeats (step : Action α) : Prop where
  indexed : Preserves Catalogue.IsIndexed step
  grows : ∀ {before : Workspace}, before.catalogue.IsIndexed →
    before.catalogue.GrowsTo (runOn step before).2.catalogue
  keeps : ∀ (before : Workspace) id entity, before.catalogue.find? id = some entity →
    (runOn step before).2.catalogue.find? id = some entity
  again : ∀ {before : Workspace} (later : Workspace), before.catalogue.IsIndexed →
    (runOn step before).1 ≠ .error .noToken →
    (runOn step before).2.catalogue.GrowsTo later.catalogue →
    runOn step later = ((runOn step before).1, later)

/-- The catalogue is indexed and has grown after a step that can be repeated. -/
theorem Repeats.run_grows {step : Action α} (repeats : Repeats step) {before after : Workspace}
    {outcome : Except Failure α} (indexed : before.catalogue.IsIndexed)
    (run : runOn step before = (outcome, after)) :
    after.catalogue.IsIndexed ∧ before.catalogue.GrowsTo after.catalogue := by
  have indexedAfter := repeats.indexed before indexed
  have grows := repeats.grows indexed
  rw [run] at indexedAfter grows
  exact ⟨indexedAfter, grows⟩

/-- A step that can be repeated leaves what was found as it is. -/
theorem Repeats.run_keeps {step : Action α} (repeats : Repeats step) {before after : Workspace}
    {outcome : Except Failure α} (run : runOn step before = (outcome, after)) {id : Text}
    {entity : Entity} (found : before.catalogue.find? id = some entity) :
    after.catalogue.find? id = some entity := by
  have kept := repeats.keeps before id entity found
  rwa [run] at kept

/-- A step that can be repeated has the same outcome again, and changes nothing. -/
theorem Repeats.run_again {step : Action α} (repeats : Repeats step)
    {before after later : Workspace} {outcome : Except Failure α}
    (indexed : before.catalogue.IsIndexed) (run : runOn step before = (outcome, after))
    (noToken : outcome ≠ .error .noToken) (grown : after.catalogue.GrowsTo later.catalogue) :
    runOn step later = (outcome, later) := by
  have again := repeats.again later indexed
  rw [run] at again
  exact again noToken grown

/-- Giving a value can be repeated. -/
theorem repeats_pure (value : α) : Repeats (pure value) where
  indexed := preserves_pure value
  grows _ := .refl _
  keeps _ _ _ found := found
  again _ _ _ _ := rfl

/-- Two steps can be repeated if each of them can. -/
theorem Repeats.bind {step : Action α} {next : α → Action β} (first : Repeats step)
    (second : ∀ value, Repeats (next value)) : Repeats (step >>= next) where
  indexed := first.indexed.bind (fun value => (second value).indexed)
  grows := by
    intro before indexed
    have grows := first.grows indexed
    have indexedMiddle := first.indexed before indexed
    rw [run_on_bind]
    rcases run : runOn step before with ⟨outcome, middle⟩
    rw [run] at grows indexedMiddle
    cases outcome with
    | error failure => exact grows
    | ok value => exact grows.trans indexedMiddle.distinct ((second value).grows indexedMiddle)
  keeps := by
    intro before id entity found
    have kept := first.keeps before id entity found
    rw [run_on_bind]
    rcases run : runOn step before with ⟨outcome, middle⟩
    rw [run] at kept
    cases outcome with
    | error failure => exact kept
    | ok value => exact (second value).keeps middle id entity kept
  again := by
    intro before later indexed noToken grown
    have indexedMiddle := first.indexed before indexed
    have again := first.again later indexed
    rw [run_on_bind] at noToken grown ⊢
    rw [run_on_bind]
    rcases run : runOn step before with ⟨outcome, middle⟩
    rw [run] at indexedMiddle noToken grown again
    cases outcome with
    | error failure => rw [again (by simpa using noToken) grown]
    | ok value =>
      have growsMiddle := (second value).grows indexedMiddle
      have indexedAfter := (second value).indexed middle indexedMiddle
      rw [again nofun (growsMiddle.trans indexedAfter.distinct grown)]
      exact (second value).again later indexedMiddle noToken grown

variable {before : Workspace}

/-- Giving out an id lets the catalogue grow. -/
theorem grows_taken (kind : EntityKind) :
    before.catalogue.GrowsTo (before.catalogue.takeId kind).2 :=
  Catalogue.GrowsTo.of_contents rfl rfl

/-- A catalogue grows when an entity is stored under the next id, if there is room for it and, in
the case of a word, no other word has its key. -/
theorem grows_new (indexed : before.catalogue.IsIndexed) {kind : EntityKind} (entity : Entity)
    (sameId : entity.id = (before.catalogue.takeId kind).1)
    (room : before.catalogue.isFull entity.kind = false)
    (unkeyed : ∀ word, entity = .word word → before.catalogue.wordOfKey? word.key = none) :
    before.catalogue.GrowsTo ((before.catalogue.takeId kind).2.store entity) := by
  have indexedTaken := indexed.taken kind
  have filled : entity.id ≠ [] := by
    rw [sameId]
    exact Catalogue.take_id_filled before.catalogue kind
  exact (grows_taken kind).trans indexedTaken.distinct
    (.of_fresh indexedTaken (Catalogue.find_next_none sameId) filled room unkeyed)

/-- What a search adds to a catalogue: nothing, an id that is given out, or an entity under the next
id, if there is room for it and, in the case of a word, no other word has its key. -/
inductive Adds (before : Catalogue) : Catalogue → Prop where
  | nothing : Adds before before
  | taken (kind : EntityKind) : Adds before (before.takeId kind).2
  | new {kind : EntityKind} (entity : Entity) (sameId : entity.id = (before.takeId kind).1)
      (room : before.isFull entity.kind = false)
      (unkeyed : ∀ word, entity = .word word → before.wordOfKey? word.key = none) :
      Adds before ((before.takeId kind).2.store entity)

/-- A catalogue stays indexed with what is added. -/
theorem Adds.indexed {after : Catalogue} (adds : Adds before.catalogue after)
    (indexed : before.catalogue.IsIndexed) : after.IsIndexed := by
  cases adds with
  | nothing => exact indexed
  | taken kind => exact indexed.taken kind
  | @new kind entity sameId room unkeyed =>
    exact Catalogue.indexed_stable.store entity (indexed.taken kind)

/-- A catalogue grows with what is added. -/
theorem Adds.grows {after : Catalogue} (adds : Adds before.catalogue after)
    (indexed : before.catalogue.IsIndexed) : before.catalogue.GrowsTo after := by
  cases adds with
  | nothing => exact .refl _
  | taken kind => exact grows_taken kind
  | new entity sameId room unkeyed => exact grows_new indexed entity sameId room unkeyed

/-- What is found stays as it is when something is added. -/
theorem Adds.keeps {after : Catalogue} (adds : Adds before.catalogue after) {id : Text}
    {entity : Entity} (found : before.catalogue.find? id = some entity) :
    after.find? id = some entity := by
  cases adds with
  | nothing => exact found
  | taken kind => exact found
  | new other sameId room unkeyed =>
    exact Catalogue.find_store_fresh (Catalogue.find_next_none sameId) found

/-- A step that only adds can be repeated if it has the same outcome again and then changes
nothing. -/
theorem repeats_of_adds {step : Action α}
    (adds : ∀ before : Workspace, Adds before.catalogue (runOn step before).2.catalogue)
    (again : ∀ {before : Workspace} (later : Workspace), before.catalogue.IsIndexed →
      (runOn step before).1 ≠ .error .noToken →
      (runOn step before).2.catalogue.GrowsTo later.catalogue →
      runOn step later = ((runOn step before).1, later)) : Repeats step where
  indexed before indexed := (adds before).indexed indexed
  grows indexed := (adds _).grows indexed
  keeps before _ _ found := (adds before).keeps found
  again := again

/-- A word that was stored under a new key is found under it. -/
theorem found_by_key (indexed : before.catalogue.IsIndexed) (word : WordEntity)
    (sameId : word.id = (before.catalogue.takeId .word).1) (filled : word.key ≠ []) :
    ((before.catalogue.takeId .word).2.store (.word word)).wordOfKey? word.key = some word := by
  have fresh : (before.catalogue.takeId .word).2.find? (Entity.word word).id = none :=
    Catalogue.find_next_none sameId
  have idFilled : (Entity.word word).id ≠ [] := by
    rw [show (Entity.word word).id = word.id from rfl, sameId]
    exact Catalogue.take_id_filled before.catalogue .word
  have followed := ((indexed.taken .word).leads .wordKeys).follow_store_fresh fresh idFilled
    word.key
  rw [if_pos ⟨rfl, filled⟩] at followed
  exact congrArg (Option.bind · Entity.word?) followed

/-- The word for a key is found under it when the search is over. -/
theorem WordRun.stored {key : Text} {variants : List Text} {label : Text} {after : Workspace}
    {word : WordEntity} (run : WordRun key variants label before (.ok word) after)
    (indexed : before.catalogue.IsIndexed) :
    key ≠ [] ∧ after.catalogue.wordOfKey? key = some word := by
  cases run with
  | found filled stored => exact ⟨filled, stored⟩
  | @new filled absent room tokens token free tokenFilled _ same =>
    have sameKey : word.key = key := by rw [same]; rfl
    have stored := found_by_key indexed word (congrArg WordEntity.id same) (by rwa [sameKey])
    exact ⟨filled, by rwa [sameKey] at stored⟩

/-- The search for the word under a key only adds, and the word it adds is the only one under the
key. -/
theorem WordRun.adds {key : Text} {variants : List Text} {label : Text} {after : Workspace}
    {outcome : Except Failure WordEntity} (run : WordRun key variants label before outcome after) :
    Adds before.catalogue after.catalogue := by
  cases run with
  | noKey empty => exact .nothing
  | found filled stored => exact .nothing
  | full filled absent full => exact .nothing
  | noToken tokens => exact .taken .word
  | @new filled absent room tokens token free tokenFilled word same =>
    refine .new (.word word) (congrArg WordEntity.id same) room ?_
    rintro word isWord
    obtain rfl := Entity.word.inj isWord
    rw [same]
    exact absent

/-- The search for the word under a key can be repeated. -/
theorem repeats_word_for_key (key : Text) (variants : List Text) (label : Text) :
    Repeats (wordForKey key variants label) := by
  refine repeats_of_adds (fun before => (word_run variants label before key rfl).adds) ?_
  intro before later indexed noToken grown
  rcases run : runOn (wordForKey key variants label) before with ⟨outcome, after⟩
  rw [run] at noToken grown
  have ofRun := word_run variants label before key run
  cases outcome with
  | ok word =>
    obtain ⟨filled, stored⟩ := ofRun.stored indexed
    refine run_on_word_found variants label later filled ?_
    rw [grown.keys key (.inl (by simp [stored])), stored]
  | error failure =>
    cases ofRun with
    | noKey empty =>
      subst empty
      exact run_on_word_no_key variants label later
    | full filled absent full =>
      rw [run_on_word_full variants label later filled
        ((grown.keys key (.inr full)).trans absent) (grown.full full), grown.limit]
    | noToken tokens => exact absurd rfl noToken

/-- A group that was stored for codes that no other group has is found by them. -/
theorem found_by_codes {group : ClassEntity} {codes : List Text}
    (sameId : group.id = (before.catalogue.takeId .classification).1) (hasCodes : group.codes = codes)
    (absent : before.catalogue.classOfCodes? codes = none) :
    ((before.catalogue.takeId .classification).2.store (.classification group)).classOfCodes? codes =
      some group := by
  have fresh : (before.catalogue.takeId .classification).2.find?
      (Entity.classification group).id = none := Catalogue.find_next_none sameId
  have absentTaken : (before.catalogue.takeId .classification).2.groups.find?
      (fun other => other.codes = codes) = none := absent
  change ((before.catalogue.takeId .classification).2.store
    (.classification group)).groups.find? _ = _
  rw [Catalogue.groups_store_fresh fresh, List.find?_append, absentTaken]
  simp [Entity.classification?, hasCodes]

end Action

namespace Import

open Action

/-- The import of a word can be repeated. -/
theorem repeats_import_word (expand : Bool) (expr : Expr) : Repeats (importWord expand expr) :=
  repeats_word_for_key _ _ _

/-- The import of an operand can be repeated. -/
theorem repeats_import_operand (expand : Bool) (expr : Expr) :
    Repeats (importOperand expand expr) := by
  unfold importOperand
  split
  · exact (repeats_import_word expand expr).bind (fun word => repeats_pure _)
  · exact repeats_pure _

/-- The import of the expression for a factor can be repeated. -/
theorem repeats_import_root (expand : Bool) (expr : Expr) : Repeats (importRoot expand expr) := by
  unfold importRoot
  split
  · refine (repeats_import_operand expand _).bind (fun left => ?_)
    exact (repeats_import_operand expand _).bind (fun right => repeats_pure _)
  · refine (repeats_import_operand expand _).bind (fun first => ?_)
    refine (repeats_import_operand expand _).bind (fun second => ?_)
    exact (repeats_import_operand expand _).bind (fun third => repeats_pure _)
  · exact repeats_import_operand expand _

/-- The group for a span of distinct codes is found by them when the search is over. -/
theorem SpanRun.stored {span : CodeSpan} {before after : Workspace} {group : ClassEntity}
    (run : SpanRun span before (.ok group) after) (distinct : distinctCodes span.codes = span.codes) :
    after.catalogue.classOfCodes? span.codes = some group := by
  cases run with
  | found stored => exact stored
  | @new absent room tokens token free tokenFilled _ same =>
    have hasCodes : group.codes = span.codes := by rw [same]; exact distinct
    exact found_by_codes (congrArg ClassEntity.id same) hasCodes absent

/-- The import of a span only adds. -/
theorem SpanRun.adds {span : CodeSpan} {before after : Workspace}
    {outcome : Except Failure ClassEntity} (run : SpanRun span before outcome after) :
    Adds before.catalogue after.catalogue := by
  cases run with
  | found stored => exact .nothing
  | full absent full => exact .nothing
  | noToken tokens => exact .taken .classification
  | @new absent room tokens token free tokenFilled group same =>
    exact .new (.classification group) (congrArg ClassEntity.id same) room nofun

/-- The import of a span of distinct codes can be repeated. -/
theorem repeats_import_span {span : CodeSpan} (distinct : distinctCodes span.codes = span.codes) :
    Repeats (importSpan span) := by
  refine repeats_of_adds (fun before => (span_run span before rfl).adds) ?_
  intro before later indexed noToken grown
  rcases run : runOn (importSpan span) before with ⟨outcome, after⟩
  rw [run] at noToken grown
  have ofRun := span_run span before run
  cases outcome with
  | ok group =>
    have stored := ofRun.stored distinct
    refine run_on_span_found span later ?_
    rw [grown.codes span.codes (.inl (by simp [stored])), stored]
  | error failure =>
    cases ofRun with
    | full absent full =>
      rw [run_on_span_full span later ((grown.codes span.codes (.inr full)).trans absent)
        (grown.full full), grown.limit]
    | noToken tokens => exact absurd rfl noToken

end Import

end PriorArt
