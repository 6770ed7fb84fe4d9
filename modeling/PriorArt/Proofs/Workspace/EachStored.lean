import PriorArt.Proofs.Workspace.Requests

/-!
# What every stored entity has

A property of all stored entities holds behind a step if the step stores only entities that have it,
since giving out ids, drawing tokens and erasing store nothing. So of each of the shared steps it has
to be known what it stores, and of a request nothing but the lines, spans and trees that it brings in.
-/

namespace PriorArt

/-- Every stored entity has a property. -/
def Catalogue.Each (good : Entity → Prop) (catalogue : Catalogue) : Prop :=
  ∀ entity ∈ catalogue.entities, good entity

namespace Catalogue.Each

variable {good : Entity → Prop} {before after : Catalogue}

/-- Nothing is stored in the empty catalogue. -/
theorem empty (limit : Int) : (Catalogue.empty limit).Each good := nofun

/-- What every entity has, it has where no entity is stored that was not before. -/
theorem anti (each : before.Each good)
    (earlier : ∀ entity ∈ after.entities, entity ∈ before.entities) : after.Each good :=
  fun entity stored => each entity (earlier entity stored)

/-- An entity that has the property may be stored. -/
theorem store (each : before.Each good) {entity : Entity} (own : good entity) :
    (before.store entity).Each good := by
  intro other stored
  rw [store_entities] at stored
  rcases mem_replaceIn stored with rfl | earlier
  · exact own
  · exact each other earlier

/-- An id may be given out. -/
theorem at_label (each : before.Each good) (label : Text) (kind : EntityKind) :
    (before.takeIdForLabel label kind).2.Each good := by
  have same : (before.takeIdForLabel label kind).2.entities = before.entities :=
    congrArg Contents.entities (take_id_for_label_contents before label kind)
  exact each.anti (fun entity stored => same ▸ stored)

end Catalogue.Each

namespace Action

variable {good : Entity → Prop}

/-- Storing an entity that has the property. -/
theorem each_put {entity : Entity} (own : good entity) :
    Preserves (Catalogue.Each good) (put entity) :=
  fun _ each => put_preserves each (fun _ => each.store own)

/-- Giving out the id for a label. -/
theorem each_take_id_for_label (label : Text) (kind : EntityKind) :
    Preserves (Catalogue.Each good) (takeIdForLabel label kind) :=
  fun _ each => each.at_label label kind

/-- Erasing. -/
theorem each_erase (id : Text) : Preserves (Catalogue.Each good) (erase id) :=
  fun _ each => each.anti (fun _ => Catalogue.mem_of_mem_erase)

/-- Defining a word. -/
theorem each_define_word {token definition : Text}
    (own : ∀ id key variants, good (.word ⟨id, token, token,
      if definition.isEmpty then Brackets.parenthesized token else definition, key, variants⟩)) :
    Preserves (Catalogue.Each good) (defineWord token definition) := by
  refine (each_take_id_for_label token .word).bind (fun id => ?_)
  refine preserves_catalogue.bind (fun catalogue => ?_)
  exact (each_put (own ..)).bind (fun _ => preserves_pure _)

/-- Finding or storing the word under a key. -/
theorem each_word_for_key
    (own : ∀ id label token inner key variants,
      good (.word ⟨id, label, token, Brackets.parenthesized inner, key, variants⟩))
    (key : Text) (variants : List Text) (label : Text) :
    Preserves (Catalogue.Each good) (wordForKey key variants label) := by
  intro before each
  rcases run : runOn (wordForKey key variants label) before with ⟨outcome, after⟩
  cases word_run variants label before key run with
  | noKey empty => exact each
  | found filled stored => exact each
  | full filled absent full => exact each
  | noToken tokens => exact each
  | @new filled absent room tokens token free tokenFilled word same =>
    have taken : (before.catalogue.takeId .word).2.Each good := each
    exact taken.store (same ▸ own ..)

/-- Storing an expression under a label. -/
theorem each_define_expression {label : Text} {root : Expr}
    (own : ∀ id fits, good (.expression ⟨id, label, some root, fits⟩)) :
    Preserves (Catalogue.Each good) (defineExpression label root) := by
  refine (each_take_id_for_label label .expression).bind (fun id => ?_)
  have seen : Preserves (Catalogue.Each good) (fitsNearness root) := fun _ each => each
  exact seen.bind (fun fits => (each_put (own ..)).bind (fun _ => preserves_pure _))

end Action

open Action

/-- A line of a workbook, if what it defines has the property. -/
theorem Workbook.each_line {good : Entity → Prop} {line : Text}
    (own : ∀ before : Catalogue, before.Each good → ∀ definition,
      definitionOf before line = some definition → ∀ drawn, good (definition.entity before drawn)) :
    Preserves (Catalogue.Each good) (processLine line) := by
  intro before each entity stored
  rcases (line_effect line before).mem_entities stored with
    earlier | ⟨definition, drawn, defines, rfl⟩
  · exact each entity earlier
  · exact own before.catalogue each definition defines drawn

/-- The import of a span, if the group for it has the property. -/
theorem Import.each_span {good : Entity → Prop} {span : CodeSpan}
    (own : ∀ id token, good (.classification (ClassEntity.ofCodes id
      (span.codes.headD []) token span.codes))) :
    Preserves (Catalogue.Each good) (importSpan span) := by
  intro before each
  rcases run : runOn (importSpan span) before with ⟨outcome, after⟩
  cases span_run span before run with
  | found stored => exact each
  | full absent full => exact each
  | noToken tokens => exact each
  | @new absent room tokens token free tokenFilled group same =>
    have taken : (before.catalogue.takeId .classification).2.Each good := each
    exact taken.store (same ▸ own ..)

end PriorArt
