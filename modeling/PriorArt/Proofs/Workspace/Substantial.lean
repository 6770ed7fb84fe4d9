import PriorArt.Proofs.Catalogue.SpelledWords
import PriorArt.Proofs.Query.GroupSearch
import PriorArt.Proofs.Query.ReadTerms
import PriorArt.Proofs.Workspace.EachStored
import PriorArt.Proofs.Workspace.Grounded

/-!
# Entities with something to search for

No line, import or composition stores a word with a blank definition or a group without codes: a
definition is put in brackets, and a group without codes is refused before it comes to be stored. So a
stored word searches for words and a stored group for codes, and the kind of an entity tells what it
searches for.
-/

namespace PriorArt

open Brackets

/-- A word with a definition that can be seen, or a group with codes. Nothing is asked of an
expression. -/
def Entity.IsSubstantial : Entity → Prop
  | .word entity => entity.definition.allBlank = false
  | .classification group => group.codes ≠ []
  | .expression _ => True

/-- Every stored word has a definition that can be seen, and every stored group has codes. -/
def Catalogue.IsSubstantial (catalogue : Catalogue) : Prop :=
  ∀ entity ∈ catalogue.entities, entity.IsSubstantial

/-- Brackets can be seen. -/
theorem visible_parenthesized (text : Text) : (parenthesized text).allBlank = false := rfl

namespace Catalogue

/-- Nothing is stored in the empty catalogue. -/
theorem substantial_empty (limit : Int) : (empty limit).IsSubstantial :=
  Each.empty limit

/-- No definition is blank where every word has something to search for. -/
theorem IsSubstantial.visible_definitions {catalogue : Catalogue}
    (substantial : catalogue.IsSubstantial) : catalogue.HasVisibleDefinitions :=
  fun _ stored => .inr (substantial _ stored)

end Catalogue

open Action

/-- Defining a word, unless the definition is blank without being empty, keeps what is stored
substantial. -/
theorem Action.substantial_define_word (token : Text) {definition : Text}
    (visible : definition = [] ∨ definition.allBlank = false) :
    Preserves Catalogue.IsSubstantial (defineWord token definition) := by
  refine each_define_word (fun id key variants => ?_)
  rcases visible with rfl | visible
  · exact visible_parenthesized token
  · simpa [Entity.IsSubstantial, Text.isEmpty_of_visible visible] using visible

/-- Codes that are read from an expression stay when they are made distinct. -/
theorem Expr.distinct_codes_filled {expr : Expr} {codes : List Text}
    (read : expr.codes = .ok codes) : distinctCodes codes ≠ [] := by
  obtain ⟨rfl, filled⟩ := Expr.codes_of_words read
  obtain ⟨code, listed⟩ := List.exists_mem_of_ne_nil _ filled
  obtain ⟨⟨written, _, rfl⟩, some⟩ := mem_distinctCodes.mp listed
  exact List.ne_nil_of_mem
    (mem_distinctCodes.mpr ⟨⟨_, listed, (Text.trimmed_trim written).trim⟩, some⟩)

/-- What a line defines is substantial. -/
theorem Definition.substantial {before : Catalogue} {line : Text} {definition : Definition}
    (defines : Workbook.definitionOf before line = some definition) (drawn : Text) :
    (definition.entity before drawn).IsSubstantial := by
  cases definition with
  | group name codes =>
    obtain ⟨statement, _, _, _, read⟩ := Workbook.defines_group_iff.mp defines
    exact Expr.distinct_codes_filled read
  | word name linked => exact visible_parenthesized _
  | expression name linked => trivial

/-- A request that stores no entity of one's own making, nor a word whose definition is blank without
being empty. -/
def Request.KeepsContent : Request → Prop
  | .operate (.put _) => False
  | .operate (.defineWord _ definition) => definition = [] ∨ definition.allBlank = false
  | _ => True

/-- Such a request is managed. -/
theorem Request.KeepsContent.managed {request : Request} (keeps : request.KeepsContent) :
    request.IsManaged := by
  cases request with
  | operate operation =>
    cases operation with
    | put entity => exact keeps
    | erase id => trivial
    | defineWord token definition => trivial
    | wordForKey key variants label => trivial
  | _ => trivial

/-- Every such request leaves entities with something to search for. -/
theorem Request.substantial {request : Request} (keeps : request.KeepsContent) :
    Preserves Catalogue.IsSubstantial request.step := by
  have words : ∀ key variants label,
      Preserves Catalogue.IsSubstantial (wordForKey key variants label) :=
    each_word_for_key (fun _ _ _ _ _ _ => visible_parenthesized _)
  have expressions : ∀ label root,
      Preserves Catalogue.IsSubstantial (defineExpression label root) :=
    fun label root => each_define_expression (fun _ _ => trivial)
  refine request.preserves_by (fun line => ?_) (fun expand query => ?_)
    (fun _ => Composition.preserves (fun _ _ label root _ => expressions label root))
    (fun token => substantial_define_word token (.inr (visible_parenthesized token)))
    (fun _ _ substantial => substantial) each_take_id_for_label (fun operation same => ?_)
  · exact Workbook.each_line (fun before _ definition defines drawn =>
      Definition.substantial defines drawn)
  · refine Import.preserves_query (fun factors accepted factor listed => ?_)
    refine Import.preserves_factor words (fun span same => ?_) (fun expr _ _ _ _ _ => expressions _ _)
    subst same
    cases Query.plain_factors accepted _ listed with
    | codes plain =>
      refine Import.each_span (fun id token => ?_)
      rw [ClassEntity.ofCodes, plain.distinctCodes]
      exact plain.plain.filled
  · subst same
    cases operation with
    | put entity => exact keeps.elim
    | erase id => exact each_erase id
    | defineWord token definition => exact (substantial_define_word token keeps).discard
    | wordForKey key variants label => exact (words key variants label).discard

/-- After any such requests every stored entity has something to search for. -/
theorem substantial_after_requests {requests : List Request}
    (keep : ∀ request ∈ requests, request.KeepsContent) {start : Workspace}
    (substantial : start.catalogue.IsSubstantial) :
    (afterRequests requests start).catalogue.IsSubstantial :=
  preserved_after_requests (fun request listed => Request.substantial (keep request listed))
    substantial

/-- After any such requests, starting with nothing, words can be referred to by id or by token. -/
theorem spelled_alike_after_requests {requests : List Request}
    (keep : ∀ request ∈ requests, request.KeepsContent) (limit : Int) (tokens : TokenSource)
    {expr spelled : Expr}
    (spells : (afterRequests requests ⟨Catalogue.empty limit, tokens⟩).catalogue.SpellsWord expr
      spelled) :
    expr.ReadsAlike (afterRequests requests ⟨Catalogue.empty limit, tokens⟩).catalogue.meaning
      spelled :=
  spells.reads_alike
    (substantial_after_requests keep (Catalogue.substantial_empty limit)).visible_definitions

end PriorArt
