import PriorArt.Proofs.Query.ReadFactors
import PriorArt.Proofs.Statement.Parsed
import PriorArt.Proofs.Workspace.EachStored
import PriorArt.Proofs.Workspace.Grounded

/-!
# Stored trees without empty words

The words of a stored tree have characters. A line brings in identifiers, an import the words of its
query, and where a line names an expression or a composition takes one, the words come from a tree
that is stored.
-/

namespace PriorArt

open Action

/-- Every word of a tree has characters. -/
def Expr.IsLegible (expr : Expr) : Prop := ∀ text ∈ expr.words, text ≠ []

/-- The tree of an expression, if there is one, has no empty words. Nothing is asked of a word or of a
group. -/
def Entity.IsLegible : Entity → Prop
  | .expression entity => ∀ root, entity.root = some root → root.IsLegible
  | _ => True

/-- A stored tree has no empty words. -/
theorem Catalogue.Each.legible {catalogue : Catalogue} (each : catalogue.Each Entity.IsLegible)
    {entity : ExpressionEntity} (stored : .expression entity ∈ catalogue.entities) {root : Expr}
    (rooted : entity.root = some root) : root.IsLegible :=
  each _ stored root rooted

/-- Without empty words a tree has none when its names are resolved. -/
theorem Catalogue.Each.link {catalogue : Catalogue} (each : catalogue.Each Entity.IsLegible)
    {expr : Expr} (noReference : expr.references = []) (legible : expr.IsLegible) :
    (catalogue.link expr).IsLegible := by
  intro text inside
  rw [Catalogue.link, Expr.words_replaceWords _ noReference] at inside
  obtain ⟨word, listed, ofWord⟩ := List.mem_flatMap.mp inside
  unfold Catalogue.linkWord at ofWord
  split at ofWord
  · cases ofWord
  · split at ofWord
    · next root rooted =>
      obtain ⟨entity, stored, ofEntity⟩ := Catalogue.root_of_label rooted
      exact each.legible stored ofEntity text ofWord
    · rw [List.mem_singleton.mp ofWord]
      exact legible word listed

/-- What a line defines has no empty words. -/
theorem Definition.legible {before : Catalogue} (each : before.Each Entity.IsLegible) {line : Text}
    {definition : Definition} (defines : Workbook.definitionOf before line = some definition)
    (drawn : Text) : (definition.entity before drawn).IsLegible := by
  cases definition with
  | group name codes => trivial
  | word name linked => trivial
  | expression name linked =>
    rintro root rooted
    obtain ⟨statement, read, _, rfl⟩ := Workbook.linked_of_expression defines
    obtain rfl := Option.some.inj rooted
    exact each.link (Statement.references_nil read) (Statement.words_filled read)

namespace Import

/-- The words of an operand as it is stored are words of the operand. -/
theorem words_of_operand {expand : Bool} {expr : Expr} {before after : Workspace}
    {imported : Expr × List Entity}
    (run : runOn (importOperand expand expr) before = (.ok imported, after)) :
    ∀ text ∈ imported.1.words, text ∈ expr.words := by
  unfold importOperand at run
  split at run
  · obtain ⟨word, middle, _, given⟩ := run_on_bind_success run
    rw [← Except.ok.inj (Prod.mk.inj given).1]
    exact nofun
  · rw [← Except.ok.inj (Prod.mk.inj run).1]
    exact fun _ inside => inside

/-- The words of the expression for a factor are words of the factor. -/
theorem words_of_root {expand : Bool} {expr : Expr} {before after : Workspace}
    {imported : Expr × List Entity}
    (run : runOn (importRoot expand expr) before = (.ok imported, after)) :
    ∀ text ∈ imported.1.words, text ∈ expr.words := by
  unfold importRoot at run
  split at run
  · next distance left right =>
    obtain ⟨_, _, ofLeft, run⟩ := run_on_bind_success run
    obtain ⟨_, _, ofRight, run⟩ := run_on_bind_success run
    rw [← Except.ok.inj (Prod.mk.inj run).1]
    intro text
    simp only [Expr.words_proximity, List.mem_append]
    exact Or.imp (words_of_operand ofLeft text) (words_of_operand ofRight text)
  · next count first second third =>
    obtain ⟨_, _, ofFirst, run⟩ := run_on_bind_success run
    obtain ⟨_, _, ofSecond, run⟩ := run_on_bind_success run
    obtain ⟨_, _, ofThird, run⟩ := run_on_bind_success run
    rw [← Except.ok.inj (Prod.mk.inj run).1]
    intro text
    simp only [Expr.words_simultaneous, List.mem_append]
    exact Or.imp (Or.imp (words_of_operand ofFirst text) (words_of_operand ofSecond text))
      (words_of_operand ofThird text)
  · exact words_of_operand run

end Import

namespace Composition

/-- The operands of a composition have no empty words. -/
theorem Sources.legible {catalogue : Catalogue} (each : catalogue.Each Entity.IsLegible)
    {ids : List Text} {sources : List Entity} {operands : List Expr}
    (stored : Sources catalogue ids sources operands) :
    ∀ operand ∈ operands, operand.IsLegible := by
  induction stored with
  | none => nofun
  | @next id source operand ids sources operands found ofSource others inductionHypothesis =>
    refine List.forall_mem_cons.mpr ⟨?_, inductionHypothesis⟩
    cases source with
    | word word =>
      obtain rfl := Option.some.inj ofSource
      exact nofun
    | classification group =>
      obtain rfl := Option.some.inj ofSource
      exact nofun
    | expression expression => exact each.legible (List.mem_of_find?_eq_some found) ofSource

/-- A composed tree has no empty words. -/
theorem Makes.legible {catalogue : Catalogue} (each : catalogue.Each Entity.IsLegible)
    {composition : Composition} {label : Text} {root : Expr}
    (makes : Makes catalogue composition label root) : root.IsLegible := by
  obtain ⟨ids, sources, operands, stored, words, _⟩ := makes.leaves
  intro text inside
  rw [words] at inside
  obtain ⟨operand, listed, ofOperand⟩ := List.mem_flatMap.mp inside
  exact stored.legible each operand listed text ofOperand

end Composition

/-- Every managed request leaves stored trees without empty words. -/
theorem Request.legible {request : Request} (managed : request.IsManaged) :
    Preserves (Catalogue.Each Entity.IsLegible) request.step := by
  have words : ∀ key variants label,
      Preserves (Catalogue.Each Entity.IsLegible) (wordForKey key variants label) :=
    each_word_for_key (fun _ _ _ _ _ _ => trivial)
  have expressions : ∀ {label : Text} {root : Expr}, root.IsLegible →
      Preserves (Catalogue.Each Entity.IsLegible) (defineExpression label root) := by
    intro label root legible
    refine each_define_expression (fun id fits other rooted => ?_)
    exact Option.some.inj rooted ▸ legible
  have ownWords : ∀ token definition,
      Preserves (Catalogue.Each Entity.IsLegible) (defineWord token definition) :=
    fun token definition => each_define_word (fun _ _ _ => trivial)
  refine request.preserves_by (fun line => ?_) (fun expand query => ?_)
    (fun _ => Composition.preserves (fun _ each _ _ makes => expressions (makes.legible each)))
    (fun token => ownWords _ _) (fun _ _ each => each) each_take_id_for_label
    (fun operation same => ?_)
  · exact Workbook.each_line (fun before each definition defines drawn =>
      Definition.legible each defines drawn)
  · refine Import.preserves_query (fun factors accepted factor listed => ?_)
    refine Import.preserves_factor words (fun span _ => Import.each_span (fun _ _ => trivial))
      (fun expr isWords before imported after run => expressions (fun text inside => ?_))
    subst isWords
    cases Query.plain_factors accepted _ listed with
    | words plainTree => exact (plainTree.words text (Import.words_of_root run text inside)).filled
  · subst same
    cases operation with
    | put entity => exact managed.elim
    | erase id => exact each_erase id
    | defineWord token definition => exact (ownWords token definition).discard
    | wordForKey key variants label => exact (words key variants label).discard

/-- After any managed requests no stored tree has an empty word. -/
theorem legible_after_requests {requests : List Request}
    (managed : ∀ request ∈ requests, request.IsManaged) (limit : Int) (tokens : TokenSource) :
    (afterRequests requests ⟨Catalogue.empty limit, tokens⟩).catalogue.Each Entity.IsLegible :=
  preserved_after_requests (fun request listed => Request.legible (managed request listed))
    (.empty limit)

end PriorArt
