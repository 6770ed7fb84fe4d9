import PriorArt.Proofs.Expr.Schema
import PriorArt.Proofs.Reading

/-!
# Expressions and their documents

Writing an expression and reading the document gives the expression back. Reading any other document
succeeds exactly if the document follows the schema, and the expression is then written as the same
document, but for the members outside the schema and a mode that was left out.

The reader puts an expression together from the members of an object and from the readings of its
operands. What it asks of them is said once, for both directions.
-/

namespace PriorArt

open Reading

namespace Json

/-- What holds of a document if it holds of the items of every array among its members holds of
every document. -/
theorem induction_on_items {motive : Json → Prop}
    (step : ∀ document, (∀ key items, document.get? key = some (.arr items) →
      ∀ item ∈ items, motive item) → motive document) (document : Json) : motive document := by
  apply step
  intro key items found item inside
  have smaller : sizeOf item < sizeOf document := by
    cases document with
    | obj members =>
      obtain ⟨front, back, rfl, _⟩ := List.lookup_eq_some_iff.mp found
      have ofItem := List.sizeOf_lt_of_mem inside
      have ofMember := List.sizeOf_lt_of_mem
        (List.mem_append_right front (List.mem_cons_self (a := (key.toList, arr items)) (l := back)))
      simp only [Prod.mk.sizeOf_spec, arr.sizeOf_spec] at ofMember
      rw [obj.sizeOf_spec]
      omega
    | _ => cases found
  exact induction_on_items step item
termination_by sizeOf document

end Json

namespace Expr

/-- A type names a form exactly if it is the name of the form. -/
theorem of_type_iff {document : Json} {form : Form} :
    Form.ofType? (memberOrNull "type" document) = some form ↔ IsOfForm document form := by
  have named : ∀ type, Form.ofType? type = some form ↔ type = Json.ofString form.name := by
    intro type
    constructor
    · intro found
      cases type with
      | str text =>
        have same : form.name.toList = text := by simpa using List.find?_some found
        rw [← same]
        rfl
      | _ => cases found
    · rintro rfl
      cases form <;> rfl
  rw [named, memberOrNull, IsOfForm]
  cases document.get? "type" with
  | some type => simp
  | none => simp [Json.ofString]

/-- The operands that an object gives. -/
def operandsOf (document : Json) : Option (List Json) :=
  match document.get? "children" with
  | some (.arr items) => some items
  | _ => none

/-- Several documents are read one by one. -/
theorem readings_eq (items : List Json) : readings items = items.map ofJson := by
  induction items with
  | nil => rfl
  | cons item rest inductionHypothesis => rw [readings, inductionHypothesis, List.map_cons]

/-- An object is read by putting together the readings of its operands. -/
theorem of_json_object (members : List (Text × Json)) :
    ofJson (.obj members) =
      assemble (.obj members) ((operandsOf (.obj members)).map (List.map ofJson)) := by
  have ofOperands : operandReadings? members =
      (operandsOf (.obj members)).map (List.map ofJson) := by
    induction members with
    | nil => rfl
    | cons member rest inductionHypothesis =>
      obtain ⟨key, value⟩ := member
      unfold operandsOf Json.get? at inductionHypothesis ⊢
      by_cases isChildren : key = "children".toList
      · subst isChildren
        cases value with
        | arr items => simp [operandReadings?, readings_eq]
        | _ => simp [operandReadings?]
      · have other : ("children".toList == key) = false := by
          simpa using fun same => isChildren same.symm
        cases value with
        | arr items =>
          simpa only [operandReadings?, if_neg isChildren, List.lookup_cons, other] using
            inductionHypothesis
        | _ =>
          simpa only [operandReadings?, if_neg isChildren, List.lookup_cons, other] using
            inductionHypothesis
  rw [ofJson, ofOperands]

/-- What the reader asks of an object and of the readings of its operands, and the expression that
it puts together from them. -/
inductive Assembled (document : Json) (operands : Option (List (Except FormatError Expr))) :
    Expr → Prop where
  | word {text : Text} (type : IsOfForm document .word)
      (token : document.get? "token" = some (.str text)) : Assembled document operands (.word text)
  | reference {text : Text} (type : IsOfForm document .reference)
      (id : document.get? "id" = some (.str text)) : Assembled document operands (.reference text)
  | logical {connective : Connective} {first : Expr} {others : List Expr}
      (type : IsOfForm document .logical)
      (op : document.get? "op" = some (.str [connective.sign]))
      (children : operands = some ((first :: others).map .ok)) :
      Assembled document operands (.logical connective first others)
  | proximity {distance : Distance} {left right : Expr} (type : IsOfForm document .proximity)
      (mode : document.get? "mode" = some (Json.ofString distance.unit.modeName))
      (count : document.get? "k" = some (.int distance.count))
      (children : operands = some [.ok left, .ok right]) :
      Assembled document operands (.proximity distance left right)
  | simultaneous {number : Nat} {first second third : Expr}
      (type : IsOfForm document .simultaneous)
      (mode : document.get? "mode" = some (Json.ofString "NNn") ∨ document.get? "mode" = none)
      (count : document.get? "k" = some (.int number))
      (children : operands = some [.ok first, .ok second, .ok third]) :
      Assembled document operands (.simultaneous number first second third)

/-- A member is there, or counts as null. -/
theorem member_or_null_iff {key : String} {document : Json} (value : Json) (filled : value ≠ .null) :
    memberOrNull key document = value ↔ document.get? key = some value := by
  unfold memberOrNull
  cases document.get? key with
  | some found => simp
  | none => simpa using fun same => filled same.symm

/-- A mode names a unit exactly if it is the name of the unit. -/
theorem of_mode_iff {mode : Json} {unit : DistanceUnit} :
    DistanceUnit.ofMode mode = .ok unit ↔ mode = Json.ofString unit.modeName := by
  constructor
  · intro named
    unfold DistanceUnit.ofMode at named
    split at named
    · next text =>
      split at named
      · next isWords => cases named; rw [isWords]; rfl
      · split at named
        · next isSentences => cases named; rw [isSentences]; rfl
        · cases named
    · cases named
  · rintro rfl
    cases unit <;> rfl

/-- A count is accepted exactly if it is a whole number that is not negative. -/
theorem distance_count_iff {document : Json} {number : Nat} :
    distanceCount (memberOrNull "k" document) = .ok number ↔
      document.get? "k" = some (.int number) := by
  rw [← member_or_null_iff (.int number) nofun]
  constructor
  · intro accepted
    unfold distanceCount at accepted
    split at accepted
    · next found => cases accepted; exact found
    · cases accepted
  · intro found
    rw [found]
    rfl

/-- A distance is read exactly if its mode and its count are. -/
theorem distance_iff {document : Json} {distance : Distance} :
    Distance.ofJson (memberOrNull "mode" document) (memberOrNull "k" document) = .ok distance ↔
      document.get? "mode" = some (Json.ofString distance.unit.modeName) ∧
        document.get? "k" = some (.int distance.count) := by
  rw [Distance.ofJson, bind_ok_iff, ← member_or_null_iff (Json.ofString _) nofun]
  constructor
  · rintro ⟨unit, named, read⟩
    obtain ⟨number, accepted, given⟩ := (bind_ok_iff ..).mp read
    cases given
    exact ⟨of_mode_iff.mp named, distance_count_iff.mp accepted⟩
  · rintro ⟨named, accepted⟩
    refine ⟨distance.unit, of_mode_iff.mpr named, ?_⟩
    exact (bind_ok_iff ..).mpr ⟨distance.count, distance_count_iff.mpr accepted, rfl⟩

/-- A sign names a set operator exactly if it is the sign of the operator. -/
theorem connective_of_iff {document : Json} {connective : Connective} :
    connectiveOf (memberOrNull "op" document) = .ok connective ↔
      document.get? "op" = some (.str [connective.sign]) := by
  rw [← member_or_null_iff (.str _) nofun]
  constructor
  · intro named
    unfold connectiveOf at named
    split at named
    · next found => cases named; exact found
    · next found => cases named; exact found
    · cases named
  · intro found
    rw [found]
    cases connective <;> rfl

/-- The mode of the three-operand form is accepted exactly if it counts words or was left out. -/
theorem check_word_distance_iff {document : Json} :
    checkWordDistance document = .ok () ↔
      document.get? "mode" = some (Json.ofString "NNn") ∨ document.get? "mode" = none := by
  unfold checkWordDistance
  cases document.get? "mode" with
  | none => simp
  | some mode =>
    have named : DistanceUnit.ofMode mode = .ok .words ↔ mode = Json.ofString "NNn" := of_mode_iff
    simp only [Option.some.injEq, reduceCtorEq, or_false, ← named]
    split
    · next isWords => simp [isWords]
    · next notWords => exact iff_of_false nofun notWords

/-- Readings of operands succeed together exactly if each of them does. -/
theorem all_readings_iff {readings : List (Except FormatError Expr)} {exprs : List Expr} :
    readings.mapM id = .ok exprs ↔ readings = exprs.map .ok := by
  induction readings generalizing exprs with
  | nil => cases exprs <;> simp [pure, Except.pure]
  | cons reading rest inductionHypothesis =>
    rw [List.mapM_cons, bind_ok_iff]
    constructor
    · rintro ⟨first, ofFirst, given⟩
      obtain ⟨others, ofOthers, given⟩ := (bind_ok_iff ..).mp given
      cases given
      rw [List.map_cons, ← inductionHypothesis.mp ofOthers, show reading = .ok first from ofFirst]
    · intro same
      cases exprs with
      | nil => cases same
      | cons first others =>
        obtain ⟨rfl, ofOthers⟩ := List.cons.inj same
        exact ⟨first, rfl, (bind_ok_iff ..).mpr ⟨others, inductionHypothesis.mpr ofOthers, rfl⟩⟩

/-- A text that a form requires is a member of the document. -/
theorem required_text_iff {form : Form} {key : String} {document : Json} {text : Text} :
    requiredText form key document = .ok text ↔ document.get? key = some (.str text) := by
  unfold requiredText
  split
  · next given found => simp [found]
  · next noText => exact iff_of_false nofun (noText text)

section Assembly

variable {document : Json} {operands : Option (List (Except FormatError Expr))} {expr : Expr}

/-- Where an expression is put together, the object says what the reader asks for. -/
theorem assembled_of_ok (read : assemble document operands = .ok expr) :
    Assembled document operands expr := by
  unfold assemble at read
  dsimp only at read
  split at read
  · cases read
  · next type =>
    obtain ⟨text, token, rfl⟩ := (map_ok_iff ..).mp read
    exact .word (of_type_iff.mp type) (required_text_iff.mp token)
  · next type =>
    obtain ⟨text, id, rfl⟩ := (map_ok_iff ..).mp read
    exact .reference (of_type_iff.mp type) (required_text_iff.mp id)
  · next type =>
    obtain ⟨connective, sign, read⟩ := (bind_ok_iff ..).mp read
    split at read
    · cases read
    · obtain ⟨exprs, each, read⟩ := (bind_ok_iff ..).mp read
      split at read
      · cases read
      · cases read
        exact .logical (of_type_iff.mp type) (connective_of_iff.mp sign)
          (congrArg some (all_readings_iff.mp each))
  · next type =>
    split at read
    · cases read
    · obtain ⟨left, ofLeft, read⟩ := (bind_ok_iff ..).mp read
      obtain ⟨right, ofRight, read⟩ := (bind_ok_iff ..).mp read
      obtain ⟨distance, ofDistance, given⟩ := (bind_ok_iff ..).mp read
      obtain ⟨mode, count⟩ := distance_iff.mp ((mapError_ok_iff ..).mp ofDistance)
      cases given
      exact .proximity (of_type_iff.mp type) mode count (by rw [ofLeft, ofRight])
    · cases read
  · next type =>
    obtain ⟨_, mode, read⟩ := (bind_ok_iff ..).mp read
    split at read
    · cases read
    · obtain ⟨first, ofFirst, read⟩ := (bind_ok_iff ..).mp read
      obtain ⟨second, ofSecond, read⟩ := (bind_ok_iff ..).mp read
      obtain ⟨third, ofThird, read⟩ := (bind_ok_iff ..).mp read
      obtain ⟨number, ofCount, given⟩ := (bind_ok_iff ..).mp read
      have count := distance_count_iff.mp ((mapError_ok_iff ..).mp ofCount)
      cases given
      exact .simultaneous (of_type_iff.mp type) (check_word_distance_iff.mp mode) count
        (by rw [ofFirst, ofSecond, ofThird])
    · cases read

/-- Where an object says what the reader asks for, the expression is put together. -/
theorem Assembled.ok (assembled : Assembled document operands expr) :
    assemble document operands = .ok expr := by
  unfold assemble
  cases assembled with
  | word type token =>
    simp only [of_type_iff.mpr type]
    exact (map_ok_iff ..).mpr ⟨_, required_text_iff.mpr token, rfl⟩
  | reference type id =>
    simp only [of_type_iff.mpr type]
    exact (map_ok_iff ..).mpr ⟨_, required_text_iff.mpr id, rfl⟩
  | @logical connective first others type op children =>
    have each : ((first :: others).map Except.ok : List (Except FormatError Expr)).mapM id =
        .ok (first :: others) := all_readings_iff.mpr rfl
    simp only [of_type_iff.mpr type, connective_of_iff.mpr op, children, each, ok_bind]
    rfl
  | proximity type mode count children =>
    simp only [of_type_iff.mpr type, children, distance_iff.mpr ⟨mode, count⟩, ok_bind]
    rfl
  | simultaneous type mode count children =>
    simp only [of_type_iff.mpr type, check_word_distance_iff.mpr mode, children,
      distance_count_iff.mpr count, ok_bind]
    rfl

end Assembly

/-- An object of a form names the form. -/
theorem form_object_type (form : Form) (members : List (String × Json)) :
    IsOfForm (formObject form members) form := rfl

mutual

/-- The document of an expression is read as the expression. -/
theorem of_json_to_json (expr : Expr) : ofJson expr.toJson = .ok expr := by
  cases expr with
  | word text =>
    exact (of_json_object _).trans (Assembled.word (form_object_type ..) rfl).ok
  | reference id =>
    exact (of_json_object _).trans (Assembled.reference (form_object_type ..) rfl).ok
  | logical connective first others =>
    have children : some ((toJson first :: toJsons others).map ofJson) =
        some ((first :: others).map Except.ok) := by
      rw [List.map_cons, of_json_to_json first, of_jsons_to_jsons others, List.map_cons]
    exact (of_json_object _).trans (Assembled.logical (form_object_type ..) rfl children).ok
  | proximity distance left right =>
    have children : some ([toJson left, toJson right].map ofJson) =
        some [Except.ok left, Except.ok right] := by
      simp only [List.map_cons, List.map_nil, of_json_to_json left, of_json_to_json right]
    exact (of_json_object _).trans (Assembled.proximity (form_object_type ..) rfl rfl children).ok
  | simultaneous number first second third =>
    have children : some ([toJson first, toJson second, toJson third].map ofJson) =
        some [Except.ok first, Except.ok second, Except.ok third] := by
      simp only [List.map_cons, List.map_nil, of_json_to_json first, of_json_to_json second,
        of_json_to_json third]
    exact (of_json_object _).trans
      (Assembled.simultaneous (form_object_type ..) (.inl rfl) rfl children).ok

/-- The documents of several expressions are read as the expressions. -/
theorem of_jsons_to_jsons (exprs : List Expr) :
    (toJsons exprs).map ofJson = exprs.map Except.ok := by
  cases exprs with
  | nil => rfl
  | cons expr rest =>
    rw [toJsons, List.map_cons, List.map_cons, of_json_to_json expr, of_jsons_to_jsons rest]

end

section Tidied

variable {form : Form} {members : List (Text × Json)}

/-- What the members that belong to a form hold under a key of the form. -/
theorem lookup_tidied (form : Form) (members : List (Text × Json)) (key : Text) :
    (tidiedMembers form members).lookup key =
      if form.hasKey key then (members.lookup key).map tidied else none := by
  induction members with
  | nil => simp [tidiedMembers]
  | cons member rest inductionHypothesis =>
    obtain ⟨name, value⟩ := member
    rw [tidiedMembers]
    by_cases same : key = name
    · subst same
      by_cases has : form.hasKey key = true
      · simp [has]
      · rw [if_neg has, inductionHypothesis, if_neg has, if_neg has]
    · have other : (key == name) = false := by simpa using same
      rw [List.lookup_cons, other, ← inductionHypothesis]
      split
      · rw [List.lookup_cons, other]
      · rfl

/-- A member that belongs to the form of an object stays, itself tidied. -/
theorem lookup_kept {key : String} {value : Json} (has : form.hasKey key.toList = true)
    (found : (Json.obj members).get? key = some value) :
    (withMode form (tidiedMembers form members)).lookup key.toList = some (tidied value) := by
  have kept : (tidiedMembers form members).lookup key.toList = some (tidied value) := by
    rw [lookup_tidied, if_pos has, show members.lookup key.toList = some value from found]
    rfl
  unfold withMode
  split
  · next noMode =>
    have other : key.toList ≠ "mode".toList := by
      intro same
      rw [← same, kept] at noMode
      cases noMode
    rw [List.lookup_cons, show (key.toList == "mode".toList) = false by simpa using other]
    exact kept
  · exact kept

/-- The mode of the three-operand form is filled in where it is missing. -/
theorem lookup_filled (missing : (Json.obj members).get? "mode" = none) :
    (withMode .simultaneous (tidiedMembers .simultaneous members)).lookup "mode".toList =
      some (Json.ofString "NNn") := by
  have absent : (tidiedMembers .simultaneous members).lookup "mode".toList = none := by
    rw [lookup_tidied, show members.lookup "mode".toList = none from missing]
    rfl
  unfold withMode
  rw [absent]
  rfl

/-- Nothing is left under a key that does not belong to the form. -/
theorem lookup_dropped {key : Text} (outside : form.hasKey key = false) :
    (withMode form (tidiedMembers form members)).lookup key = none := by
  have dropped : (tidiedMembers form members).lookup key = none := by
    rw [lookup_tidied, outside]
    rfl
  unfold withMode
  split
  · have other : key ≠ "mode".toList := by
      rintro rfl
      cases outside
    rw [List.lookup_cons, show (key == "mode".toList) = false by simpa using other]
    exact dropped
  · exact dropped

/-- The object of a form is the same as a tidied object of the form that holds the same under the
keys behind the type. -/
theorem same_form_object {others : List (String × Json)}
    (keys : "type" :: others.map Prod.fst = form.keys) (type : IsOfForm (.obj members) form)
    (each : ∀ member ∈ others, ∃ value,
      (withMode form (tidiedMembers form members)).lookup member.1.toList = some value ∧
        Json.Same member.2 value) :
    Json.Same (formObject form others) (tidied (.obj members)) := by
  have all : ∀ member ∈ ("type", Json.ofString form.name) :: others, ∃ value,
      (withMode form (tidiedMembers form members)).lookup member.1.toList = some value ∧
        Json.Same member.2 value := by
    have hasType : form.hasKey "type".toList = true := by cases form <;> rfl
    exact List.forall_mem_cons.mpr ⟨⟨_, lookup_kept hasType type, .refl _⟩, each⟩
  rw [tidied, of_type_iff.mpr type]
  refine .obj (fun key => ?_)
  cases found : List.lookup key ((("type", Json.ofString form.name) :: others).map
      (fun member => (member.1.toList, member.2))) with
  | some value =>
    obtain ⟨front, back, split, _⟩ := List.lookup_eq_some_iff.mp found
    have inside : (key, value) ∈ (("type", Json.ofString form.name) :: others).map
        (fun member => (member.1.toList, member.2)) := by simp [split]
    obtain ⟨member, listed, same⟩ := List.mem_map.mp inside
    obtain ⟨rfl, rfl⟩ := Prod.mk.inj same
    obtain ⟨kept, holds, isSame⟩ := all member listed
    rw [holds]
    exact .some isSame
  | none =>
    have outside : form.hasKey key = false := by
      rw [Form.hasKey, ← keys, List.any_eq_false]
      intro name listed isKey
      obtain ⟨member, ofMember, rfl⟩ : ∃ member ∈ ("type", Json.ofString form.name) :: others,
          member.1 = name := List.mem_map.mp (by rw [List.map_cons]; exact listed)
      have other := List.lookup_eq_none_iff.mp found _ (List.mem_map_of_mem ofMember)
      simp at other isKey
      exact other isKey.symm
    rw [lookup_dropped outside]
    exact .none

end Tidied

/-- An expression that was read from a document tells what the document is: it follows the schema, and
it is the same as the document of the expression, but for what does not belong to the schema. -/
def IsSound (document : Json) (expr : Expr) : Prop :=
  Conforms document ∧ Json.Same expr.toJson (tidied document)

/-- Operands that were read are the items of the array of an object, one by one. -/
theorem operands_sound {document : Json} {exprs : List Expr}
    (given : (operandsOf document).map (List.map ofJson) = some (exprs.map .ok))
    (sound : ∀ key items, document.get? key = some (.arr items) → ∀ item ∈ items, ∀ {expr},
      ofJson item = .ok expr → IsSound item expr) :
    ∃ items, document.get? "children" = some (.arr items) ∧ List.Forall₂ IsSound items exprs := by
  obtain ⟨items, isGiven, same⟩ := Option.map_eq_some_iff.mp given
  have children : document.get? "children" = some (.arr items) := by
    unfold operandsOf at isGiven
    split at isGiven
    · next found => cases isGiven; exact found
    · cases isGiven
  refine ⟨items, children, ?_⟩
  have each := sound _ items children
  clear given isGiven children
  induction items generalizing exprs with
  | nil =>
    obtain rfl : exprs = [] := by simpa using same.symm
    exact .nil
  | cons item rest inductionHypothesis =>
    cases exprs with
    | nil => cases same
    | cons expr others =>
      obtain ⟨read, sameRest⟩ := List.cons.inj same
      obtain ⟨ofItem, ofRest⟩ := List.forall_mem_cons.mp each
      exact .cons (ofItem read) (inductionHypothesis sameRest ofRest)

/-- The operands of an expression are written as the tidied items from which they were read. -/
theorem same_operands {items : List Json} {exprs : List Expr}
    (each : List.Forall₂ IsSound items exprs) :
    Json.Same (.arr (toJsons exprs)) (tidied (.arr items)) := by
  rw [tidied]
  refine .arr ?_
  induction each with
  | nil => exact .nil
  | cons first others inductionHypothesis => exact .cons first.2 inductionHypothesis

/-- The items from which operands were read follow the schema. -/
theorem conforming_operands {items : List Json} {exprs : List Expr}
    (each : List.Forall₂ IsSound items exprs) : ∀ item ∈ items, Conforms item := by
  induction each with
  | nil => simp
  | cons first others inductionHypothesis =>
    exact List.forall_mem_cons.mpr ⟨first.1, inductionHypothesis⟩

/-- The signs of the schema are those of the set operators. -/
theorem sign_iff {document : Json} :
    (∃ connective : Connective, document.get? "op" = some (.str [connective.sign])) ↔
      document.get? "op" = some (.str ['+']) ∨ document.get? "op" = some (.str ['*']) := by
  constructor
  · rintro ⟨connective, op⟩
    cases connective with
    | or => exact .inl op
    | and => exact .inr op
  · rintro (plus | star)
    · exact ⟨.or, plus⟩
    · exact ⟨.and, star⟩

/-- The modes of the schema are those of the units. -/
theorem mode_iff {document : Json} :
    (∃ unit : DistanceUnit, document.get? "mode" = some (Json.ofString unit.modeName)) ↔
      document.get? "mode" = some (Json.ofString "NNn") ∨
        document.get? "mode" = some (Json.ofString "NNc") := by
  constructor
  · rintro ⟨unit, mode⟩
    cases unit with
    | words => exact .inl mode
    | sentences => exact .inr mode
  · rintro (words | sentences)
    · exact ⟨.words, words⟩
    · exact ⟨.sentences, sentences⟩

/-- The counts of the schema are natural numbers. -/
theorem has_count_iff {document : Json} :
    HasCount document ↔ ∃ number : Nat, document.get? "k" = some (.int number) := by
  constructor
  · rintro ⟨count, isCount, natural⟩
    obtain ⟨number, rfl⟩ := Int.eq_ofNat_of_zero_le natural
    exact ⟨number, isCount⟩
  · rintro ⟨number, isCount⟩
    exact ⟨number, isCount, by simp⟩

section Sound

variable {members : List (Text × Json)} {items : List Json}

/-- A set operation that was read is sound if its operands are. -/
theorem sound_logical {connective : Connective} {first : Expr} {others : List Expr}
    (type : IsOfForm (.obj members) .logical)
    (op : (Json.obj members).get? "op" = some (.str [connective.sign]))
    (children : (Json.obj members).get? "children" = some (.arr items))
    (each : List.Forall₂ IsSound items (first :: others)) :
    IsSound (.obj members) (.logical connective first others) := by
  have same := same_operands each
  have conform := conforming_operands each
  rcases each with _ | ⟨_, _⟩
  refine ⟨.logical type (sign_iff.mp ⟨_, op⟩) children conform, same_form_object rfl type ?_⟩
  simpa using ⟨⟨_, lookup_kept rfl op, .refl _⟩, ⟨_, lookup_kept rfl children, same⟩⟩

/-- A nearness that was read is sound if its sides are. -/
theorem sound_proximity {distance : Distance} {left right : Expr}
    (type : IsOfForm (.obj members) .proximity)
    (mode : (Json.obj members).get? "mode" = some (Json.ofString distance.unit.modeName))
    (count : (Json.obj members).get? "k" = some (.int distance.count))
    (children : (Json.obj members).get? "children" = some (.arr items))
    (each : List.Forall₂ IsSound items [left, right]) :
    IsSound (.obj members) (.proximity distance left right) := by
  have same := same_operands each
  rcases each with _ | ⟨ofLeft, _ | ⟨ofRight, _ | _⟩⟩
  refine ⟨.proximity type (mode_iff.mp ⟨_, mode⟩) (has_count_iff.mpr ⟨_, count⟩) children ofLeft.1
    ofRight.1, same_form_object rfl type ?_⟩
  simpa using ⟨⟨_, lookup_kept rfl mode, .refl _⟩, ⟨_, lookup_kept rfl count, .refl _⟩,
    ⟨_, lookup_kept rfl children, same⟩⟩

/-- The three-operand form that was read is sound if its operands are. -/
theorem sound_simultaneous {number : Nat} {first second third : Expr}
    (type : IsOfForm (.obj members) .simultaneous)
    (mode : (Json.obj members).get? "mode" = some (Json.ofString "NNn") ∨
      (Json.obj members).get? "mode" = none)
    (count : (Json.obj members).get? "k" = some (.int number))
    (children : (Json.obj members).get? "children" = some (.arr items))
    (each : List.Forall₂ IsSound items [first, second, third]) :
    IsSound (.obj members) (.simultaneous number first second third) := by
  have same := same_operands each
  have filled : (withMode .simultaneous (tidiedMembers .simultaneous members)).lookup
      "mode".toList = some (Json.ofString "NNn") := by
    rcases mode with isGiven | missing
    · exact lookup_kept rfl isGiven
    · exact lookup_filled missing
  rcases each with _ | ⟨ofFirst, _ | ⟨ofSecond, _ | ⟨ofThird, _ | _⟩⟩⟩
  refine ⟨.simultaneous type mode (has_count_iff.mpr ⟨_, count⟩) children ofFirst.1 ofSecond.1
    ofThird.1, same_form_object rfl type ?_⟩
  simpa using ⟨⟨_, filled, .refl _⟩, ⟨_, lookup_kept rfl count, .refl _⟩,
    ⟨_, lookup_kept rfl children, same⟩⟩

end Sound

/-- What is read from a document is sound. -/
theorem sound_of_read {document : Json} {expr : Expr} (read : ofJson document = .ok expr) :
    IsSound document expr := by
  induction document using Json.induction_on_items generalizing expr with
  | step document inductionHypothesis =>
    cases document with
    | obj members =>
      rw [of_json_object] at read
      cases assembled_of_ok read with
      | word type token =>
        refine ⟨.word type token, same_form_object rfl type ?_⟩
        simpa using ⟨_, lookup_kept rfl token, .refl _⟩
      | reference type id =>
        refine ⟨.reference type id, same_form_object rfl type ?_⟩
        simpa using ⟨_, lookup_kept rfl id, .refl _⟩
      | @logical connective first others type op given =>
        obtain ⟨items, children, each⟩ := operands_sound given inductionHypothesis
        exact sound_logical type op children each
      | @proximity distance left right type mode count given =>
        obtain ⟨items, children, each⟩ :=
          @operands_sound _ [left, right] given inductionHypothesis
        exact sound_proximity type mode count children each
      | @simultaneous number first second third type mode count given =>
        obtain ⟨items, children, each⟩ :=
          @operands_sound _ [first, second, third] given inductionHypothesis
        exact sound_simultaneous type mode count children each
    | _ => cases read

/-- Several documents are read if each of them is. -/
theorem exists_readings {items : List Json} (each : ∀ item ∈ items, ∃ expr, ofJson item = .ok expr) :
    ∃ exprs : List Expr, items.map ofJson = exprs.map .ok := by
  induction items with
  | nil => exact ⟨[], rfl⟩
  | cons item rest inductionHypothesis =>
    obtain ⟨⟨expr, read⟩, ofRest⟩ := List.forall_mem_cons.mp each
    obtain ⟨exprs, same⟩ := inductionHypothesis ofRest
    exact ⟨expr :: exprs, by rw [List.map_cons, List.map_cons, read, same]⟩

/-- An object is read if all is there that the reader asks for. -/
theorem Assembled.read {document : Json} {items : List Json} {expr : Expr}
    {operands : List (Except FormatError Expr)}
    (children : document.get? "children" = some (.arr items)) (same : items.map ofJson = operands)
    (assembled : Assembled document (some operands) expr) : ofJson document = .ok expr := by
  cases document with
  | obj members =>
    rw [of_json_object, operandsOf, children, Option.map_some, same]
    exact assembled.ok
  | _ => cases children

/-- Only objects are of a form. -/
theorem object_of_form {document : Json} {form : Form} (type : IsOfForm document form) :
    ∃ members, document = .obj members := by
  cases document with
  | obj members => exact ⟨members, rfl⟩
  | _ => cases type

/-- Every document that follows the schema is read. -/
theorem Conforms.read {document : Json} (conforms : Conforms document) :
    ∃ expr, ofJson document = .ok expr := by
  induction conforms with
  | word type token =>
    obtain ⟨members, rfl⟩ := object_of_form type
    exact ⟨_, (of_json_object members).trans (Assembled.word type token).ok⟩
  | reference type id =>
    obtain ⟨members, rfl⟩ := object_of_form type
    exact ⟨_, (of_json_object members).trans (Assembled.reference type id).ok⟩
  | logical type op children each inductionHypothesis =>
    obtain ⟨exprs, same⟩ := exists_readings inductionHypothesis
    obtain ⟨connective, sign⟩ := sign_iff.mpr op
    cases exprs with
    | nil => cases same
    | cons first others => exact ⟨_, Assembled.read children same (.logical type sign rfl)⟩
  | @proximity document leftItem rightItem type mode count children ofLeft ofRight leftHypothesis
      rightHypothesis =>
    obtain ⟨left, readLeft⟩ := leftHypothesis
    obtain ⟨right, readRight⟩ := rightHypothesis
    obtain ⟨unit, isMode⟩ := mode_iff.mpr mode
    obtain ⟨number, isCount⟩ := has_count_iff.mp count
    have same : [leftItem, rightItem].map ofJson = [.ok left, .ok right] := by
      simp only [List.map_cons, List.map_nil, readLeft, readRight]
    exact ⟨.proximity ⟨unit, number⟩ left right,
      Assembled.read children same (.proximity type isMode isCount rfl)⟩
  | @simultaneous document firstItem secondItem thirdItem type mode count children ofFirst ofSecond
      ofThird firstHypothesis secondHypothesis thirdHypothesis =>
    obtain ⟨first, readFirst⟩ := firstHypothesis
    obtain ⟨second, readSecond⟩ := secondHypothesis
    obtain ⟨third, readThird⟩ := thirdHypothesis
    obtain ⟨number, isCount⟩ := has_count_iff.mp count
    have same : [firstItem, secondItem, thirdItem].map ofJson =
        [.ok first, .ok second, .ok third] := by
      simp only [List.map_cons, List.map_nil, readFirst, readSecond, readThird]
    exact ⟨.simultaneous number first second third,
      Assembled.read children same (.simultaneous type mode isCount rfl)⟩

/-- The exchange of expressions is exact both ways. Every expression is read back from its document.
A document is read exactly if it follows the schema; the expression is then written as the same
document without the members outside the schema, at every level, and with the modes that were left
out. -/
theorem interchange_exact :
    (∀ expr : Expr, ofJson expr.toJson = .ok expr) ∧
    ∀ document : Json,
      match ofJson document with
      | .ok expr => Conforms document ∧ Json.Same expr.toJson (tidied document)
      | .error _ => ¬ Conforms document := by
  refine ⟨of_json_to_json, fun document => ?_⟩
  split
  · next expr read => exact sound_of_read read
  · next error failed =>
    intro conforms
    obtain ⟨expr, read⟩ := conforms.read
    rw [read] at failed
    cases failed

end Expr

end PriorArt
