import Mathlib.Data.List.Induction
import PriorArt.Text.Basic

/-!
# Lists of texts

The spellings of a union of words are a list in which each text stands once and the longest stand first.
Both making a list distinct and sorting it keep an order: that of the first appearance, and that of texts
of the same length.

## Distinct members

The distinct members of a list stand in the order in which they come first. So members can be made
distinct before they are selected, put together or expanded, without a difference to the distinct
members in the end, and what came before can be left out.
-/

namespace PriorArt.Text

/-- The distinct members of a list of texts, each once. -/
theorem nodup_eraseDups (texts : List Text) : texts.eraseDups.Nodup := by
  match texts with
  | [] => exact List.nodup_nil
  | text :: others =>
    have shorter : (others.filter (fun other => !other == text)).length < others.length + 1 :=
      Nat.lt_succ_of_le (List.length_filter_le _ others)
    rw [List.eraseDups_cons, List.nodup_cons]
    exact ⟨by simp, nodup_eraseDups _⟩
termination_by texts.length

/-- Distinct members are distinct already. -/
theorem eraseDups_eraseDups (texts : List Text) : texts.eraseDups.eraseDups = texts.eraseDups := by
  match texts with
  | [] => rfl
  | text :: others =>
    have shorter : (others.filter (fun other => !other == text)).length < others.length + 1 :=
      Nat.lt_succ_of_le (List.length_filter_le _ others)
    have later := eraseDups_eraseDups (others.filter (fun other => !other == text))
    have absent : (others.filter (fun other => !other == text)).eraseDups.filter
        (fun other => !other == text) =
          (others.filter (fun other => !other == text)).eraseDups := by
      rw [List.filter_eq_self]
      intro other inside
      exact (List.mem_filter.mp (List.mem_eraseDups.mp inside)).2
    rw [List.eraseDups_cons, List.eraseDups_cons, absent, later]
termination_by texts.length

/-- The distinct members of a selection are the selected ones among the distinct members. -/
theorem eraseDups_filter (kept : Text → Bool) (texts : List Text) :
    (texts.filter kept).eraseDups = texts.eraseDups.filter kept := by
  match texts with
  | [] => rfl
  | text :: others =>
    have shorter : (others.filter (fun other => !other == text)).length < others.length + 1 :=
      Nat.lt_succ_of_le (List.length_filter_le _ others)
    have later := eraseDups_filter kept (others.filter (fun other => !other == text))
    rw [List.filter_filter] at later
    rw [List.eraseDups_cons]
    cases chosen : kept text with
    | true =>
      rw [List.filter_cons_of_pos chosen, List.filter_cons_of_pos chosen, List.eraseDups_cons,
        List.filter_filter, ← later]
      congr 2
      exact List.filter_congr (fun other _ => Bool.and_comm ..)
    | false =>
      rw [List.filter_cons_of_neg (by simp [chosen]), List.filter_cons_of_neg (by simp [chosen]),
        ← later]
      congr 1
      apply List.filter_congr
      intro other inside
      by_cases same : other = text
      · simp [same, chosen]
      · simp [same]
termination_by texts.length

/-- Members that are made distinct before they are put together are distinct in the same way. -/
theorem eraseDups_append_distinct (front back : List Text) :
    (front.eraseDups ++ back.eraseDups).eraseDups = (front ++ back).eraseDups := by
  have sameMembers : ∀ text ∈ back, (!front.eraseDups.elem text) = !front.elem text := by
    intro text _
    simp
  rw [List.eraseDups_append, List.eraseDups_append, eraseDups_eraseDups, List.removeAll,
    List.removeAll, ← eraseDups_filter, eraseDups_eraseDups, List.filter_congr sameMembers]

/-- Members that are all in front add nothing. -/
theorem eraseDups_append_known {front back : List Text} (known : ∀ text ∈ back, text ∈ front) :
    (front ++ back).eraseDups = front.eraseDups := by
  have nothing : back.removeAll front = [] :=
    List.filter_eq_nil_iff.mpr (fun text listed => by simpa using known text listed)
  rw [List.eraseDups_append, nothing, List.eraseDups_nil, List.append_nil]

/-- Members of which none is in front are made distinct for themselves. -/
theorem eraseDups_append_apart {front back : List Text} (apart : ∀ text ∈ back, text ∉ front) :
    (front ++ back).eraseDups = front.eraseDups ++ back.eraseDups := by
  have everything : back.removeAll front = back :=
    List.filter_eq_self.mpr (fun text listed => by simpa using apart text listed)
  rw [List.eraseDups_append, everything]

/-- Lists can be put together with others that have the same distinct members. -/
theorem eraseDups_append_congr {front back other more : List Text}
    (sameFront : front.eraseDups = other.eraseDups) (sameBack : back.eraseDups = more.eraseDups) :
    (front ++ back).eraseDups = (other ++ more).eraseDups := by
  rw [← eraseDups_append_distinct, sameFront, sameBack, eraseDups_append_distinct]

section Expansions

variable {expand : Text → List Text} {texts : List Text}

/-- Expansions with the same distinct members expand a list to the same distinct members. -/
theorem eraseDups_flatMap_congr {other : Text → List Text}
    (same : ∀ text ∈ texts, (expand text).eraseDups = (other text).eraseDups) :
    (texts.flatMap expand).eraseDups = (texts.flatMap other).eraseDups := by
  induction texts with
  | nil => rfl
  | cons text others inductionHypothesis =>
    obtain ⟨ofText, ofOthers⟩ := List.forall_mem_cons.mp same
    exact eraseDups_append_congr ofText (inductionHypothesis ofOthers)

/-- Texts that are all expanded to the same members give these members. -/
theorem eraseDups_flatMap_same {members : List Text} (filled : texts ≠ [])
    (same : ∀ text ∈ texts, expand text = members) :
    (texts.flatMap expand).eraseDups = members.eraseDups := by
  obtain ⟨first, others, rfl⟩ := List.exists_cons_of_ne_nil filled
  obtain ⟨ofFirst, ofOthers⟩ := List.forall_mem_cons.mp same
  rw [List.flatMap_cons, ofFirst]
  refine eraseDups_append_known (fun member listed => ?_)
  obtain ⟨other, inside, expanded⟩ := List.mem_flatMap.mp listed
  rwa [ofOthers other inside] at expanded

/-- Texts can be made distinct before they are expanded. The induction takes the last text away: it
was expanded before, or it comes last among the distinct ones as well. -/
theorem eraseDups_flatMap_distinct (expand : Text → List Text) (texts : List Text) :
    (texts.eraseDups.flatMap expand).eraseDups = (texts.flatMap expand).eraseDups := by
  induction texts using List.reverseRecOn with
  | nil => rfl
  | append_singleton front last inductionHypothesis =>
    rw [List.flatMap_append, List.flatMap_singleton]
    by_cases before : last ∈ front
    · rw [eraseDups_append_known (by simpa using before), inductionHypothesis]
      refine (eraseDups_append_known (fun member listed => ?_)).symm
      exact List.mem_flatMap.mpr ⟨last, before, listed⟩
    · have single : [last].eraseDups = [last] := by simp [List.eraseDups_cons]
      rw [eraseDups_append_apart (by simpa using before), single, List.flatMap_append,
        List.flatMap_singleton]
      exact eraseDups_append_congr inductionHypothesis rfl

end Expansions

/-!
## Texts sorted by length

Sorting texts with the longest first keeps the order of texts of the same length. A list that is so
sorted is known from its members of each length in their order, so the sorted list is the only one with
the same members of each length in the same order.
-/

/-- Whether the second of two texts is no longer than the first. -/
def noLonger (left right : Text) : Bool := right.length ≤ left.length

/-- The texts with the longest first, where texts of the same length keep their order. -/
def longestFirst (texts : List Text) : List Text := texts.mergeSort noLonger

/-- The texts of one length. -/
def ofLength (length : Nat) (texts : List Text) : List Text :=
  texts.filter (fun text => text.length = length)

/-- No text is longer than one in front of it. -/
def IsLongestFirst (texts : List Text) : Prop :=
  texts.Pairwise (fun left right => right.length ≤ left.length)

/-- Texts are of one length if they are members of that length. -/
theorem mem_ofLength {length : Nat} {texts : List Text} {text : Text} :
    text ∈ ofLength length texts ↔ text ∈ texts ∧ text.length = length := by
  simp [ofLength]

/-- A third text is no longer than the first if it is no longer than one that is no longer. -/
theorem noLonger_trans (first second third : Text) (ofSecond : noLonger first second = true)
    (ofThird : noLonger second third = true) : noLonger first third = true := by
  simp only [noLonger, decide_eq_true_eq] at ofSecond ofThird ⊢
  omega

/-- Of two texts one is no longer than the other. -/
theorem noLonger_total (first second : Text) :
    (noLonger first second || noLonger second first) = true := by
  simp only [noLonger, Bool.or_eq_true, decide_eq_true_eq]
  omega

/-- Sorted texts have the longest first. -/
theorem sorted_longestFirst (texts : List Text) : IsLongestFirst (longestFirst texts) :=
  (List.pairwise_mergeSort noLonger_trans noLonger_total texts).imp
    (fun ordered => of_decide_eq_true ordered)

/-- Sorting keeps the texts of one length in their order. -/
theorem ofLength_longestFirst (length : Nat) (texts : List Text) :
    ofLength length (longestFirst texts) = ofLength length texts := by
  have alike : (ofLength length texts).Pairwise (fun left right => noLonger left right = true) := by
    refine List.pairwise_of_forall_mem_list (fun left ofLeft right ofRight => ?_)
    have sameLeft := (mem_ofLength.mp ofLeft).2
    have sameRight := (mem_ofLength.mp ofRight).2
    simp only [noLonger, decide_eq_true_eq]
    omega
  have kept : (ofLength length texts).Sublist (longestFirst texts) :=
    List.sublist_mergeSort noLonger_trans noLonger_total alike List.filter_sublist
  have keptOfLength := kept.filter (fun text => decide (text.length = length))
  rw [ofLength, List.filter_filter] at keptOfLength
  simp only [Bool.and_self] at keptOfLength
  refine (keptOfLength.eq_of_length ?_).symm
  exact (((List.mergeSort_perm texts noLonger).filter _).length_eq).symm

/-- The first text is among those of its length. -/
theorem head_mem_ofLength (text : Text) (others : List Text) :
    text ∈ ofLength text.length (text :: others) :=
  mem_ofLength.mpr ⟨List.mem_cons_self, rfl⟩

/-- Without texts of any length there are no texts. -/
theorem eq_nil_of_ofLength {texts : List Text} (none : ∀ length, ofLength length texts = []) :
    texts = [] := by
  cases texts with
  | nil => rfl
  | cons text others => exact absurd (none text.length) (List.ne_nil_of_mem (head_mem_ofLength ..))

/-- With the longest first no text is longer than the first. -/
theorem IsLongestFirst.le_head {head text : Text} {rest : List Text}
    (sorted : IsLongestFirst (head :: rest)) (listed : text ∈ head :: rest) :
    text.length ≤ head.length := by
  rcases List.mem_cons.mp listed with rfl | later
  · exact Nat.le_refl _
  · exact List.rel_of_pairwise_cons sorted later

/-- With the longest first the first text is at least as long as that of a list with the same texts
of each length. -/
theorem IsLongestFirst.head_le {text other : Text} {rest more : List Text}
    (sorted : IsLongestFirst (text :: rest))
    (same : ∀ length, ofLength length (text :: rest) = ofLength length (other :: more)) :
    other.length ≤ text.length := by
  have listed := head_mem_ofLength other more
  rw [← same] at listed
  exact sorted.le_head (mem_ofLength.mp listed).1

/-- Behind the same first text the texts of each length are the same if they are so with it. -/
theorem ofLength_tail {text : Text} {rest more : List Text} {length : Nat}
    (same : ofLength length (text :: rest) = ofLength length (text :: more)) :
    ofLength length rest = ofLength length more := by
  simp only [ofLength, List.filter_cons] at same
  split at same
  · exact (List.cons.inj same).2
  · exact same

/-- Texts with the longest first are known from those of each length. -/
theorem IsLongestFirst.ext {texts others : List Text} (sorted : IsLongestFirst texts)
    (sortedOthers : IsLongestFirst others)
    (same : ∀ length, ofLength length texts = ofLength length others) : texts = others := by
  induction texts generalizing others with
  | nil => exact (eq_nil_of_ofLength (fun length => (same length).symm)).symm
  | cons text rest inductionHypothesis =>
    cases others with
    | nil => exact eq_nil_of_ofLength same
    | cons other more =>
      -- The first texts are of one length, so they are the first ones of that length.
      have heads : text.length = other.length :=
        Nat.le_antisymm (sortedOthers.head_le (fun length => (same length).symm))
          (sorted.head_le same)
      have first := same text.length
      simp only [ofLength, List.filter_cons, heads, decide_true, if_true, List.cons.injEq] at first
      obtain rfl := first.1
      exact congrArg _ (inductionHypothesis sorted.tail sortedOthers.tail
        (fun length => ofLength_tail (same length)))

end PriorArt.Text
