import PriorArt.Proofs.Text.Solid
import PriorArt.Proofs.Toml.Values

/-!
# Written documents

A document is written as sections of plain values. It is read line by line, and the reader keeps the
entries that the lines up to there have given. So the induction goes over the written lines: the lines
still to come add the entries still to come to those that are there. A header finds no table of its name
yet, and an assignment no entry of its key, since the names of the sections are distinct and the keys of
each section are.
-/

namespace PriorArt.Toml

/-! ## Keys -/

/-- A key that needs no quotes. -/
structure IsBareKey (key : Text) : Prop where
  nonempty : key ≠ []
  bare : ∀ character ∈ key, isBareKeyChar character = true

/-- Being such a key can be tested. -/
instance (key : Text) : Decidable (IsBareKey key) :=
  decidable_of_iff (key ≠ [] ∧ key.all isBareKeyChar = true)
    ⟨fun ⟨nonempty, bare⟩ => ⟨nonempty, List.all_eq_true.mp bare⟩,
      fun ⟨nonempty, bare⟩ => ⟨nonempty, List.all_eq_true.mpr bare⟩⟩

section Keys

variable {key : Text} (isBare : IsBareKey key)
include isBare

/-- A text that begins with a key does not begin with another character. -/
theorem IsBareKey.begins (mark : Char) (other : isBareKeyChar mark = false) (rest behind : Text) :
    key ++ rest ≠ mark :: behind := by
  intro same
  cases key with
  | nil => exact isBare.nonempty rfl
  | cons first others =>
    obtain ⟨rfl, -⟩ := List.cons.inj same
    rw [isBare.bare first List.mem_cons_self] at other
    cases other

/-- A key without quotes has none of the other characters. -/
theorem IsBareKey.lacks (mark : Char) (other : isBareKeyChar mark = false) : mark ∉ key := by
  intro inside
  rw [isBare.bare mark inside] at other
  cases other

/-- A key without quotes is read up to a character that does not belong to such keys. -/
theorem keyPart_bare {mark : Char} (other : isBareKeyChar mark = false) (rest : Text) :
    keyPart? (key ++ mark :: rest) = some (key, mark :: rest) := by
  have taken : (key ++ mark :: rest).takeWhile isBareKeyChar = key := by
    rw [List.takeWhile_append_of_pos isBare.bare, List.takeWhile_cons_of_neg (by simp [other]),
      List.append_nil]
  have dropped : (key ++ mark :: rest).dropWhile isBareKeyChar = mark :: rest := by
    rw [List.dropWhile_append_of_pos isBare.bare, List.dropWhile_cons_of_neg (by simp [other])]
  cases key with
  | nil => exact absurd rfl isBare.nonempty
  | cons first others =>
    rw [keyPart?, taken, dropped]
    · exact isBare.begins _ (by decide) _
    · exact isBare.begins _ (by decide) _

/-- The name in a header is read up to its bracket. -/
theorem key_of_header (bound : Nat) (rest : Text) :
    key? (bound + 1) (key ++ ']' :: rest) = some ([key], ']' :: rest) := by
  rw [key?, keyPart_bare isBare (by decide)]
  rfl

/-- The key of an assignment is read up to its sign. -/
theorem key_of_assignment (bound : Nat) (rest : Text) :
    key? (bound + 1) (key ++ ' ' :: '=' :: rest) = some ([key], '=' :: rest) := by
  rw [key?, keyPart_bare isBare (by decide)]
  rfl

/-- No space stands in front of a key. -/
theorem skipSpaces_key (rest : Text) : skipSpaces (key ++ rest) = key ++ rest := by
  cases key with
  | nil => exact absurd rfl isBare.nonempty
  | cons first others =>
    refine List.dropWhile_cons_of_neg ?_
    intro space
    rcases (by simpa [isSpace] using space : first = ' ' ∨ first = '\t') with rfl | rfl
    · exact isBare.begins ' ' (by decide) rest _ rfl
    · exact isBare.begins '\t' (by decide) rest _ rfl

/-- A line that begins with a key is an assignment. -/
theorem statement_of_key (progress : Progress) (rest : Text) :
    statement? progress (key ++ rest) = assignment? progress (key ++ rest) := by
  rw [statement?]
  · exact fun empty => isBare.nonempty (List.append_eq_nil_iff.mp empty).1
  · exact isBare.begins _ (by decide) rest
  · exact isBare.begins _ (by decide) rest
  · exact fun _ => isBare.begins _ (by decide) rest _
  · exact isBare.begins _ (by decide) rest

end Keys

/-! ## Entries -/

/-- The entries that the lines of a section have given. -/
def givenEntries (entries : List (Text × Plain)) : Entries :=
  entries.map (fun entry => (entry.1, .value entry.2.value))

/-- The tables that sections have given. -/
def givenTables (sections : List (Text × List (Text × Plain))) : Entries :=
  sections.map (fun part => (part.1, .table .declared (givenEntries part.2)))

/-- The entries have the keys of the lines. -/
theorem keys_givenEntries (entries : List (Text × Plain)) :
    (givenEntries entries).map Prod.fst = entries.map Prod.fst := by
  simp [givenEntries]

/-- The tables have the names of the sections. -/
theorem names_givenTables (sections : List (Text × List (Text × Plain))) :
    (givenTables sections).map Prod.fst = sections.map Prod.fst := by
  simp [givenTables]

/-- If no two members have the same key, the key of a member is none of those in front of it. -/
theorem fresh_of_distinct {α : Type} {earlier later : List (Text × α)} {member : Text × α}
    (distinct : ((earlier ++ member :: later).map Prod.fst).Nodup) : member.1 ∉ earlier.map Prod.fst := by
  rw [List.map_append, List.nodup_append] at distinct
  intro among
  exact distinct.2.2 member.1 among member.1 (by simp) rfl

/-- There is no entry with a key that is none of the keys. -/
theorem lookup_fresh {entries : Entries} {key : Text} (fresh : key ∉ entries.map Prod.fst) :
    entries.lookup key = none := by
  simp only [List.lookup_eq_none_iff, bne_iff_ne]
  rintro entry inside rfl
  exact fresh (List.mem_map_of_mem inside)

/-- Putting a node in the place of the last entry leaves the entries in front of it. -/
theorem replace_last {entries : Entries} {key : Text} (fresh : key ∉ entries.map Prod.fst)
    (old new : Node) : Entries.replace (entries ++ [(key, old)]) key new = entries ++ [(key, new)] := by
  have kept : ∀ entry ∈ entries, (if entry.1 = key then (key, new) else entry) = entry := by
    intro entry inside
    refine if_neg ?_
    rintro rfl
    exact fresh (List.mem_map_of_mem inside)
  rw [Entries.replace, List.map_append, List.map_congr_left kept, List.map_id']
  simp

/-- An assignment in the last table adds an entry there. -/
theorem assignUnder_last {tables inner : Entries} {name key : Text} (sectionNumber : Nat) (value : Value)
    (freshName : name ∉ tables.map Prod.fst) (freshKey : key ∉ inner.map Prod.fst) :
    Entries.assignUnder sectionNumber value [key] [name]
        (tables ++ [(name, .table .declared inner)]) =
      some (tables ++ [(name, .table .declared (inner ++ [(key, .value value)]))]) := by
  have found : List.lookup name (tables ++ [(name, Node.table .declared inner)]) =
      some (.table .declared inner) := by
    rw [List.lookup_append, lookup_fresh freshName]
    simp
  rw [Entries.assignUnder, Entries.descend, found]
  simp only [Entries.assignUnder, Entries.assign, lookup_fresh freshKey, Option.map_some,
    replace_last freshName]

/-! ## Lines -/

/-- With any bound above its length, the rest of a document is read and gives these entries. -/
def ReadsAs (progress : Progress) (text : Text) (entries : Entries) : Prop :=
  ∀ bound, text.length < bound → lines? bound progress text = some entries

variable {progress next : Progress} {rest : Text} {entries : Entries}

/-- At the end of a document its entries are those that have been read. -/
theorem readsAs_end (progress : Progress) : ReadsAs progress [] progress.entries := by
  intro bound enough
  obtain ⟨smaller, rfl⟩ := Nat.exists_eq_add_of_lt enough
  rfl

/-- One line is read, and then the lines behind it. -/
theorem readsAs_line (line behind : Text) (notEmpty : line ≠ [])
    (stated : statement? progress (skipSpaces (line ++ rest)) = some (next, behind))
    (ended : lineEnd? behind = some rest) (read : ReadsAs next rest entries) :
    ReadsAs progress (line ++ rest) entries := by
  intro bound enough
  have place := List.length_pos_iff.mpr notEmpty
  rw [List.length_append] at enough
  cases bound with
  | zero => exact absurd enough (Nat.not_lt_zero _)
  | succ smaller =>
    have readRest := read smaller (by omega)
    rw [lines?]
    · simp [stated, ended, readRest]
    · exact fun empty => notEmpty (List.append_eq_nil_iff.mp empty).1

/-- A blank line states nothing. -/
theorem readsAs_blank (read : ReadsAs progress rest entries) : ReadsAs progress ('\n' :: rest) entries :=
  readsAs_line ['\n'] _ (List.cons_ne_nil _ _) rfl rfl read

/-- What has been read once a section is open and its lines have given entries. -/
def openSection (sectionNumber : Nat) (tables : Entries) (name : Text) (inner : Entries) : Progress :=
  ⟨[name], sectionNumber, tables ++ [(name, .table .declared inner)]⟩

/-- A header declares a table without entries, if there is none of its name. -/
theorem readsAs_header {name : Text} (isBare : IsBareKey name)
    (fresh : name ∉ progress.entries.map Prod.fst)
    (read : ReadsAs (openSection (progress.sectionNumber + 1) progress.entries name []) rest entries) :
    ReadsAs progress ('[' :: name ++ [']', '\n'] ++ rest) entries := by
  have declared : progress.entries.declareTable [name] =
      some (progress.entries ++ [(name, .table .declared [])]) := by
    rw [Entries.declareTable, lookup_fresh fresh]
  have header : tableHeader? progress (name ++ ']' :: '\n' :: rest) =
      some (openSection (progress.sectionNumber + 1) progress.entries name [], '\n' :: rest) := by
    rw [tableHeader?, skipSpaces_key isBare, key_of_header isBare]
    simp [declared, stripFront?, openSection]
  have stated : statement? progress ('[' :: (name ++ ']' :: '\n' :: rest)) =
      some (openSection (progress.sectionNumber + 1) progress.entries name [], '\n' :: rest) := by
    rw [statement?, header]
    exact isBare.begins _ (by decide) _
  refine readsAs_line _ ('\n' :: rest) (List.cons_ne_nil _ _) ?_ rfl read
  simpa [skipSpaces, isSpace] using stated

/-- An assignment in the last table adds an entry there, if there is none of its key. -/
theorem readsAs_assignment {tables inner : Entries} {name key : Text} {sectionNumber : Nat}
    (isBare : IsBareKey key) (freshName : name ∉ tables.map Prod.fst)
    (freshKey : key ∉ inner.map Prod.fst) (plain : Plain)
    (read : ReadsAs (openSection sectionNumber tables name (inner ++ [(key, .value plain.value)])) rest
      entries) :
    ReadsAs (openSection sectionNumber tables name inner) (assignmentLine key plain ++ rest) entries := by
  have assembled : assignmentLine key plain ++ rest =
      key ++ ' ' :: '=' :: ' ' :: (plain.text ++ '\n' :: rest) := by simp [assignmentLine]
  have spaced : skipSpaces (' ' :: (plain.text ++ '\n' :: rest)) = plain.text ++ '\n' :: rest :=
    skipSpaces_plain plain ('\n' :: rest)
  refine readsAs_line _ ('\n' :: rest) (by simp [assignmentLine]) ?_ rfl read
  rw [assembled, skipSpaces_key isBare, statement_of_key isBare, assignment?, key_of_assignment isBare]
  simp [stripFront?, spaced, value_line, openSection, assignUnder_last, freshName, freshKey]

/-! ## Sections -/

/-- The lines of a section add their entries, one behind the other. -/
theorem readsAs_assignments {tables : Entries} {name : Text} {sectionNumber : Nat}
    (freshName : name ∉ tables.map Prod.fst) (later earlier : List (Text × Plain))
    (bareKeys : ∀ entry ∈ later, IsBareKey entry.1)
    (distinct : ((earlier ++ later).map Prod.fst).Nodup)
    (read : ReadsAs (openSection sectionNumber tables name (givenEntries (earlier ++ later))) rest
      entries) :
    ReadsAs (openSection sectionNumber tables name (givenEntries earlier))
      (later.flatMap (fun entry => assignmentLine entry.1 entry.2) ++ rest) entries := by
  induction later generalizing earlier with
  | nil => simpa using read
  | cons entry others inductionHypothesis =>
    obtain ⟨isBare, areBare⟩ := List.forall_mem_cons.mp bareKeys
    have freshKey : entry.1 ∉ (givenEntries earlier).map Prod.fst := by
      rw [keys_givenEntries]
      exact fresh_of_distinct distinct
    -- Behind its line the entry counts among the earlier ones.
    have moved : earlier ++ entry :: others = (earlier ++ [entry]) ++ others := by simp
    rw [moved] at distinct read
    have behind := inductionHypothesis (earlier ++ [entry]) areBare distinct read
    rw [List.flatMap_cons, List.append_assoc]
    exact readsAs_assignment isBare freshName freshKey entry.2 (by simpa [givenEntries] using behind)

/-- Sections that can be written: no two of them have the same name and no two entries of one the same
key, and none of these needs quotes. -/
structure AreWritable (sections : List (Text × List (Text × Plain))) : Prop where
  distinctNames : (sections.map Prod.fst).Nodup
  bareNames : ∀ part ∈ sections, IsBareKey part.1
  distinctKeys : ∀ part ∈ sections, (part.2.map Prod.fst).Nodup
  bareKeys : ∀ part ∈ sections, ∀ entry ∈ part.2, IsBareKey entry.1

/-- A section is read as a table with its entries. -/
theorem readsAs_section {part : Text × List (Text × Plain)} (bareName : IsBareKey part.1)
    (bareKeys : ∀ entry ∈ part.2, IsBareKey entry.1) (distinctKeys : (part.2.map Prod.fst).Nodup)
    (freshName : part.1 ∉ progress.entries.map Prod.fst)
    (read : ReadsAs (openSection (progress.sectionNumber + 1) progress.entries part.1
      (givenEntries part.2)) rest entries) :
    ReadsAs progress (sectionText part.1 part.2 ++ rest) entries := by
  rw [sectionText, List.append_assoc]
  refine readsAs_header bareName freshName ?_
  exact readsAs_assignments freshName part.2 [] bareKeys distinctKeys read

/-- A single section stands alone. -/
theorem render_single (part : Text × List (Text × Plain)) :
    render [part] = sectionText part.1 part.2 := by
  simp [render, Text.join]

/-- A blank line stands behind the first of several sections. -/
theorem render_several (part next : Text × List (Text × Plain))
    (others : List (Text × List (Text × Plain))) :
    render (part :: next :: others) = sectionText part.1 part.2 ++ '\n' :: render (next :: others) :=
  Text.join_cons (List.cons_ne_nil _ _)

/-- The sections of a document add their tables, one behind the other. -/
theorem readsAs_sections (later earlier : List (Text × List (Text × Plain))) (header : List Text)
    (sectionNumber : Nat) (writable : AreWritable (earlier ++ later)) :
    ReadsAs ⟨header, sectionNumber, givenTables earlier⟩ (render later)
      (givenTables (earlier ++ later)) := by
  induction later generalizing earlier header sectionNumber with
  | nil =>
    rw [List.append_nil]
    exact readsAs_end ⟨header, sectionNumber, givenTables earlier⟩
  | cons part others inductionHypothesis =>
    have moved : earlier ++ part :: others = (earlier ++ [part]) ++ others := by simp
    have among : part ∈ earlier ++ part :: others := by simp
    have freshName : part.1 ∉ (givenTables earlier).map Prod.fst := by
      rw [names_givenTables]
      exact fresh_of_distinct writable.distinctNames
    have behind := inductionHypothesis (earlier ++ [part]) [part.1] (sectionNumber + 1)
      (moved ▸ writable)
    rw [← moved] at behind
    -- What stands behind the section depends on whether it is the last one.
    have extended : ∀ rest, ReadsAs ⟨[part.1], sectionNumber + 1, givenTables (earlier ++ [part])⟩ rest
          (givenTables (earlier ++ part :: others)) →
        ReadsAs ⟨header, sectionNumber, givenTables earlier⟩ (sectionText part.1 part.2 ++ rest)
          (givenTables (earlier ++ part :: others)) := by
      intro rest read
      refine readsAs_section (writable.bareNames part among) (writable.bareKeys part among)
        (writable.distinctKeys part among) freshName ?_
      simpa [givenTables, openSection] using read
    cases others with
    | nil =>
      rw [render_single, ← List.append_nil (sectionText part.1 part.2)]
      exact extended [] behind
    | cons next others =>
      rw [render_several]
      exact extended _ (readsAs_blank behind)

/-- The line ends of a text without carriage returns stay as they are. -/
theorem unifyLineEnds_free {text : Text} (free : '\r' ∉ text) : unifyLineEnds text = text := by
  induction text with
  | nil => rfl
  | cons character others inductionHypothesis =>
    rw [List.mem_cons, not_or] at free
    rw [unifyLineEnds, inductionHypothesis free.2]
    exact fun _ same => absurd same.symm free.1

/-- No carriage return is in a section. -/
theorem sectionText_free {part : Text × List (Text × Plain)} (bareName : IsBareKey part.1)
    (bareKeys : ∀ entry ∈ part.2, IsBareKey entry.1) : '\r' ∉ sectionText part.1 part.2 := by
  have ofLines : '\r' ∉ part.2.flatMap (fun entry => assignmentLine entry.1 entry.2) := by
    intro inside
    obtain ⟨entry, among, ofLine⟩ := List.mem_flatMap.mp inside
    have noKey := (bareKeys entry among).lacks '\r' (by decide)
    exact absurd ofLine (by simp [assignmentLine, noKey, plain_no_return])
  have noName := bareName.lacks '\r' (by decide)
  simpa [sectionText, noName] using ofLines

/-- No carriage return is in a written document. -/
theorem render_free {sections : List (Text × List (Text × Plain))}
    (bareNames : ∀ part ∈ sections, IsBareKey part.1)
    (bareKeys : ∀ part ∈ sections, ∀ entry ∈ part.2, IsBareKey entry.1) : '\r' ∉ render sections := by
  induction sections with
  | nil => exact List.not_mem_nil
  | cons part others inductionHypothesis =>
    obtain ⟨bareName, bareNames⟩ := List.forall_mem_cons.mp bareNames
    obtain ⟨ofPart, bareKeys⟩ := List.forall_mem_cons.mp bareKeys
    have inFront := sectionText_free bareName ofPart
    have behind := inductionHypothesis bareNames bareKeys
    cases others with
    | nil => rwa [render_single]
    | cons next others =>
      rw [render_several]
      simp [inFront, behind]

/-- The tables of sections are finished as tables of their values. -/
theorem finish_givenTables (sections : List (Text × List (Text × Plain))) :
    finishEntries (givenTables sections) = sections.map (fun part =>
      (part.1, .table (part.2.map (fun entry => (entry.1, entry.2.value))))) := by
  have ofEntries : ∀ entries : List (Text × Plain), finishEntries (givenEntries entries) =
      entries.map (fun entry => (entry.1, entry.2.value)) := by
    intro entries
    induction entries with
    | nil => rfl
    | cons entry others inductionHypothesis =>
      rw [List.map_cons, ← inductionHypothesis]
      rfl
  induction sections with
  | nil => rfl
  | cons part others inductionHypothesis =>
    rw [List.map_cons, ← inductionHypothesis, ← ofEntries]
    rfl

/-- Written sections are read back: each is a table with its entries, in their order. -/
theorem parse_render {sections : List (Text × List (Text × Plain))} (writable : AreWritable sections) :
    parse? (render sections) = some (sections.map (fun part =>
      (part.1, .table (part.2.map (fun entry => (entry.1, entry.2.value)))))) := by
  have read := readsAs_sections sections [] [] 0 writable
  have free := render_free writable.bareNames writable.bareKeys
  have readAll : lines? ((render sections).length + 1) ⟨[], 0, []⟩ (render sections) =
      some (givenTables sections) := read _ (Nat.lt_succ_self _)
  rw [parse?, unifyLineEnds_free free, readAll, Option.map_some, finish_givenTables]

end PriorArt.Toml
