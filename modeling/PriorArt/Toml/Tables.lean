import PriorArt.Toml.Value

/-!
# Tables under construction

The tables of a document grow in three ways: a header `[a.b]` declares a table, a header
`[[a.b]]` adds a table to an array of tables, and an assignment with a dotted key runs through
tables that need not be declared. A table is declared once. A table that dotted keys have run
through is closed to headers, and to the dotted keys under any other header. A value in line
cannot be added to at all.

A construction that breaks these rules has no result.
-/

namespace PriorArt.Toml

/-- How a table came about. -/
inductive Origin where
  /-- By the header of a table inside it. -/
  | implied
  /-- By a header of its own. -/
  | declared
  /-- By dotted keys in the section with this number. -/
  | dotted (sectionNumber : Nat)
  deriving DecidableEq

/-- A part of a document under construction. -/
inductive Node where
  | value (value : Value)
  | table (origin : Origin) (entries : List (Text × Node))
  /-- An array of tables, of which the last can still grow. -/
  | tables (earlier : List (List (Text × Node))) (last : List (Text × Node))

/-- The entries of a table under construction. -/
abbrev Entries := List (Text × Node)

namespace Entries

/-- Put a node in the place of the entry with a key. -/
def replace (entries : Entries) (key : Text) (node : Node) : Entries :=
  entries.map (fun entry => if entry.1 = key then (key, node) else entry)

/-- Change the entries of the table under a key of a header, which is made if it is missing. In
an array of tables the last table is meant. -/
def descend (entries : Entries) (key : Text) (change : Entries → Option Entries) :
    Option Entries :=
  match entries.lookup key with
  | none => (change []).map (fun inner => entries ++ [(key, .table .implied inner)])
  | some (.table origin inner) =>
    (change inner).map (fun inner => entries.replace key (.table origin inner))
  | some (.tables earlier last) =>
    (change last).map (fun last => entries.replace key (.tables earlier last))
  | some (.value _) => none

/-- Change the entries of the table under a part of a dotted key in a section. -/
def descendDotted (sectionNumber : Nat) (entries : Entries) (key : Text)
    (change : Entries → Option Entries) : Option Entries :=
  match entries.lookup key with
  | none => (change []).map (fun inner => entries ++ [(key, .table (.dotted sectionNumber) inner)])
  | some (.table origin inner) =>
    if origin = .implied || origin = .dotted sectionNumber then
      (change inner).map (fun inner => entries.replace key (.table (.dotted sectionNumber) inner))
    else none
  | some _ => none

/-- Declare the table with a path. -/
def declareTable : List Text → Entries → Option Entries
  | [], _ => none
  | [key], entries =>
    match entries.lookup key with
    | none => some (entries ++ [(key, .table .declared [])])
    | some (.table .implied inner) => some (entries.replace key (.table .declared inner))
    | some _ => none
  | key :: path, entries => entries.descend key (declareTable path)

/-- Add a table to the array of tables with a path. -/
def declareElement : List Text → Entries → Option Entries
  | [], _ => none
  | [key], entries =>
    match entries.lookup key with
    | none => some (entries ++ [(key, .tables [] [])])
    | some (.tables earlier last) => some (entries.replace key (.tables (earlier ++ [last]) []))
    | some _ => none
  | key :: path, entries => entries.descend key (declareElement path)

/-- Assign a value to a dotted key in a section. -/
def assign (sectionNumber : Nat) (value : Value) : List Text → Entries → Option Entries
  | [], _ => none
  | [key], entries =>
    match entries.lookup key with
    | none => some (entries ++ [(key, .value value)])
    | some _ => none
  | key :: path, entries =>
    entries.descendDotted sectionNumber key (assign sectionNumber value path)

/-- Assign a value to a dotted key below the path of a header. -/
def assignUnder (sectionNumber : Nat) (value : Value) (path : List Text) :
    List Text → Entries → Option Entries
  | [], entries => assign sectionNumber value path entries
  | key :: header, entries => entries.descend key (assignUnder sectionNumber value path header)

end Entries

mutual

/-- The finished value. -/
def Node.finish : Node → Value
  | .value value => value
  | .table _ entries => .table (finishEntries entries)
  | .tables earlier last =>
    .array (finishTables earlier ++ [.table (finishEntries last)])

/-- The finished entries of a table. -/
def finishEntries : List (Text × Node) → List (Text × Value)
  | [] => []
  | (key, node) :: entries => (key, node.finish) :: finishEntries entries

/-- The finished tables of an array of tables. -/
def finishTables : List (List (Text × Node)) → List Value
  | [] => []
  | entries :: tables => .table (finishEntries entries) :: finishTables tables

end

end PriorArt.Toml
