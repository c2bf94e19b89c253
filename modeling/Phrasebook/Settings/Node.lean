/-!
# Settings

The content of a settings file in the TOML format: keys with values, in tables that may
hold further tables. Tables come about in several ways, and how a table came about decides
what may still be added to it:

* an *inline* table is written out as a value, and nothing is added to it;
* a *dotted* table is named by the front parts of a dotted key, and takes further dotted
  keys, but no header of its own;
* an *implied* table is named by the front parts of a header, and may get a header of its
  own once;
* a *defined* table has a header of its own.

Entries stand in the order in which they were added. An implied table that gets its header
moves to the end.
-/

namespace Phrasebook.Settings

/-- How a table came about. -/
inductive Form where
  | inline
  | dotted
  | implied
  | defined
  deriving DecidableEq, Repr

/-- A value of a settings file. Options hold no numbers and no dates, so these are not told
apart. -/
inductive Node where
  | text (s : String)
  | flag (b : Bool)
  | other
  | array (items : List Node)
  | table (form : Form) (entries : List (String × Node))
  /-- A sequence of tables, each with a header of its own; only the last is added to. -/
  | tables (earlier : List (List (String × Node))) (last : List (String × Node))
  deriving Repr

/-- The entries of a table, in order. -/
abbrev Entries := List (String × Node)

namespace Entries

/-- The entries with the value of a key changed in place. -/
def replace (key : String) (node : Node) (entries : Entries) : Entries :=
  entries.map fun entry => if entry.1 = key then (key, node) else entry

/-- The entries without a key. -/
def without (key : String) (entries : Entries) : Entries :=
  entries.filter fun entry => entry.1 != key

/-- Changes the entries of the table that a header names from here. Tables on the way that
do not exist yet are implied. -/
def atHeader : List String → (Entries → Option Entries) → Entries → Option Entries
  | [], change, entries => change entries
  | key :: path, change, entries =>
    match entries.lookup key with
    | none =>
      (atHeader path change []).map fun inner => entries ++ [(key, .table .implied inner)]
    | some (.table .inline _) => none
    | some (.table form inner) =>
      (atHeader path change inner).map fun inner => replace key (.table form inner) entries
    | some (.tables earlier last) =>
      (atHeader path change last).map fun last => replace key (.tables earlier last) entries
    | some _ => none

/-- Defines the table of the last part of a header. -/
def define (key : String) (entries : Entries) : Option Entries :=
  match entries.lookup key with
  | none => some (entries ++ [(key, .table .defined [])])
  | some (.table .implied inner) => some (without key entries ++ [(key, .table .defined inner)])
  | some _ => none

/-- Begins a further table in the sequence of the last part of a header. -/
def extend (key : String) (entries : Entries) : Option Entries :=
  match entries.lookup key with
  | none => some (entries ++ [(key, .tables [] [])])
  | some (.tables earlier last) => some (replace key (.tables (earlier ++ [last]) []) entries)
  | some _ => none

/-- Adds a value under a key, which may be dotted. The table to which the value itself is
added has to be the one at hand or a dotted one. -/
def insert (node : Node) : List String → Entries → Option Entries
  | [], _ => none
  | [key], entries =>
    match entries.lookup key with
    | none => some (entries ++ [(key, node)])
    | some _ => none
  | key :: next :: path, entries =>
    match entries.lookup key with
    | none =>
      (insert node (next :: path) []).map fun inner => entries ++ [(key, .table .dotted inner)]
    | some (.table .dotted inner) =>
      (insert node (next :: path) inner).map fun inner =>
        replace key (.table .dotted inner) entries
    | some (.table .implied inner) =>
      if path.isEmpty then none
      else
        (insert node (next :: path) inner).map fun inner =>
          replace key (.table .implied inner) entries
    | some (.tables earlier last) =>
      if path.isEmpty then none
      else
        (insert node (next :: path) last).map fun last =>
          replace key (.tables earlier last) entries
    | some _ => none

end Entries

/-- A settings file that has been read in part: all of its entries, and the header of the
table to which keys are added. -/
structure Draft where
  entries : Entries := []
  header : List String := []
  deriving Repr

namespace Draft

/-- Goes on with a table of its own header. -/
def beginTable (d : Draft) (header : List String) : Option Draft := do
  let key ← header.getLast?
  let entries ← Entries.atHeader header.dropLast (Entries.define key) d.entries
  return { entries, header }

/-- Goes on with a further table of a sequence. -/
def beginElement (d : Draft) (header : List String) : Option Draft := do
  let key ← header.getLast?
  let entries ← Entries.atHeader header.dropLast (Entries.extend key) d.entries
  return { entries, header }

/-- Adds a value to the table at hand. -/
def add (d : Draft) (key : List String) (node : Node) : Option Draft := do
  let entries ← Entries.atHeader d.header (Entries.insert node key) d.entries
  return { d with entries }

end Draft

end Phrasebook.Settings
