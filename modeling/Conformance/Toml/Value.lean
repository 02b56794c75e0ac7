import Conformance.Json.Value

/-!
# TOML values and tables

A document is a table. While it is read, each table remembers how it came about,
because that decides what may still be added to it: a table under a header of its own,
a table that only lies on the way to another, a table made by a dotted key, a list of
tables under double headers. Values, inline tables among them, are closed.
-/

namespace Conformance.Toml

/-- A value as far as settings look at it. -/
inductive Value where
  | text (content : String)
  | truth (value : Bool)
  /-- A number as it is spelled. A float has an exponent, if only zero. -/
  | number (value : Json.Number)
  /-- A number that is infinite or undefined. -/
  | notFinite
  /-- A number that may stand in a document as long as nobody looks at it. -/
  | unreadable
  /-- A date, a time, or both. -/
  | moment
  | list (items : List Value)
  | table (entries : List (String × Value))

/-- What stands under a key while a document is read. -/
inductive Node where
  /-- Nothing can be added to a value. -/
  | closed (value : Value)
  /-- A table. It is passing if no header was its own yet, and dotted if a dotted key made it. -/
  | table (passing dotted : Bool) (entries : List (String × Node))
  /-- A list of tables, the last one first. -/
  | tables (last : List (String × Node)) (earlier : List (List (String × Node)))

/-- The entries of a table while it is read, in the order of their appearance. -/
abbrev Entries := List (String × Node)

namespace Entries

/-- What stands under a key. -/
def find? (entries : Entries) (key : String) : Option Node := List.lookup key entries

/-- Puts something else under a key that is there. -/
def replace (entries : Entries) (key : String) (node : Node) : Entries :=
  entries.map fun entry => if entry.1 = key then (key, node) else entry

/-- Follows a path and changes the entries of the table at its end; tables that are missing on the
way are made. The change is told whether that table is a dotted one. By a dotted key one must not
walk into a table with a header of its own, and nobody walks into a value. -/
def change (byDottedKey : Bool) (action : Bool → Entries → Option Entries) (dotted : Bool)
    (entries : Entries) : List String → Option Entries
  | [] => action dotted entries
  | key :: path =>
    match entries.find? key with
    | none => do
      let made ← change byDottedKey action byDottedKey [] path
      return entries ++ [(key, .table true byDottedKey made)]
    | some (.closed _) => none
    | some (.table passing innerDotted inner) =>
      if byDottedKey && !passing then none
      else do
        let changed ← change byDottedKey action innerDotted inner path
        return entries.replace key (.table passing innerDotted changed)
    | some (.tables last earlier) => do
      let changed ← change byDottedKey action false last path
      return entries.replace key (.tables changed earlier)

/-- Adds a value under a dotted key. The table that takes it has to be dotted if and only if the key
is, and must not have the last part of the key yet. -/
def assign (keys : List String) (key : String) (value : Value) : Bool → Entries → Option Entries :=
  fun dotted entries =>
    change true (fun innerDotted inner =>
      if innerDotted = keys.isEmpty || (inner.find? key).isSome then none
      else some (inner ++ [(key, .closed value)])) dotted entries keys

/-- Opens the table of a header. A table can be opened once, and only if no dotted key made it. -/
def openTable (key : String) : Bool → Entries → Option Entries :=
  fun _ entries =>
    match entries.find? key with
    | none => some (entries ++ [(key, .table false false [])])
    | some (.table true false inner) => some (entries.replace key (.table false false inner))
    | some _ => none

/-- Opens one more table of a list of tables. -/
def openElement (key : String) : Bool → Entries → Option Entries :=
  fun _ entries =>
    match entries.find? key with
    | none => some (entries ++ [(key, .tables [] [])])
    | some (.tables last earlier) => some (entries.replace key (.tables [] (last :: earlier)))
    | some _ => none

end Entries

/-- The value of a node. -/
def Node.value : Node → Value
  | .closed value => value
  | .table _ _ entries => .table (entryValues entries)
  | .tables last earlier => .list (tableValues earlier [.table (entryValues last)])
where
  entryValues : List (String × Node) → List (String × Value)
    | [] => []
    | (key, node) :: rest => (key, node.value) :: entryValues rest
  tableValues : List (List (String × Node)) → List Value → List Value
    | [], later => later
    | entries :: rest, later => tableValues rest (.table (entryValues entries) :: later)

end Conformance.Toml
