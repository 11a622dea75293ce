import Stencil.Toml.Instant

/-! The tables of TOML documents and how lines add to them.

A table can be written only once: by its header, by an inline table, or piece by piece by dotted keys. Headers of
tables inside it may come before its own. -/

set_option autoImplicit false

namespace Stencil.Toml

/-- How a table came to be: by a header for a table inside it, by dotted keys, by its own header, or as the
value of a key. -/
inductive Origin where
  | implied
  | dotted
  | written
  | inline
  deriving DecidableEq, Repr

inductive Item where
  | plain (json : Json)
  | array (items : List Item)
  | table (origin : Origin) (entries : List (String × Item))
  | tables (earlier : List (List (String × Item))) (last : List (String × Item))

abbrev Table := List (String × Item)

/-- The order of keys in plain data. -/
def keyLe (a b : String × Json) : Bool := a.1 ≤ b.1

def sortedObject (entries : List (String × Json)) : Json := .object (entries.mergeSort keyLe)

/-- The instant that an item spells out; only a string does. -/
def Item.toInstant? : Item → Option Json
  | .plain (.string text) => readInstant? .string text.toList
  | _ => none

/-- The plain data of a table inside another, from that of its entries. A table whose first key is that of an
instant stands for the instant, and what else it holds is not looked at. -/
def Table.close? (table : Table) (entries : Option (List (String × Json))) : Option Json :=
  match table with
  | [] => entries.map sortedObject
  | (key, item) :: _ => if key = instantKey then item.toInstant? else entries.map sortedObject

mutual

/-- The plain data of an item, if the instants in it can be read. -/
def Item.toJson? : Item → Option Json
  | .plain json => some json
  | .array items => (itemsToJson? items).map .array
  | .table _ entries => Table.close? entries (entriesToJson? entries)
  | .tables earlier last =>
    match tablesToJson? earlier, Table.close? last (entriesToJson? last) with
    | some earlier, some last => some (.array (earlier ++ [last]))
    | _, _ => none

def itemsToJson? : List Item → Option (List Json)
  | [] => some []
  | item :: rest =>
    match item.toJson?, itemsToJson? rest with
    | some json, some rest => some (json :: rest)
    | _, _ => none

def entriesToJson? : List (String × Item) → Option (List (String × Json))
  | [] => some []
  | (key, item) :: rest =>
    match item.toJson?, entriesToJson? rest with
    | some json, some rest => some ((key, json) :: rest)
    | _, _ => none

def tablesToJson? : List (List (String × Item)) → Option (List Json)
  | [] => some []
  | entries :: rest =>
    match Table.close? entries (entriesToJson? entries), tablesToJson? rest with
    | some json, some rest => some (json :: rest)
    | _, _ => none

end

namespace Table

/-- The plain data of a whole document, which is always an object. -/
def toJson? (table : Table) : Option Json := (entriesToJson? table).map sortedObject

/-- Changes the table at a path below a table. Tables that are missing are made; the last of an array of tables
stands for it. -/
def change (origin : Origin) (f : Origin → Table → Option Table) (here : Origin) :
    List String → Table → Option Table
  | [], table => f here table
  | key :: path, table =>
    match Entries.get? key table with
    | none => (change origin f origin path []).map fun inner => Entries.insert key (.table origin inner) table
    | some (.plain _) | some (.array _) => none
    | some (.table existing inner) =>
      if existing = .inline ∨ (origin = .dotted ∧ existing = .written) then none
      else (change origin f existing path inner).map fun inner => Entries.insert key (.table existing inner) table
    | some (.tables earlier last) =>
      (change origin f .written path last).map fun last => Entries.insert key (.tables earlier last) table

/-- Adds an item under a key, of which all parts but the last name tables. -/
def insert (path : List String) (key : String) (item : Item) (table : Table) : Option Table :=
  change .dotted (fun origin inner =>
      if (origin = .dotted) = path.isEmpty ∨ (Entries.get? key inner).isSome then none
      else some (Entries.insert key item inner))
    .written path table

/-- A key, of which all parts but the last name tables, and its value. -/
structure Assignment where
  path : List String
  key : String
  item : Item

def insertAll (table : Table) : List Assignment → Option Table
  | [] => some table
  | a :: rest => (table.insert a.path a.key a.item).bind (insertAll · rest)

/-- Adds the table of a header with its values. It comes behind the tables that are there, also if headers of
tables inside it came before. -/
def define (path : List String) (key : String) (values : List Assignment) (root : Table) : Option Table :=
  change .implied (fun _ parent =>
      match Entries.get? key parent with
      | none => (insertAll [] values).map fun table => Entries.insert key (.table .written table) parent
      | some (.table .implied inner) =>
        (insertAll inner values).map fun table => parent.filter (·.1 ≠ key) ++ [(key, .table .written table)]
      | some _ => none)
    .written path root

def append (path : List String) (key : String) (values : List Assignment) (root : Table) : Option Table :=
  change .implied (fun _ parent =>
      match Entries.get? key parent with
      | none => (insertAll [] values).map fun table => Entries.insert key (.tables [] table) parent
      | some (.tables earlier last) =>
        (insertAll [] values).map fun table => Entries.insert key (.tables (earlier ++ [last]) table) parent
      | some _ => none)
    .written path root

end Table

end Stencil.Toml
