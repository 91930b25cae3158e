/-!
# TOML documents as trees

A document is a tree of tables. How a table came to be decides what may still be added to it, so
every table remembers it: a table with a header of its own cannot be opened again, one that a longer
header implied may still get its own, one that dotted keys imply takes only further dotted keys, and
an inline table is complete.

Numbers and dates are told apart from other values, but their values are not kept.
-/

namespace TypedLayouts.Toml

/-- How a table came to be. -/
inductive Origin where
  /-- It is the document itself, or has a header of its own. -/
  | header
  /-- The header of a table inside it implies it. -/
  | implied
  /-- Dotted keys imply it. -/
  | dotted
  /-- It was written between braces. -/
  | inline
  deriving DecidableEq, Repr

/-- A value or table of a document. -/
inductive Node where
  /-- A string. -/
  | string (text : String)
  /-- A boolean. -/
  | bool (value : Bool)
  /-- A number. -/
  | number
  /-- A date or time. -/
  | date
  /-- An array. -/
  | array (items : List Node)
  /-- A table with its entries in order. -/
  | table (origin : Origin) (entries : List (String × Node))
  /-- The tables of a repeated header in order. -/
  | tables (items : List Node)
  deriving Repr, Inhabited

/-- The entries of a table in order, no key twice. -/
abbrev Entries := List (String × Node)

namespace Entries

/-- The node at a key. -/
def find? (entries : Entries) (key : String) : Option Node :=
  (List.find? (fun e => e.1 = key) entries).map (·.2)

/-- Put a node at a key: in the place of the one that is there, or at the end. -/
def put (entries : Entries) (key : String) (node : Node) : Entries :=
  if entries.any fun e => e.1 = key then
    entries.map fun e => if e.1 = key then (key, node) else e
  else entries ++ [(key, node)]

/-- The entries without a key. -/
def erase (entries : Entries) (key : String) : Entries :=
  entries.filter fun e => e.1 ≠ key

end Entries

/-- Change the last element of a list. -/
def changeLast {α : Type} (f : α → Option α) : List α → Option (List α)
  | [] => none
  | [a] => (f a).map ([·])
  | a :: rest => (changeLast f rest).map (a :: ·)

/-- Change the table at the end of some keys, which are followed from a table with the given
entries. Tables that are missing on the way are made, with the origin `missing`. `enter` says which
tables may be entered. The change is told the origin of the table it is made in. -/
def changeAt (missing : Origin) (enter : Origin → Bool) (here : Origin) :
    List String → (Origin → Entries → Option Entries) → Entries → Option Entries
  | [], change, entries => change here entries
  | key :: keys, change, entries =>
    match entries.find? key with
    | none =>
      (changeAt missing enter missing keys change []).map fun inner =>
        entries.put key (.table missing inner)
    | some (.table origin inner) =>
      if enter origin then
        (changeAt missing enter origin keys change inner).map fun inner =>
          entries.put key (.table origin inner)
      else none
    | some (.tables items) =>
      (changeLast (fun item =>
        match item with
        | .table origin inner =>
          (changeAt missing enter origin keys change inner).map (.table origin ·)
        | _ => none) items).map fun items => entries.put key (.tables items)
    | some _ => none

/-- Add a value under a dotted key to a table with the given origin. The tables on the way are those
that dotted keys imply, and the key must be new. -/
def addPair (here : Origin) (entries : Entries) (path : List String) (key : String) (node : Node) :
    Option Entries :=
  let dotted := !path.isEmpty
  changeAt .dotted (fun o => o = .implied ∨ o = .dotted) here path
    (fun origin inner =>
      if dotted ∧ origin ≠ .dotted then none
      else if (inner.find? key).isSome then none
      else some (inner ++ [(key, node)])) entries

/-- Which tables a header may lead through: all but inline ones. -/
def headerEnters (origin : Origin) : Bool :=
  origin ≠ .inline

/-- Add the pairs of a section to the table that its header opens. -/
def addPairs (here : Origin) (entries : Entries) : List (List String × String × Node) →
    Option Entries
  | [] => some entries
  | (path, key, node) :: rest => do
    addPairs here (← addPair here entries path key node) rest

/-- Add a section with the header `[path.key]`. -/
def addTable (entries : Entries) (path : List String) (key : String)
    (pairs : List (List String × String × Node)) : Option Entries :=
  changeAt .implied headerEnters .header path
    (fun _ inner =>
      let section? :=
        match inner.find? key with
        | none => some []
        | some (.table .implied start) => some start
        | some _ => none
      do
        let start ← section?
        let added ← addPairs .header start pairs
        return (inner.erase key) ++ [(key, .table .header added)]) entries

/-- Add a section with the header `[[path.key]]`. -/
def addTableItem (entries : Entries) (path : List String) (key : String)
    (pairs : List (List String × String × Node)) : Option Entries :=
  changeAt .implied headerEnters .header path
    (fun _ inner =>
      match inner.find? key with
      | none => do return inner ++ [(key, .tables [.table .header (← addPairs .header [] pairs)])]
      | some (.tables items) => do
        return inner.put key (.tables (items ++ [.table .header (← addPairs .header [] pairs)]))
      | some _ => none) entries

end TypedLayouts.Toml
