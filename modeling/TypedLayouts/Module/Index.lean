import TypedLayouts.Module.Name
import TypedLayouts.OrderedMap
import TypedLayouts.TypeScript.Syntax

/-!
# The index of clients

The index module exports every generated client under a name of its own, in the order of the schema
names. It depends on the set of names alone, not on the order in which they are given.
-/

namespace TypedLayouts.Module

open TypeScript

/-- A set of schema names. -/
abbrev NameSet := OrderedMap String Unit

namespace NameSet

/-- The set with one more name. -/
def add (s : NameSet) (name : String) : NameSet :=
  s.insert name ()

/-- The set of the names in a list. -/
def ofNames (names : List String) : NameSet :=
  names.foldl add ∅

end NameSet

/-- The statement that exports the client of a schema. -/
def exportClient (name : String) : Statement :=
  .exportFrom [⟨"client", clientName name⟩] ("./" ++ name)

/-- The index module of a set of schema names. -/
def indexModule (names : NameSet) : Document where
  body := names.keys.map exportClient

end TypedLayouts.Module
