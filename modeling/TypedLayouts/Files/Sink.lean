import TypedLayouts.Files.FileError
import TypedLayouts.Files.Path

/-!
# Where generated files go

A run needs two operations of its output: to make sure that a directory exists, and to write a file.
`Sink` is a pair of these in any monad, with failures of type `ε`.
-/

namespace TypedLayouts

/-- A place for generated files. -/
structure Sink (ε : Type) (m : Type → Type) where
  /-- Make a directory and those above it, where they are missing. -/
  ensureDir : Path → m (Except ε Unit)
  /-- Write a file; what was there before is replaced. -/
  writeFile : Path → String → m (Except ε Unit)

end TypedLayouts
