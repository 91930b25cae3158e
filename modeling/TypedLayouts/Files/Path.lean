/-!
# File paths

A path is the text that names a file, and two paths are the same when their components are: repeated
and trailing slashes do not count, nor does a `.` anywhere but at the start. Paths are ordered by
their components. A path keeps its text, which is what messages and listings show.
-/

namespace TypedLayouts

/-- One component of a path. -/
inductive Path.Component where
  /-- The slash that opens an absolute path. -/
  | root
  /-- The `.` that opens a relative path. -/
  | current
  /-- `..` -/
  | parent
  /-- A name. -/
  | name (name : String)
  deriving DecidableEq, Repr

/-- A path, as it is written. -/
structure Path where
  /-- The text of the path. -/
  text : String
  deriving DecidableEq, Repr, Inhabited

namespace Path

namespace Component

/-- The place of the kinds of components in the order. -/
def rank : Component → Nat
  | .root => 0
  | .current => 1
  | .parent => 2
  | .name _ => 3

/-- The name of a component, empty for those without one. -/
def label : Component → String
  | .name text => text
  | _ => ""

/-- Components are ordered by kind, and names among each other as texts. -/
instance : Ord Component :=
  ⟨compareLex (compareOn rank) (compareOn label)⟩

/-- The order of components is transitive. -/
instance : Std.TransOrd Component :=
  inferInstanceAs (Std.TransCmp (compareLex (compareOn rank) (compareOn label)))

/-- Components that compare as equal are equal. -/
instance : Std.LawfulEqOrd Component where
  compare_self := Std.ReflCmp.compare_self
  eq_of_compare {a b} h := by
    obtain ⟨hr, hl⟩ := Ordering.then_eq_eq.1 (show (compareOn rank a b).then _ = .eq from h)
    have ranks : a.rank = b.rank := Std.compare_eq_iff_eq.1 hr
    have labels : a.label = b.label := Std.compare_eq_iff_eq.1 hl
    cases a <;> cases b <;> simp_all [rank, label]

end Component

/-- The names between the slashes of a path, without empty ones. -/
def segments (p : Path) : List String :=
  ((p.text.toList.splitOn '/').map String.ofList).filter (!·.isEmpty)

/-- The path starts at the root. -/
def isAbsolute (p : Path) : Bool :=
  p.text.toList.head? == some '/'

/-- The component that a segment stands for; a `.` is none. -/
def Component.ofSegment? : String → Option Component
  | "." => none
  | ".." => some .parent
  | text => some (.name text)

/-- The components of a path. -/
def components (p : Path) : List Component :=
  let opening : List Component :=
    if p.isAbsolute then [.root] else if p.segments.head? = some "." then [.current] else []
  opening ++ p.segments.filterMap Component.ofSegment?

/-- How a component is written. -/
def Component.text : Component → String
  | .root => "/"
  | .current => "."
  | .parent => ".."
  | .name text => text

/-- The path from the root through some names. -/
def ofNames (names : List String) : Path :=
  ⟨"/" ++ String.intercalate "/" names⟩

/-- The path with some components, the last one first. -/
def ofReversed (components : List Component) : Path :=
  match components.reverse with
  | .root :: rest => ofNames (rest.map Component.text)
  | relative => ⟨String.intercalate "/" (relative.map Component.text)⟩

/-- The directories above the one with some components, the last one first. There is none above the
root, nor above the empty path. -/
def parents : List Component → List Path
  | [] => []
  | .root :: _ => []
  | _ :: rest => ofReversed rest :: parents rest

/-- A directory and those above it, the nearest first. -/
def ancestors (p : Path) : List Path :=
  p :: parents p.components.reverse

/-- Follow `p` by `q`. An absolute `q` stands alone. -/
def join (p q : Path) : Path :=
  if q.isAbsolute then q
  else if p.text.isEmpty || p.text.toList.getLast? == some '/' then ⟨p.text ++ q.text⟩
  else ⟨p.text ++ "/" ++ q.text⟩

/-- `p / q` is `q` seen from the directory `p`. -/
instance : Div Path :=
  ⟨join⟩

end Path

end TypedLayouts
