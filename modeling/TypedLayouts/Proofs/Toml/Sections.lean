import Mathlib.Data.List.Forall2
import TypedLayouts.Proofs.Toml.Lines

/-!
# Documents made of sections

A document of lines with keys, and of headers with such lines below them. It is read by adding the
lines, and then one section after the other.
-/

namespace TypedLayouts.Toml

/-- A line with a key and a value, which is read as such whatever stands behind it. -/
structure KeyLine where
  /-- The text of the line. -/
  text : List Char
  /-- The key. -/
  key : String
  /-- What the value is read as. -/
  node : Node
  isLine : IsLine text (.pair ([], key, node))

namespace KeyLine

/-- The line `key = value`. -/
def setting (key : String) (v : Value) : KeyLine :=
  ⟨settingText key v, key, v.node, isLine_setting key v⟩

/-- The pair that the line is read as. -/
def pair (line : KeyLine) : Pair :=
  ([], line.key, line.node)

/-- The entry that the line makes. -/
def entry (line : KeyLine) : String × Node :=
  (line.key, line.node)

theorem entry_setting (key : String) (v : Value) : (setting key v).entry = (key, v.node) :=
  rfl

end KeyLine

/-- A header with the lines below it. -/
structure Section where
  /-- The header is one of a table that is repeated. -/
  repeated : Bool
  /-- The key in the header. -/
  key : String
  /-- The lines. -/
  lines : List KeyLine

namespace Section

/-- The text of the header. -/
def header (s : Section) : List Char :=
  if s.repeated then '[' :: '[' :: (keyText s.key ++ [']', ']'])
  else '[' :: (keyText s.key ++ [']'])

/-- The texts of the lines of a section, with an empty one in front. -/
def texts (s : Section) : List (List Char) :=
  [] :: s.header :: s.lines.map KeyLine.text

/-- What these are read as. -/
def read (s : Section) : List Line :=
  .empty :: (if s.repeated then .tableItem [] s.key else .table [] s.key)
    :: s.lines.map fun line => .pair line.pair

/-- Add the section to a document. -/
def addTo (entries : Entries) (s : Section) : Option Entries :=
  if s.repeated then addTableItem entries [] s.key (s.lines.map KeyLine.pair)
  else addTable entries [] s.key (s.lines.map KeyLine.pair)

theorem isLine_header (s : Section) :
    IsLine s.header (if s.repeated then .tableItem [] s.key else .table [] s.key) := by
  unfold header
  split
  · exact isLine_tableItem s.key
  · exact isLine_table s.key

end Section

/-- A document: lines, and sections behind them. -/
structure Document where
  /-- The lines before the first header. -/
  top : List KeyLine
  /-- The sections. -/
  sections : List Section

/-- The text of a document. -/
def Document.text (d : Document) : String :=
  String.ofList
    ((d.top.map KeyLine.text ++ d.sections.flatMap Section.texts).flatMap (· ++ ['\n']))

/-! ## Reading -/

variable {entries : Entries}

theorem isLine_lines (ls : List KeyLine) :
    List.Forall₂ IsLine (ls.map KeyLine.text) (ls.map fun line => .pair line.pair) := by
  induction ls with
  | nil => exact .nil
  | cons line ls ih => exact .cons line.isLine ih

theorem isLine_sections (sections : List Section) :
    List.Forall₂ IsLine (sections.flatMap Section.texts) (sections.flatMap Section.read) := by
  induction sections with
  | nil => exact .nil
  | cons s sections ih =>
    rw [List.flatMap_cons, List.flatMap_cons]
    exact List.rel_append (.cons isLine_empty (.cons s.isLine_header (isLine_lines s.lines))) ih

/-- No line opens with a byte order mark. -/
theorem head_ne_mark {text : List Char} {line : Line} (h : IsLine text line) :
    ∀ c ∈ text.head?, c.toNat ≠ 0xFEFF := by
  intro c hc hmark
  obtain ⟨cs, rfl⟩ := List.head?_eq_some_iff.mp hc
  obtain rfl : c = '\uFEFF' := Char.toNat_inj.mp hmark
  obtain ⟨behind, hbody, -⟩ := h []
  cases hbody

theorem leadingPairs_lines (ls : List KeyLine) (rest : List Line) :
    leadingPairs ((ls.map fun line => .pair line.pair) ++ rest) =
      ls.map KeyLine.pair ++ leadingPairs rest := by
  induction ls with
  | nil => rfl
  | cons line ls ih =>
    rw [List.map_cons, List.cons_append, leadingPairs, ih]
    rfl

theorem leadingPairs_sections (sections : List Section) :
    leadingPairs (sections.flatMap Section.read ++ [.empty]) = [] := by
  cases sections with
  | nil => rfl
  | cons s sections =>
    obtain ⟨_ | _, key, lines⟩ := s <;> rfl

theorem addSections_lines (ls : List KeyLine) (rest : List Line) :
    addSections entries ((ls.map fun line => .pair line.pair) ++ rest) =
      addSections entries rest := by
  induction ls with
  | nil => rfl
  | cons line ls ih => exact ih

theorem addSections_section (s : Section) {rest : List Line} (hrest : leadingPairs rest = []) :
    addSections entries (s.read ++ rest) = (s.addTo entries).bind (addSections · rest) := by
  obtain ⟨repeated, key, ls⟩ := s
  have hpairs : leadingPairs ((ls.map fun line => .pair line.pair) ++ rest) =
      ls.map KeyLine.pair := by
    rw [leadingPairs_lines, hrest, List.append_nil]
  have hlines : ∀ entries, addSections entries ((ls.map fun line => .pair line.pair) ++ rest) =
      addSections entries rest :=
    fun entries => addSections_lines ls rest
  cases repeated with
  | false =>
    calc addSections entries (Section.read ⟨false, key, ls⟩ ++ rest)
        = (addTable entries [] key
            (leadingPairs ((ls.map fun line => .pair line.pair) ++ rest))).bind
            (addSections · ((ls.map fun line => .pair line.pair) ++ rest)) := rfl
      _ = (addTable entries [] key (ls.map KeyLine.pair)).bind (addSections · rest) := by
          simp only [hpairs, hlines]
  | true =>
    calc addSections entries (Section.read ⟨true, key, ls⟩ ++ rest)
        = (addTableItem entries [] key
            (leadingPairs ((ls.map fun line => .pair line.pair) ++ rest))).bind
            (addSections · ((ls.map fun line => .pair line.pair) ++ rest)) := rfl
      _ = (addTableItem entries [] key (ls.map KeyLine.pair)).bind (addSections · rest) := by
          simp only [hpairs, hlines]

theorem addSections_sections (sections : List Section) (entries : Entries) :
    addSections entries (sections.flatMap Section.read ++ [.empty]) =
      sections.foldlM Section.addTo entries := by
  induction sections generalizing entries with
  | nil => rfl
  | cons s sections ih =>
    rw [List.flatMap_cons, List.append_assoc, List.foldlM_cons,
      addSections_section s (leadingPairs_sections sections)]
    exact congrArg _ (funext ih)

theorem withoutMark_lines {texts : List (List Char)} {read : List Line}
    (h : List.Forall₂ IsLine texts read) :
    withoutMark (texts.flatMap (· ++ ['\n'])) = texts.flatMap (· ++ ['\n']) := by
  cases h with
  | nil => rfl
  | @cons text line texts read hline _ =>
    cases text with
    | nil => rfl
    | cons c text => exact if_neg (head_ne_mark hline c rfl)

/-- A document is read by adding its lines and then its sections. -/
theorem ofText_text (d : Document) :
    ofText d.text =
      (addPairs .header [] (d.top.map KeyLine.pair)).bind (d.sections.foldlM Section.addTo) := by
  have hlines := List.rel_append (isLine_lines d.top) (isLine_sections d.sections)
  have hend : ∀ text : List Char, text ++ ['\n'] ≠ [] := by simp
  have hread := lines_of_isLine hlines (Nat.lt_succ_of_le (Text.length_le_flatMap hend _))
  have hleading : leadingPairs ((d.top.map fun line => .pair line.pair) ++
      d.sections.flatMap Section.read ++ [.empty]) = d.top.map KeyLine.pair := by
    rw [List.append_assoc, leadingPairs_lines, leadingPairs_sections, List.append_nil]
  have hsections : ∀ entries, addSections entries ((d.top.map fun line => .pair line.pair) ++
      d.sections.flatMap Section.read ++ [.empty]) = d.sections.foldlM Section.addTo entries := by
    intro entries
    rw [List.append_assoc, addSections_lines, addSections_sections]
  unfold ofText Document.text
  rw [String.toList_ofList, withoutMark_lines hlines]
  simp only [hread, Option.bind_eq_bind, Option.bind_some, hleading, hsections]

end TypedLayouts.Toml
