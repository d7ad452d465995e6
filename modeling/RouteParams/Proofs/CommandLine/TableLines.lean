import Mathlib.Data.List.Forall2
import RouteParams.CommandLine.Program
import RouteParams.Proofs.Text.Visible

/-!
The lines of the table of segments. The columns stand at the same offsets in all lines, whatever the cells hold. Of the
cells only the names are shown as they are, so the table has a line for each segment as long as no name holds a newline,
which alone ends a line here.
-/
namespace RouteParams.CommandLine

/-- The lines of a text. Each of them is ended by a newline and holds no other. Only the newline ends a line here:
carriage returns, which end lines in a file that is read, and the other characters at which a text may be split into
lines all stand within one. -/
structure HasLines (text : String) (parts : List String) : Prop where
  whole : text = String.join (parts.map fun part => part ++ "\n")
  single : ∀ part ∈ parts, '\n' ∉ part.toList

theorem count_newline_lines (parts : List String) :
    (lines parts).toList.count '\n' = parts.length + (parts.flatMap String.toList).count '\n' := by
  rw [lines, String.toList_join]
  induction parts with
  | nil => rfl
  | cons part parts ih =>
    have last : "\n".toList.count '\n' = 1 := by decide
    rw [List.map_cons, List.flatMap_cons, List.count_append, ih, String.toList_append, List.count_append, last]
    rw [List.flatMap_cons, List.count_append, List.length_cons]
    omega

theorem HasLines.count_newline {text : String} {parts : List String} (has : HasLines text parts) :
    text.toList.count '\n' = parts.length := by
  have none : (parts.flatMap String.toList).count '\n' = 0 := by
    rw [List.count_eq_zero]
    simpa using has.single
  rw [has.whole]
  exact (count_newline_lines parts).trans (by rw [none, Nat.add_zero])

namespace Table

/-- Where the columns after the first one begin. -/
structure Offsets where
  type : Nat
  name : Nat
  depth : Nat

def blanks (count : Nat) : String :=
  String.ofList (List.replicate count ' ')

/-- The line holds the cells of a row with at least two blanks between a cell and the next column, and the columns
begin at the offsets. -/
inductive Aligned (offsets : Offsets) (row : Row) : String → Prop
  | intro (first second third : Nat) (apart : 2 ≤ first ∧ 2 ≤ second ∧ 2 ≤ third)
      (type : row.segment.length + first = offsets.type)
      (name : offsets.type + row.type.length + second = offsets.name)
      (depth : offsets.name + row.name.length + third = offsets.depth) :
      Aligned offsets row (row.segment ++ blanks first ++ row.type ++ blanks second ++ row.name ++ blanks third ++
        row.depth)

/-- The cells tell of a segment. -/
structure Describes (text : String) (row : Row) : Prop where
  segment : row.segment = Text.quoted text
  type : row.type = (SegmentForm.ofText text).label
  name : (SegmentForm.ofText text).marker? = none → row.name = (SegmentForm.ofText text).name
  marked : ∀ marker, (SegmentForm.ofText text).marker? = some marker →
    row.name = (SegmentForm.ofText text).name ++ " (" ++ marker.text ++ ")"
  depth : row.depth = toString (SegmentForm.ofText text).contribution

/-- A header, a rule as long as the header but no longer than eighty characters, and a line for each segment. -/
structure Shows (offsets : Offsets) (segments : List String) (head rule : String) (body : List String) : Prop where
  headed : Aligned offsets header head
  ruled : rule = String.ofList (List.replicate (min head.length 80) '-')
  rows : List.Forall₂ (fun segment line => ∃ row, Describes segment row ∧ Aligned offsets row line) segments body

/-- The lines of the text are a table of the segments. -/
def Tabulates (segments : List String) (text : String) : Prop :=
  ∃ offsets head rule body, HasLines text (head :: rule :: body) ∧ Shows offsets segments head rule body

/-! ## Columns -/

structure Fits (widths : Widths) (row : Row) : Prop where
  segment : row.segment.length ≤ widths.segment
  type : row.type.length ≤ widths.type
  name : row.name.length ≤ widths.name

theorem length_le_widest {cell : Row → String} {rows : List Row} {row : Row} (member : row ∈ rows) :
    (cell row).length ≤ (rows.map fun row => (cell row).length).foldl max 0 := by
  rw [List.foldl_max, Nat.zero_max]
  exact List.le_max?_getD_of_mem (List.mem_map_of_mem member)

theorem fits_widths {rows : List Row} {row : Row} (member : row ∈ rows) : Fits (widths rows) row :=
  ⟨length_le_widest member, length_le_widest member, length_le_widest member⟩

def offsets (widths : Widths) : Offsets where
  type := widths.segment + 2
  name := widths.segment + 2 + widths.type + 2
  depth := widths.segment + 2 + widths.type + 2 + widths.name + 2

theorem filled_append_blanks (width : Nat) (text : String) :
    filled width text ++ "  " = text ++ blanks (width - text.length + 2) := by
  rw [filled, String.append_assoc, blanks, List.replicate_add, String.ofList_append]
  rfl

theorem line_eq (widths : Widths) (row : Row) :
    line widths row =
      row.segment ++ blanks (widths.segment - row.segment.length + 2) ++ row.type ++
        blanks (widths.type - row.type.length + 2) ++ row.name ++ blanks (widths.name - row.name.length + 2) ++
        row.depth := by
  simp only [← filled_append_blanks, line, String.append_assoc]

theorem aligned_line {widths : Widths} {row : Row} (fits : Fits widths row) :
    Aligned (offsets widths) row (line widths row) := by
  obtain ⟨segment, type, name⟩ := fits
  rw [line_eq]
  refine .intro _ _ _ ⟨by omega, by omega, by omega⟩ ?_ ?_ ?_ <;> simp only [offsets] <;> omega

theorem length_blanks (count : Nat) : (blanks count).length = count := by
  rw [blanks, String.length_ofList, List.length_replicate]

theorem length_line {widths : Widths} {row : Row} (fits : Fits widths row) :
    (line widths row).length = (offsets widths).depth + row.depth.length := by
  obtain ⟨segment, type, name⟩ := fits
  simp only [line_eq, String.length_append, length_blanks, offsets]
  omega

theorem describes_row (segment : String) : Describes segment (row segment) := by
  refine ⟨rfl, rfl, fun plain => ?_, fun marker marked => ?_, rfl⟩
  · rw [row, plain]
  · rw [row, marked]

theorem rule_eq {widths : Widths} (fits : Fits widths header) :
    rule widths = String.ofList (List.replicate (min (line widths header).length 80) '-') := by
  have length : widths.segment + widths.type + widths.name + 11 = (line widths header).length := by
    rw [length_line fits]
    change _ = widths.segment + 2 + widths.type + 2 + widths.name + 2 + 5
    omega
  rw [rule, length]
  rfl

theorem shows_ofSegments (segments : List String) :
    let rows := segments.map row
    let widths := widths (header :: rows)
    Shows (offsets widths) segments (line widths header) (rule widths) (rows.map (line widths)) := by
  intro rows widths
  have fits : ∀ row ∈ header :: rows, Fits widths row := fun _ => fits_widths
  refine ⟨aligned_line (fits header List.mem_cons_self), rule_eq (fits header List.mem_cons_self), ?_⟩
  rw [List.map_map, List.forall₂_map_right_iff, List.forall₂_same]
  intro segment member
  exact ⟨row segment, describes_row segment,
    aligned_line (fits _ (List.mem_cons_of_mem _ (List.mem_map_of_mem member)))⟩

/-! ## Ends of lines -/

theorem isVisible_kind (kind : ParamKind) : Text.IsVisible kind.text := by
  cases kind <;> decide

theorem isVisible_label (form : SegmentForm) : Text.IsVisible form.label := by
  cases form with
  | root => decide
  | group name => exact (by decide : Text.IsVisible "route-group")
  | interception marker name => exact (by decide : Text.IsVisible "interception")
  | param kind name => exact isVisible_kind kind
  | literal text => exact (by decide : Text.IsVisible "static")

theorem count_newline_visible {text : String} (visible : Text.IsVisible text) : text.toList.count '\n' = 0 :=
  List.count_eq_zero.2 visible.newline_not_mem

theorem count_newline_filled (width : Nat) (text : String) :
    (filled width text).toList.count '\n' = text.toList.count '\n' := by
  have none : (List.replicate (width - text.length) ' ').count '\n' = 0 := by simp [List.count_replicate]
  rw [filled, String.toList_append, String.toList_ofList, List.count_append, none, Nat.add_zero]

theorem count_newline_line (widths : Widths) (row : Row) :
    (line widths row).toList.count '\n' =
      row.segment.toList.count '\n' + row.type.toList.count '\n' + row.name.toList.count '\n' +
        row.depth.toList.count '\n' := by
  have between : "  ".toList.count '\n' = 0 := by decide
  simp only [line, String.toList_append, List.count_append, count_newline_filled, between, Nat.add_zero]

theorem count_newline_name (segment : String) :
    (row segment).name.toList.count '\n' = (SegmentForm.ofText segment).name.toList.count '\n' := by
  obtain ⟨_, _, plain, marked, _⟩ := describes_row segment
  cases form : (SegmentForm.ofText segment).marker? with
  | none => rw [plain form]
  | some marker =>
    have shown : (" (" ++ marker.text ++ ")").toList.count '\n' = 0 := by cases marker <;> decide
    rw [marked marker form, String.append_assoc, String.append_assoc, String.toList_append, List.count_append,
      ← String.append_assoc, shown, Nat.add_zero]

theorem count_newline_row (widths : Widths) (segment : String) :
    (line widths (row segment)).toList.count '\n' = (SegmentForm.ofText segment).name.toList.count '\n' := by
  have quoted : (row segment).segment.toList.count '\n' = 0 := count_newline_visible (Text.isVisible_quoted segment)
  have label : (row segment).type.toList.count '\n' = 0 := count_newline_visible (isVisible_label _)
  have depth : (row segment).depth.toList.count '\n' = 0 := count_newline_visible (Text.isVisible_nat _)
  simp only [count_newline_line, quoted, label, depth, count_newline_name, Nat.zero_add, Nat.add_zero]

theorem count_newline_header (widths : Widths) : (line widths header).toList.count '\n' = 0 :=
  (count_newline_line widths header).trans (by decide)

theorem count_newline_rule (widths : Widths) : (rule widths).toList.count '\n' = 0 := by
  simp [rule, List.count_replicate]

theorem count_newline_ofSegments (segments : List String) :
    (lines (ofSegments segments)).toList.count '\n' =
      segments.length + 2 + (segments.flatMap fun segment => (SegmentForm.ofText segment).name.toList).count '\n' := by
  have length : (ofSegments segments).length = segments.length + 2 := by
    simp only [ofSegments, List.length_cons, List.length_map]
  rw [count_newline_lines, length, ofSegments]
  simp only [List.flatMap_cons, List.count_append, count_newline_header, count_newline_rule, Nat.zero_add,
    List.flatMap_map, List.count_flatMap, Function.comp_def, count_newline_row]

theorem newline_not_mem_ofSegments {segments : List String}
    (clear : ∀ segment ∈ segments, '\n' ∉ (SegmentForm.ofText segment).name.toList) :
    ∀ part ∈ ofSegments segments, '\n' ∉ part.toList := by
  refine List.forall_mem_cons.2 ⟨List.count_eq_zero.1 (count_newline_header _), ?_⟩
  refine List.forall_mem_cons.2 ⟨List.count_eq_zero.1 (count_newline_rule _), ?_⟩
  intro part member
  rw [List.map_map] at member
  obtain ⟨segment, among, rfl⟩ := List.mem_map.1 member
  rw [← List.count_eq_zero]
  exact (count_newline_row _ segment).trans (List.count_eq_zero.2 (clear segment among))

/-- The table has its lines exactly if no segment's name holds a newline: a name is shown as it is, and every other
cell is visible on one line. A carriage return in a name ends no line here, though it may where the table is read. -/
theorem tabulates_iff (segments : List String) :
    Tabulates segments (lines (ofSegments segments)) ↔
      ∀ segment ∈ segments, '\n' ∉ (SegmentForm.ofText segment).name.toList := by
  constructor
  · rintro ⟨offsets, head, rule, body, has, shows⟩ segment member inside
    have named : (segments.flatMap fun segment => (SegmentForm.ofText segment).name.toList).count '\n' = 0 := by
      have counted := has.count_newline
      have length := shows.rows.length_eq
      rw [count_newline_ofSegments, List.length_cons, List.length_cons] at counted
      omega
    exact List.count_eq_zero.1 named (List.mem_flatMap.2 ⟨segment, member, inside⟩)
  · intro clear
    exact ⟨_, _, _, _, ⟨rfl, newline_not_mem_ofSegments clear⟩, shows_ofSegments segments⟩

theorem tabulates_when_newline_is_no_part_of_name :
    let segments := ["[id]\n", "(..)(..)it's", "(shop)", "[[...é]]", ""]
    let table := "SEGMENT         TYPE               NAME             DEPTH\n" ++
      "---------------------------------------------------------\n" ++
      "'[id]\\n'        dynamic            id               1\n" ++
      "\"(..)(..)it's\"  interception       it's ((..)(..))  1\n" ++
      "'(shop)'        route-group        shop             0\n" ++
      "'[[...é]]'      optional-catchall  é                1\n" ++
      "''              root                                0\n"
    (∀ segment ∈ segments, '\n' ∉ (SegmentForm.ofText segment).name.toList) ∧
      lines (ofSegments segments) = table ∧ Tabulates segments table := by
  intro segments table
  have clear : ∀ segment ∈ segments, '\n' ∉ (SegmentForm.ofText segment).name.toList := by decide +kernel
  have printed : lines (ofSegments segments) = table := by decide +kernel
  exact ⟨clear, printed, printed ▸ (tabulates_iff segments).2 clear⟩

theorem not_tabulates_when_name_holds_newline :
    let table := "SEGMENT  TYPE    NAME  DEPTH\n----------------------------\n'a\\nb'   static  a\nb   1\n"
    run (fun path => .error (.missing path)) ["classify", "a\nb"] = .success table ∧ ¬Tabulates ["a\nb"] table := by
  intro table
  have ends : table.toList.count '\n' = 4 := by decide +kernel
  refine ⟨by decide +kernel, ?_⟩
  rintro ⟨offsets, head, rule, body, has, shows⟩
  have counted := has.count_newline
  rw [ends, List.length_cons, List.length_cons, ← shows.rows.length_eq] at counted
  exact absurd counted (by decide)

end Table
end RouteParams.CommandLine
