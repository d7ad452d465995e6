import RouteParams.Segment.OfText
import RouteParams.Text.Quoted

/-!
The table of classified segments: a header, a rule beneath it and one line for each segment. A column
is as wide as its widest cell, counted in characters; the last column is not filled up.
-/
namespace RouteParams.CommandLine.Table

structure Row where
  segment : String
  type : String
  name : String
  depth : String
  deriving DecidableEq

def header : Row := ⟨"SEGMENT", "TYPE", "NAME", "DEPTH"⟩

/-- An interception shows its marker after its name. -/
def row (segment : String) : Row :=
  let form := SegmentForm.ofText segment
  let name := match form.marker? with
    | none => form.name
    | some marker => form.name ++ " (" ++ marker.text ++ ")"
  ⟨Text.quoted segment, form.label, name, toString form.contribution⟩

structure Widths where
  segment : Nat
  type : Nat
  name : Nat
  deriving DecidableEq

def widths (rows : List Row) : Widths :=
  let widest := fun cell : Row → String => (rows.map fun row => (cell row).length).foldl max 0
  ⟨widest Row.segment, widest Row.type, widest Row.name⟩

def filled (width : Nat) (text : String) : String :=
  text ++ String.ofList (List.replicate (width - text.length) ' ')

def line (widths : Widths) (row : Row) : String :=
  filled widths.segment row.segment ++ "  " ++ filled widths.type row.type ++ "  "
    ++ filled widths.name row.name ++ "  " ++ row.depth

def longestRule : Nat := 80

/-- The rule is as long as the header line. -/
def rule (widths : Widths) : String :=
  let length := widths.segment + widths.type + widths.name + 11
  String.ofList (List.replicate (min length longestRule) '-')

def ofSegments (segments : List String) : List String :=
  let rows := segments.map row
  let widths := widths (header :: rows)
  line widths header :: rule widths :: rows.map (line widths)

end RouteParams.CommandLine.Table
