import LedgerQuery.Number.Notation
import LedgerQuery.Query.Columnar
import LedgerQuery.Unicode.Width

/-!
# Results as grids of text

A grid has a line above and below its labels and one below its rows. Every column is as wide as its
widest text and one blank on either side. A text of several lines takes several lines of the grid.
-/

namespace LedgerQuery.Report

open Query (Column ResultSet)

def cellTexts : Column → List String
  | .integers cells => cells.map fun a => (a.map Number.decimalDigits).getD ""
  | .floats cells => cells.map fun a => (a.map (Number.Binary64.render .tabular)).getD ""
  | .texts cells => cells.map fun a => a.getD ""

def lines (s : String) : List String := (s.toList.splitOn '\n').map String.ofList

/-- A text filled up with blanks. -/
def fillUp (width : Nat) (s : String) : String :=
  s ++ .ofList (List.replicate (width - Unicode.width s) ' ')

def columnWidth (texts : List String) : Nat :=
  ((texts.flatMap lines).map Unicode.width).foldl max 0

def border (widths : List Nat) : String :=
  "+" ++ String.join (widths.map fun n => .ofList (List.replicate (n + 2) '-') ++ "+")

/-- One line of a row, whose texts have the widths of their columns. -/
def rowLine (texts : List String) : String :=
  "|" ++ String.join (texts.map fun s => " " ++ s ++ " |")

/-- The lines of a row, as many as its tallest text has. -/
def rowLines (widths : List Nat) (texts : List String) : List String :=
  let cells := texts.map lines
  let height := (cells.map List.length).foldl max 0
  (List.range height).map fun i =>
    rowLine ((cells.zip widths).map fun p => fillUp p.2 (p.1[i]?.getD ""))

/-- A grid of labelled columns, line by line. -/
def grid (columns : List (String × List String)) (rows : Nat) : List String :=
  let widths := columns.map fun c => columnWidth (c.1 :: c.2)
  let labels := rowLines widths (columns.map Prod.fst)
  let body := (List.range rows).flatMap fun i =>
    rowLines widths (columns.map fun c => c.2[i]?.getD "")
  [border widths] ++ labels ++ [border widths] ++ body ++ [border widths]

/-- A result as a grid; one without columns has none. -/
def ofResult? (r : ResultSet) : Option (List String) :=
  r.columnar?.map fun columns =>
    grid (columns.map fun c => (c.1, cellTexts c.2)) r.rows.length

end LedgerQuery.Report
