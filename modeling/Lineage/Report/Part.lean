import Lineage.Report.Table
import Lineage.Text.Marked

/-!
# Parts of a report

A report consists of lines and tables, whose texts may hold marks. `printed` is what is printed
of a report: its parts in order, up to the first one that cannot be shown.
-/

namespace Lineage.Report

/-- A value, unless there is a fault. -/
def orFault {α : Type} (fault : Option Text.MarkFault) (a : α) : Except Text.MarkFault α :=
  fault.elim (.ok a) .error

/-- The cells of some rows without marks. The cells of a column come before those of the next. -/
def shownRows (count : Nat) (rows : List (List String)) :
    Except Text.MarkFault (List (List Text.Shown)) := do
  let columns ← (List.range count).mapM fun n =>
    rows.mapM fun row => Text.shown ((row[n]?).getD "")
  return (List.range rows.length).map fun n => columns.map fun column =>
    (column[n]?).getD { text := "" }

/-- A table without marks. -/
def Table.shown (t : Table) : Except Text.MarkFault Sheet := do
  let rows ← shownRows t.headings.length t.rows
  let title ← Text.shown t.title
  orFault (title.fault?.or (rows.flatten.findSome? Text.Shown.fault?))
    { title := title.text, headings := t.headings, rows := rows }

/-- A part of a report. -/
inductive Part where
  | line (text : String)
  | table (t : Table)
  deriving DecidableEq, Repr

/-- A text on as many lines as the page needs for it. -/
def paragraph (text : String) : String :=
  String.ofList ((Layout.lines {} pageWidth text.toList).flatMap (· ++ ['\n']))

/-- The text of a part. -/
def Part.text : Part → Except Text.MarkFault String
  | line text => do
    let shown ← Text.shown text
    orFault shown.fault? (paragraph shown.text)
  | table t => t.shown.map Sheet.draw

/-- The texts that are printed one after the other, and the fault that put an end to it, if there
was one. -/
structure Printout where
  texts : List String := []
  fault : Option Text.MarkFault := none
  deriving DecidableEq, Repr, Inhabited

/-- All that is printed. -/
def Printout.text (p : Printout) : String :=
  String.join p.texts

/-- What is printed of a report. -/
def printed : List Part → Printout
  | [] => {}
  | p :: ps =>
    match p.text with
    | .error fault => { fault := some fault }
    | .ok text =>
      let rest := printed ps
      { rest with texts := text :: rest.texts }

end Lineage.Report
