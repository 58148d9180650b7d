import Lineage.Command.Basic
import Lineage.Document.Wholeness
import Lineage.Folder
import Lineage.Report.Text
import Lineage.Settings
import Lineage.View.Render

/-!
# Running commands

`Command.run` is what a command does in a folder: the text it prints, the warnings and errors
beside it, the files it writes and the code it ends with. What the command line does not say is
taken from the settings.
-/

namespace Lineage.Command

/-- Why a command cannot do its work. -/
inductive Failure where
  | view (name : String)
  | direction (name : String)
  | format (name : String) (allowed : List String)
  | analysis (fault : Analysis.Fault)
  | drawing (fault : View.Fault)
  | unknown (element : Diagram.Unknown)
  | output (path : String) (obstacle : Folder.Obstacle)
  | marks (fault : Text.MarkFault)
  /-- A document that is to be stored has half characters. -/
  | torn (tear : Tear)
  /-- A line that is to be printed has half characters. -/
  | tornLine (tear : Tear)
  /-- A report has half characters. -/
  | tornReport (tear : Tear)

/-- The report of something that no command reckons with. -/
def unexpected (what : String) : String :=
  s!"Unexpected error: {what}"

/-- The report of a text that cannot be shown. -/
def reportMessage : Text.MarkFault → String
  | .color fault => fault.message
  | fault => unexpected fault.message

/-- The report of a failure. -/
def Failure.message : Failure → String
  | view name =>
    let names := String.intercalate ", " (View.names.map Prod.fst)
    s!"Invalid view '{name}'. Use one of: {names}."
  | direction name =>
    s!"Invalid direction '{name}'. Use 'upstream', 'downstream', or 'both'."
  | format name allowed =>
    let names := String.intercalate ", " (allowed.map fun f => s!"'{f}'")
    s!"Invalid output format '{name}'. Use {names}."
  | analysis fault => fault.message
  | drawing (.report fault) => reportMessage fault
  | drawing (.name .tooManyPieces) => QualifiedName.Fault.tooManyPieces.message
  | drawing (.name fault) => unexpected fault.message
  | unknown element => element.message
  | output path .noFolder => s!"[Errno 2] No such file or directory: {Text.quoted path}"
  | output path .isFolder => unexpected s!"[Errno 21] Is a directory: {Text.quoted path}"
  | output path .throughFile => unexpected s!"[Errno 20] Not a directory: {Text.quoted path}"
  | output path .longName => unexpected s!"[Errno 36] File name too long: {Text.quoted path}"
  | marks fault => reportMessage fault
  | torn tear => tear.storingMessage
  | tornLine tear => tear.message
  | tornReport tear =>
    tear.message ++ "\n*** You may need to add PYTHONIOENCODING=utf-8 to your environment ***"

/-- The report of a failure. If it cannot be shown, nothing is printed. -/
def Failure.printed (failure : Failure) : String :=
  (Report.printed [.line ("[red]Error:[/red] " ++ failure.message)]).text

/-- What a command leaves behind. -/
structure Outcome where
  exitCode : Nat := 0
  /-- The text that is printed. -/
  printed : String := ""
  /-- The text that is printed beside it: warnings and errors. -/
  notices : String := ""
  /-- The paths of the files that are written, with their texts. -/
  written : List (Path × String) := []
  deriving DecidableEq, Repr, Inhabited

/-- The work of a command that prints, warns and may fail. -/
structure Work where
  warnings : String := ""
  result : Except Failure Outcome

/-- The outcome of a command line that makes no sense. -/
def Outcome.misused : Outcome :=
  { exitCode := 2 }

/-- The outcome of a failure. -/
def Outcome.failed (failure : Failure) : Outcome :=
  { exitCode := 1, notices := failure.printed }

/-- An outcome after some warnings. -/
def Outcome.after (warnings : String) (outcome : Outcome) : Outcome :=
  { outcome with notices := warnings ++ outcome.notices }

/-- The outcome of some work. -/
def Work.outcome (w : Work) : Outcome :=
  Outcome.after w.warnings <|
    match w.result with
    | .ok outcome => outcome
    | .error failure => .failed failure

/-- Work that fails. -/
def Work.fail (failure : Failure) : Work :=
  { result := .error failure }

/-- An outcome that is nothing but a printed text. -/
def Outcome.print (text : String) : Outcome :=
  { printed := text }

/-- The outcome of a failure after some texts have been printed. -/
def Outcome.failedAfter (texts : List String) (failure : Failure) : Outcome :=
  { Outcome.failed failure with printed := String.join texts }

/-- An outcome that is nothing but a printed report. It fails at the first part that cannot be
shown or has half characters. -/
def Outcome.report (parts : List Report.Part) : Outcome :=
  let printout := Report.printed parts
  match Text.tornText? printout.texts, printout.fault with
  | some (before, tear), _ => .failedAfter before (.tornReport tear)
  | none, some fault => .failedAfter printout.texts (.marks fault)
  | none, none => .print printout.text

/-! ### Choices -/

/-- The view that is asked for, that is set, or that of tables. -/
def chooseView (asked : Option String) (settings : Settings) : Except Failure View :=
  match asked with
  | none => .ok (settings.view.getD .table)
  | some name =>
    match View.names.lookup (Text.lower name) with
    | some view => .ok view
    | none => .error (.view name)

/-- The direction that is asked for. -/
def chooseDirection (name : String) : Except Failure Direction :=
  match Direction.names.lookup (Text.lower name) with
  | some direction => .ok direction
  | none => .error (.direction name)

/-- The format that is asked for, that is set, or that of texts. -/
def chooseFormat (asked : Option String) (settings : Settings) (allowed : List String) :
    Except Failure String :=
  let format := (Text.filled (Text.orElse asked settings.format)).getD "text"
  if allowed.contains format then .ok format else .error (.format format allowed)

/-- The names that are asked for, or else those that are set. -/
def chooseNames (asked : List String) (set : Option (List String)) : List String :=
  if asked.isEmpty then set.getD [] else asked

/-- The options that follow from the settings alone. -/
def settledOptions (settings : Settings) (a : Analysis) : Options :=
  { collapsedByDefault := settings.collapsed.getD false
    scope :=
      { schemas := settings.schemas.getD [], databases := settings.databases.getD [] }
    focus := settings.focus.getD false
    catalog := a.catalog }

/-- The options that `render` is asked for. -/
def requestedOptions (settings : Settings) (a : Analysis) (direction : Direction)
    (r : RenderRequest) : Options :=
  { selected := r.selected
    searchTerm := r.searchTerm.getD ""
    collapsedByDefault := r.collapsed.getD (settings.collapsed.getD false)
    expanded := r.expanded
    scope :=
      { schemas := chooseNames r.schemas settings.schemas
        databases := chooseNames r.databases settings.databases }
    selection := { labels := r.tables, direction := direction }
    focus := r.focus.getD (settings.focus.getD false)
    catalog := a.catalog }

/-- The statements at the positions that are asked for, or all if none are. -/
def chooseStatements (a : Analysis) (positions : List Int) : List Statement :=
  Statement.select a.statements (if positions.isEmpty then none else some positions)

/-! ### Work -/

/-- Work that needs a diagram, which is drawn with warnings. -/
def drawing (view : View) (statements : List Statement) (options : Options)
    (draw : View → List Statement → Options → Except View.Fault Diagram)
    (use : Diagram → Except Failure Outcome) : Work :=
  { warnings := view.warnings statements options
    result := ((draw view statements options).mapError .drawing).bind use }

/-- Work that needs choices to be made and the analysis to be read. -/
def withAnalysis {α : Type} (content : String) (choices : Except Failure α)
    (work : α → Analysis → Work) : Work :=
  match choices with
  | .error failure => .fail failure
  | .ok choice =>
    match Analysis.parseFile content with
    | .error fault => .fail (.analysis fault)
    | .ok a => work choice a

/-- What is done with a document that is to be stored. It has to be whole. -/
def storing {α : Type} (document : Data) (use : Except Failure α) : Except Failure α :=
  match document.torn? with
  | some tear => .error (.torn tear)
  | none => use

/-- The diagram written to a file. -/
def writeDiagram (folder : Folder) (output : String) (d : Diagram) : Except Failure Outcome :=
  let path := Path.ofString output
  match folder.obstacle? path with
  | some obstacle => .error (.output path.text obstacle)
  | none =>
    let name := path.text
    let boxCount := d.boxes.length
    let linkCount := d.links.length
    let report :=
      [.line <|
        s!"[green]Success:[/green] Graph saved to {name} " ++
          s!"({boxCount} nodes, {linkCount} edges)"]
    .ok { Outcome.report report with written := [(path, d.save)] }

/-- What `render` does with the diagram. -/
def showDiagram (folder : Folder) (view : View) (format : String) (output : Option String)
    (d : Diagram) : Except Failure Outcome :=
  match output with
  | some output => storing d.document (writeDiagram folder output d)
  | none =>
    if format = "json" then storing d.document (.ok (.print (d.save ++ "\n")))
    else .ok (.report (d.report view))

/-- The work of `render`. -/
def runRender (folder : Folder) (settings : Settings) (content : String) (r : RenderRequest) :
    Work :=
  let choices := do
    let view ← chooseView r.view settings
    let direction ← chooseDirection r.direction
    let format ← chooseFormat r.format settings ["text", "json"]
    return (view, direction, format)
  withAnalysis content choices fun (view, direction, format) a =>
    drawing view (chooseStatements a r.statements) (requestedOptions settings a direction r)
      View.render (showDiagram folder view format r.output)

/-- The outcome of an impact that is printed line by line. -/
def Outcome.csv (i : Impact) : Outcome :=
  match Text.tornText? i.csvLines with
  | some (before, tear) => .failedAfter before (.tornLine tear)
  | none => .print i.csv

/-- An impact in a format. -/
def showImpact (format : String) (i : Impact) : Except Failure Outcome :=
  if format = "text" then .ok (.report i.report)
  else if format = "json" then storing i.document (.ok (.print (i.save ++ "\n")))
  else .ok (.csv i)

/-- The work of `impact`. -/
def runImpact (settings : Settings) (content : String) (r : ImpactRequest) : Work :=
  let choices := do
    let view ← chooseView r.view settings
    let direction ← chooseDirection r.direction
    let format ← chooseFormat r.format settings ["text", "json", "csv"]
    return (view, direction, format)
  withAnalysis content choices fun (view, direction, format) a =>
    drawing view (chooseStatements a r.statements) (settledOptions settings a) View.render
      fun d =>
        ((d.trace direction r.element).mapError .unknown).bind (showImpact format)

/-- The work of `search`. -/
def runSearch (settings : Settings) (content : String) (r : SearchRequest) : Work :=
  let choices := do
    let view ← chooseView r.view settings
    let format ← chooseFormat r.format settings ["text", "json"]
    return (view, format)
  withAnalysis content choices fun (view, format) a =>
    drawing view a.statements (settledOptions settings a) View.render fun d =>
      let found := Text.sorted (d.matches view r.term)
      .ok <|
        if format = "json" then .print (searchJson view r.term found ++ "\n")
        else .report (searchReport r.term found)

/-- The work of `namespaces`. -/
def runNamespaces (settings : Settings) (content : String) (view : Option String) : Work :=
  withAnalysis content (chooseView view settings) fun view a =>
    drawing view a.statements (settledOptions settings a) View.build fun d =>
      .ok (.report d.namespaceReport)

/-- The work of a command on the text of an analysis. -/
def work (folder : Folder) (settings : Settings) (content : String) : Command → Work
  | render _ request => runRender folder settings content request
  | impact _ request => runImpact settings content request
  | search _ request => runSearch settings content request
  | namespaces _ view => runNamespaces settings content view

/-- What a command does in a folder. The file of the analysis has to be there. -/
def run (folder : Folder) (c : Command) : Outcome :=
  match folder.content c.file with
  | .text content =>
    match Settings.orDefault (Settings.load (folder.content Settings.fileName) false) with
    | .error _ => { exitCode := 1 }
    | .ok (settings, warnings) => (c.work folder settings content).outcome.after warnings
  | _ => .misused

/-- What a command line does in a folder. -/
def runWords (folder : Folder) (words : List String) : Outcome :=
  match parse? words with
  | some c => run folder c
  | none => .misused

end Lineage.Command
