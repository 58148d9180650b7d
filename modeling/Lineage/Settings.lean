import Lineage.Folder
import Lineage.Report.Part
import Lineage.Toml.Reader
import Lineage.View.Options

/-!
# Settings

Settings are read from a section of a TOML file in the folder that a command runs in. A file
that cannot be used is reported, and no settings are made.
-/

namespace Lineage

/-- What may be set. -/
structure Settings where
  view : Option View := none
  collapsed : Option Bool := none
  format : Option String := none
  schemas : Option (List String) := none
  databases : Option (List String) := none
  focus : Option Bool := none
  deriving DecidableEq, Repr, Inhabited

namespace Settings

/-- The name of the file. -/
def fileName : String := "lineagelens.toml"

/-- The section of the file. -/
def sectionName : String := "lineagelens"

/-- The title of the section. -/
def title : String := "ConfigSettings"

/-- The settings in a section. -/
def read : Reader Settings :=
  Reader.record title fun m =>
    Settings.mk
      <$> m.maybe (.plain "view_mode") (Reader.choice View.names)
      <*> m.maybe (.plain "default_collapsed") Reader.bool
      <*> m.maybe (.plain "output_format") Reader.text
      <*> m.maybe (.plain "schemas") (Reader.list Reader.text)
      <*> m.maybe (.plain "databases") (Reader.list Reader.text)
      <*> m.maybe (.plain "focus_mode") Reader.bool

/-- Why a file of settings cannot be used. -/
inductive Fault where
  /-- It is no TOML. -/
  | unparsable (fault : Toml.Fault)
  /-- It cannot be read at all: there is a folder in its place, or nothing. -/
  | unreadable (isFolder : Bool)
  /-- The section is a value of another kind than a record. -/
  | notSection (kind : String)
  /-- The section has values that make no sense. -/
  | invalid (problems : List Problem)

/-- What a fault says about the file. -/
def Fault.message : Fault → String
  | unparsable fault => s!"Failed to parse {fileName}: {fault.message}"
  | unreadable true => s!"Could not read {fileName}: [Errno 21] Is a directory: '{fileName}'"
  | unreadable false =>
    s!"Could not read {fileName}: [Errno 2] No such file or directory: '{fileName}'"
  | notSection kind =>
    s!"Invalid configuration in {fileName}: argument must be a mapping, not {kind}"
  | invalid problems =>
    s!"Invalid configuration in {fileName}: {Problem.report title problems}"

/-- The settings that a text holds. -/
def parse (content : String) : Except Fault Settings := do
  let document ← (Toml.read content).mapError .unparsable
  match (document.get? sectionName).getD (.record []) with
  | .record members => (read (.record members)).toExcept.mapError .invalid
  | other => throw (.notSection other.kindName)

/-- Whether there is a file of settings. -/
def isFound : Folder.Content → Bool
  | .text _ => true
  | _ => false

/-- The settings in a file. Unless the file was asked for, nothing is wrong if there is none. -/
def load (file : Folder.Content) (asked : Bool) : Except Fault Settings :=
  match file with
  | .text content => parse content
  | .folder => if asked then .error (.unreadable true) else .ok {}
  | .nothing => if asked then .error (.unreadable false) else .ok {}

/-! ### Going on without -/

/-- Why nothing can go on after a fault. -/
inductive Crash where
  /-- An integer of the file has more digits than are accepted. -/
  | longInteger (digits : Nat)
  /-- The report of the fault cannot be shown. -/
  | marks (fault : Text.MarkFault)
  deriving DecidableEq, Repr

/-- The report of a crash. -/
def Crash.message : Crash → String
  | longInteger digits => digitLimitReport digits
  | marks fault => fault.message

/-- The report of a fault. -/
def Fault.report (fault : Fault) : List Report.Part :=
  [.line ("[yellow]Warning:[/yellow] " ++ fault.message),
   .line "[yellow]Using default settings[/yellow]"]

/-- The settings to go on with, and what is printed about the file. -/
def orDefault (loaded : Except Fault Settings) : Except Crash (Settings × String) :=
  match loaded with
  | .ok settings => .ok (settings, "")
  | .error (.unparsable (.longInteger digits)) => .error (.longInteger digits)
  | .error fault =>
    let printout := Report.printed fault.report
    match printout.fault with
    | some fault => .error (.marks fault)
    | none => .ok ({}, printout.text)

end Settings

end Lineage
