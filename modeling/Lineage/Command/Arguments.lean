/-!
# Arguments

The words of a command line are options and arguments, in any order. An option is a switch, or
it takes a value: `--name value`, `--name=value`, `-n value` or `-nvalue`. The word `--` ends the
options.
-/

namespace Lineage.Command

/-- An option that is known: its names, of which the first one stands for it, and whether it
takes a value. -/
structure Known where
  names : List String
  takesValue : Bool := true
  deriving DecidableEq, Repr

/-- The name that stands for an option. -/
def Known.name (k : Known) : String :=
  k.names.headD ""

/-- The options that are given, with their values, and the arguments. -/
structure Given where
  options : List (String × String) := []
  arguments : List String := []
  deriving DecidableEq, Repr

/-- One more option in front of the others. -/
def Given.withOption (k : Known) (value : String) (g : Given) : Given :=
  { g with options := (k.name, value) :: g.options }

/-- One more argument in front of the others. -/
def Given.withArgument (argument : String) (g : Given) : Given :=
  { g with arguments := argument :: g.arguments }

/-- Whether a word is an option. -/
def isOption (word : String) : Bool :=
  word.toList.head? = some '-' && word.length > 1

/-- Whether a name is a long one. -/
def isLong (name : String) : Bool :=
  name.toList.take 2 = ['-', '-']

/-- The option of a name. -/
def find? (known : List Known) (name : String) : Option Known :=
  known.find? fun k => k.names.contains name

/-- The name of a long option and the value after the equals sign, if there is one. -/
def splitLong (word : String) : String × Option String :=
  match word.toList.span (· != '=') with
  | (name, _ :: value) => (String.ofList name, some (String.ofList value))
  | (_, []) => (word, none)

/-- The name of a short option and the value that is attached to it, if there is one. -/
def splitShort (word : String) : String × Option String :=
  let value := word.toList.drop 2
  (String.ofList (word.toList.take 2), if value.isEmpty then none else some (String.ofList value))

/-- The option that a word is, with the value that comes along with it. -/
def option? (known : List Known) (word : String) : Option (Known × Option String) :=
  let (name, value) := if isLong word then splitLong word else splitShort word
  (find? known name).map fun k => (k, value)

/-- The options and arguments of a command line, unless there is an option that is not known,
that misses its value, or that has one and takes none. -/
def scan? (known : List Known) : List String → Option Given
  | [] => some {}
  | word :: words =>
    if word = "--" then some { arguments := words }
    else if !isOption word then (scan? known words).map (Given.withArgument word)
    else
      match option? known word with
      | none => none
      | some (k, value) =>
        match value with
        | some value =>
          if k.takesValue then (scan? known words).map (Given.withOption k value) else none
        | none =>
          if k.takesValue then
            match words with
            | [] => none
            | value :: words => (scan? known words).map (Given.withOption k value)
          else (scan? known words).map (Given.withOption k "")

namespace Given

/-- The values of an option, in order. -/
def values (g : Given) (name : String) : List String :=
  (g.options.filter (·.1 = name)).map Prod.snd

/-- The last value of an option. -/
def value? (g : Given) (name : String) : Option String :=
  (g.values name).getLast?

/-- The one of two switches that is given last: whether it is the first of them. -/
def choice? (g : Given) (on off : String) : Option Bool :=
  ((g.options.filter fun o => o.1 = on ∨ o.1 = off).getLast?).map fun o => o.1 = on

end Given

end Lineage.Command
