import Lineage.Toml.Number
import Lineage.Toml.Tree

/-!
# Reading TOML

`Toml.read` turns a text into `Data`, unless there is a fault in it. A document is a list of lines:
headers, which open tables, and assignments, which fill them.
-/

namespace Lineage.Toml

/-! ### Values -/

/-- The text after a comment, if there is one. A comment runs to the end of its line. -/
def skipComment (cs : List Char) : Option (List Char) :=
  match cs with
  | '#' :: rest =>
    let (comment, rest) := rest.span (· != '\n')
    if comment.any isControl then none else some rest
  | _ => some cs

/-- The text after white space, line ends and comments, of which there are no more than the
given number. -/
def skipSpace : Nat → List Char → Option (List Char)
  | 0, cs => some cs
  | fuel + 1, cs =>
    match cs.dropWhile fun c => isBlank c || c == '\n' with
    | '#' :: rest => (skipComment ('#' :: rest)).bind (skipSpace fuel)
    | rest => some rest

/-- The text after white space, line ends and comments. -/
def skipAll (cs : List Char) : Option (List Char) :=
  skipSpace (cs.length + 1) cs

/-- What a scan found, or else the fault of a text that breaks the rules. -/
def found {α : Type} (scanned : Option α) : Except Fault α :=
  scanned.elim (.error .malformed) .ok

mutual

/-- A value, nested no deeper than the given number. -/
def value : Nat → List Char → Except Fault (Data × List Char)
  | 0, _ => .error .malformed
  | fuel + 1, cs =>
    match cs with
    | '"' :: _ => found ((text cs).map fun s => (.text s.1, s.2))
    | '\x27' :: _ => found ((text cs).map fun s => (.text s.1, s.2))
    | 't' :: 'r' :: 'u' :: 'e' :: rest => .ok (.bool true, rest)
    | 'f' :: 'a' :: 'l' :: 's' :: 'e' :: rest => .ok (.bool false, rest)
    | '[' :: rest => (items fuel rest).map fun s => (.list s.1, s.2)
    | '\x7b' :: rest =>
      match skipBlanks rest with
      | '\x7d' :: rest => .ok (.record [], rest)
      | rest => (members fuel [] rest).map fun s => (.record (entriesData s.1), s.2)
    | _ => scalar cs

/-- The items of a list up to its closing bracket. -/
def items : Nat → List Char → Except Fault (List Data × List Char)
  | 0, _ => .error .malformed
  | fuel + 1, cs => do
    match ← found (skipAll cs) with
    | ']' :: rest => return ([], rest)
    | cs =>
      let (item, rest) ← value fuel cs
      match ← found (skipAll rest) with
      | ']' :: rest => return ([item], rest)
      | ',' :: rest =>
        let (more, rest) ← items fuel rest
        return (item :: more, rest)
      | _ => .error .malformed

/-- The members of a table on one line, added to those before them, up to the closing brace. -/
def members : Nat → Entries → List Char → Except Fault (Entries × List Char)
  | 0, _, _ => .error .malformed
  | fuel + 1, es, cs => do
    let (path, rest) ← found (key cs)
    let (data, rest) ← value fuel (skipBlanks (← found (expect '=' rest)))
    let es ← es.assignInline path path data
    match skipBlanks rest with
    | '\x7d' :: rest => return (es, rest)
    | ',' :: rest => members fuel es (skipBlanks rest)
    | _ => .error .malformed

end

/-! ### Documents -/

/-- A document up to some line. -/
structure Progress where
  root : Entries := []
  /-- The path of the table that assignments fill. -/
  header : List String := []
  /-- The number of headers. -/
  headers : Nat := 0

/-- The document with one more header, which changes the table before the last part of its
path. -/
def Progress.enter (p : Progress) (path : List String) (complete : Fault)
    (change : List String → String → Entries → Except Fault Entries) : Except Fault Progress := do
  let name ← found path.getLast?
  let root ← p.root.along complete path.dropLast (change path name)
  return { root := root, header := path, headers := p.headers + 1 }

/-- The document with one more header or assignment, and the text after it. -/
def statement (p : Progress) (cs : List Char) : Except Fault (Progress × List Char) :=
  match cs with
  | '[' :: '[' :: rest => do
    let (path, rest) ← found (key (skipBlanks rest))
    let p ← p.enter path (.immutable path) Entries.addTable
    return (p, ← found ((expect ']' rest).bind (expect ']')))
  | '[' :: rest => do
    let (path, rest) ← found (key (skipBlanks rest))
    let p ← p.enter path (.declaredTwice path) Entries.openTable
    return (p, ← found (expect ']' rest))
  | _ => do
    let (path, rest) ← found (key cs)
    let (data, rest) ← value cs.length (skipBlanks (← found (expect '=' rest)))
    let root ← p.root.along .overwritten p.header fun es =>
      es.assign p.headers p.header path data
    return ({ p with root := root }, rest)

/-- The document after one more line, and the text after the line. -/
def line (p : Progress) (cs : List Char) : Except Fault (Progress × List Char) := do
  let (p, rest) ←
    match skipBlanks cs with
    | [] => pure (p, [])
    | '\n' :: rest => pure (p, '\n' :: rest)
    | '#' :: rest => pure (p, '#' :: rest)
    | rest => statement p rest
  match ← found (skipComment (skipBlanks rest)) with
  | [] => return (p, [])
  | '\n' :: rest => return (p, rest)
  | _ => .error .malformed

/-- The document after all lines, of which there are no more than the given number. -/
def lines : Nat → Progress → List Char → Except Fault Progress
  | _, p, [] => .ok p
  | 0, _, _ => .error .malformed
  | fuel + 1, p, cs => (line p cs).bind fun s => lines fuel s.1 s.2

/-- A text in which line ends of two characters are written as one. -/
def joinLineEnds : List Char → List Char
  | '\r' :: '\n' :: cs => '\n' :: joinLineEnds cs
  | c :: cs => c :: joinLineEnds cs
  | [] => []

/-- The document that a text holds. -/
def read (s : String) : Except Fault Data :=
  let cs := joinLineEnds s.toList
  (lines cs.length {} cs).map fun p => .record (entriesData p.root)

end Lineage.Toml
