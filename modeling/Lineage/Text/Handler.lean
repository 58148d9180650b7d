import Lineage.Text.Blank
import Lineage.Text.Handler.Literal
import Lineage.Text.Quoted

/-!
# Handlers

A mark whose name starts with an at sign names a handler: words with dots between them, and
possibly arguments in parentheses. `Handler.fault?` tells what is wrong with a handler that cannot
be read.
-/

namespace Lineage.Text.Handler

/-- What a fault says. -/
def Fault.message : Fault → String
  | unreadable message => message
  | ended => "invalid syntax"
  | unfit message => message

/-- The arguments of a handler: what follows its name if that is nothing or stands in parentheses,
and otherwise the whole of it. -/
def arguments (written : List Char) : List Char :=
  let rest := written.dropWhile fun c => isWordChar c || c = '.'
  if rest.isEmpty then ['(', ')']
  else if rest.head? = some '(' && rest.getLast? = some ')' && !rest.contains '\n' then rest
  else written

/-- What is wrong with codes that are no text. -/
def codeFault? (cs : List Char) : Option String :=
  let all := codes cs
  match all.find? isHalf with
  | some half =>
    let escape := String.ofList (codeEscape half)
    let place := (all.takeWhile fun code => !isHalf code).length
    some s!"'utf-8' codec can't encode character '{escape}' in position {place}: {notAllowed}"
  | none =>
    if all.contains 0 then some "source code string cannot contain null bytes" else none
where
  /-- Halves have no place in a text. -/
  notAllowed : String := "surrogates not allowed"

/-- What is wrong with some arguments. What cannot be cut into tokens counts before what the tokens
are. -/
def literalFault? (cs : List Char) : Option Fault :=
  match codeFault? cs with
  | some message => some (.unfit message)
  | none =>
    let scan := tokens cs
    match scan.fault, expression scan.tokens with
    | some message, _ => some (.unreadable message)
    | none, .error .ended => some (scan.ending.elim invalid .unreadable)
    | none, .error fault => some fault
    | none, .ok e =>
      match scan.ending, e.kind with
      | some message, _ => some (.unreadable message)
      | none, .error fault => some fault
      | none, .ok _ => none

/-- What is wrong with a handler as it is written. -/
def fault? (written : List Char) : Option String :=
  let whole := quoted (String.ofList written)
  let shown := arguments (strip isSeparating written)
  (literalFault? (shown.dropWhile fun c => c = ' ' || c = '\t')).map fun
    | .unfit message => s!"error parsing {whole}; {message}"
    | fault => s!"error parsing {quoted (String.ofList shown)} in {whole}; {fault.message}"

end Lineage.Text.Handler
