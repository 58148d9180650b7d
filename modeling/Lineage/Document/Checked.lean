import Lineage.Data

/-!
# Checked documents

A document is checked as a whole: a reader either gives a value or lists every problem it
met, each with the path that leads to it. `Checked` collects the problems of independent
parts in their order.
-/

namespace Lineage

/-- A step into a document: a member of a record or a position in a list. -/
inductive Step where
  | field (name : String)
  | position (index : Nat)
  deriving DecidableEq, Repr

/-- What is wrong with a part of a document. -/
inductive Flaw where
  /-- A field that has to be there is not. -/
  | missing
  /-- Something else than a text. -/
  | notText
  /-- A text with half of a character. -/
  | brokenText
  /-- Something that cannot be read as an integer. -/
  | notInteger
  /-- A text that writes no integer. -/
  | integerText
  /-- A real number with a fraction where an integer is due. -/
  | fraction
  /-- A number too large to be read as an integer. -/
  | integerRange
  /-- An infinite number or none where an integer is due. -/
  | notFinite
  /-- Something that cannot be read as true or false. -/
  | notTruth
  /-- A text or an integer that means neither true nor false. -/
  | truthText
  /-- Something else than a list. -/
  | notList
  /-- Something else than a list where a set is due. -/
  | notSet
  /-- None of the names of a kind. -/
  | notChoice (names : List String)
  /-- None of the fixed words of a field. -/
  | notWord (words : List String)
  /-- Something else than a record of a title. -/
  | notRecord (title : String)
  deriving DecidableEq, Repr

/-- A flaw, the path to it, and what was found there. -/
structure Problem where
  path : List Step
  flaw : Flaw
  found : Data

/-- A problem that was met one step into a document. -/
def Problem.under (step : Step) (p : Problem) : Problem :=
  { p with path := step :: p.path }

/-- A value, or all the problems that stand in its way. -/
inductive Checked (α : Type) where
  | valid (value : α)
  | invalid (problems : List Problem)

/-- A reader of documents. -/
abbrev Reader (α : Type) := Data → Checked α

namespace Checked

variable {α β : Type}

/-- A single flaw right here, in the value that was found. -/
def flawed (flaw : Flaw) (found : Data) : Checked α :=
  invalid [⟨[], flaw, found⟩]

/-- A function applied to what was read. -/
def map (f : α → β) : Checked α → Checked β
  | valid a => valid (f a)
  | invalid ps => invalid ps

/-- Two independent parts: the problems of the first come before those of the second. -/
def seq : Checked (α → β) → Checked α → Checked β
  | valid f, valid a => valid (f a)
  | valid _, invalid qs => invalid qs
  | invalid ps, valid _ => invalid ps
  | invalid ps, invalid qs => invalid (ps ++ qs)

instance : Applicative Checked where
  pure := valid
  map := map
  seq f a := seq f (a ())

/-- What was read one step into a document. -/
def under (step : Step) : Checked α → Checked α
  | valid a => valid a
  | invalid ps => invalid (ps.map (Problem.under step))

/-- The outcome as one that stops at the problems. -/
def toExcept : Checked α → Except (List Problem) α
  | valid a => .ok a
  | invalid ps => .error ps

@[simp] theorem under_valid (step : Step) (a : α) : under step (valid a) = valid a := rfl

@[simp] theorem map_valid (f : α → β) (a : α) : map f (valid a) = valid (f a) := rfl

@[simp] theorem seq_valid (f : α → β) (a : α) : seq (valid f) (valid a) = valid (f a) := rfl

@[simp] theorem pure_eq (a : α) : (pure a : Checked α) = valid a := rfl

@[simp] theorem map_eq (f : α → β) (c : Checked α) : f <$> c = c.map f := rfl

@[simp] theorem seq_eq (f : Checked (α → β)) (c : Checked α) : f <*> c = f.seq c := rfl

end Checked

end Lineage
