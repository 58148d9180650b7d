import Lineage.Toml.Fault

/-!
# Tables under construction

A TOML document fills a tree of tables bit by bit. A header opens a table or adds one to a list
of tables, and an assignment may run through tables that a dotted key names. A table is opened
by a header no more than once, and dotted keys run through a table only if no header opened it
and no dotted key of an earlier section made use of it.
-/

namespace Lineage.Toml

/-- How a table came to be. -/
inductive Origin where
  /-- It is on the way to another table. -/
  | implied
  /-- A header opened it. -/
  | opened
  /-- A dotted key runs through it, in the section of a number. -/
  | dotted (number : Nat)
  deriving DecidableEq, Repr

/-- Whether a dotted key in the section of a number may run through a table. -/
def Origin.admits (number : Nat) : Origin → Bool
  | .implied => true
  | .opened => false
  | .dotted n => n = number

/-- What stands under a name. -/
inductive Entry where
  | value (data : Data)
  | table (origin : Origin) (entries : List (String × Entry))
  /-- A list of tables: those before the last one, and the last one. -/
  | tables (before : List (List (String × Entry))) (last : List (String × Entry))

/-- The names of a table with what stands under them. -/
abbrev Entries := List (String × Entry)

namespace Entries

/-- The entries with something else under a name. -/
def set (name : String) (e : Entry) : Entries → Entries
  | [] => [(name, e)]
  | x :: xs => if x.1 = name then (name, e) :: xs else x :: set name e xs

/-- The fault of running into a value. A list or a table on one line is complete, which is a fault
of its own. -/
def blocked (complete : Fault) : Data → Fault
  | .list _ => complete
  | .record _ => complete
  | _ => .overwritten

/-- A change to the table at the end of a header's path. Tables on the way are made if they are
missing, and of a list of tables the last one counts. -/
def along (complete : Fault) (path : List String) (change : Entries → Except Fault Entries)
    (es : Entries) : Except Fault Entries :=
  match path with
  | [] => change es
  | name :: path =>
    match es.lookup name with
    | none => (along complete path change []).map fun inner => set name (.table .implied inner) es
    | some (.value data) => .error (blocked complete data)
    | some (.table origin inner) =>
      (along complete path change inner).map fun inner => set name (.table origin inner) es
    | some (.tables before last) =>
      (along complete path change last).map fun last => set name (.tables before last) es

/-- The entries with a value under a dotted key, in the section of a number. `walked` is the path
of the table that the key starts from. -/
def assign (number : Nat) (walked key : List String) (data : Data) (es : Entries) :
    Except Fault Entries :=
  match key with
  | [] => .error .malformed
  | [name] =>
    if (es.lookup name).isSome then .error .overwritten else .ok (set name (.value data) es)
  | name :: key =>
    let inside := walked ++ [name]
    match es.lookup name with
    | none =>
      (assign number inside key data []).map fun inner =>
        set name (.table (.dotted number) inner) es
    | some (.table origin inner) =>
      if origin.admits number then
        (assign number inside key data inner).map fun inner =>
          set name (.table (.dotted number) inner) es
      else .error (.redefined inside)
    | some (.tables _ _) => .error (.redefined inside)
    | some (.value data) => .error (blocked (.immutable (inside ++ key.dropLast)) data)

/-- The entries of a table on one line with a value under a dotted key. `whole` is the key from
its first part on. -/
def assignInline (whole key : List String) (data : Data) (es : Entries) : Except Fault Entries :=
  match key with
  | [] => .error .malformed
  | [name] =>
    match es.lookup name with
    | none => .ok (set name (.value data) es)
    | some (.value (.list _)) => .error (.immutable whole)
    | some (.value (.record _)) => .error (.immutable whole)
    | some _ => .error (.duplicate name)
  | name :: key =>
    match es.lookup name with
    | none =>
      (assignInline whole key data []).map fun inner => set name (.table .implied inner) es
    | some (.table origin inner) =>
      (assignInline whole key data inner).map fun inner => set name (.table origin inner) es
    | some (.tables _ _) => .error .overwritten
    | some (.value data) => .error (blocked (.immutable whole) data)

/-- The entries with a table opened under the name at the end of a path. -/
def openTable (path : List String) (name : String) (es : Entries) : Except Fault Entries :=
  match es.lookup name with
  | none => .ok (set name (.table .opened []) es)
  | some (.table .implied inner) => .ok (set name (.table .opened inner) es)
  | some (.value data) => .error (blocked (.declaredTwice path) data)
  | _ => .error (.declaredTwice path)

/-- The entries with one more table in the list under the name at the end of a path. -/
def addTable (path : List String) (name : String) (es : Entries) : Except Fault Entries :=
  match es.lookup name with
  | none => .ok (set name (.tables [] []) es)
  | some (.tables before last) => .ok (set name (.tables (before ++ [last]) []) es)
  | some (.value data) => .error (blocked (.immutable path) data)
  | _ => .error .overwritten

end Entries

mutual

/-- What stands under a name, as a value. -/
def Entry.data : Entry → Data
  | .value data => data
  | .table _ entries => .record (entriesData entries)
  | .tables before last => .list (tablesData before ++ [.record (entriesData last)])

/-- The entries of a table as members. -/
def entriesData : List (String × Entry) → List (String × Data)
  | [] => []
  | (name, e) :: es => (name, e.data) :: entriesData es

/-- The tables of a list as values. -/
def tablesData : List (List (String × Entry)) → List Data
  | [] => []
  | es :: more => .record (entriesData es) :: tablesData more

end

end Lineage.Toml
