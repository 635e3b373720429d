import ProxyAudit.Toml.Value

/-!
# Building tables

A document names its tables by paths: a header opens a table, a dotted key reaches into tables
inside the open one, and both make the tables on their way. What may be reached again, and how, is
decided by how a table came to be:

* a table opened by a header may only be passed by the headers of tables inside it;
* a table made on the way of a header may be opened once by a header of its own;
* a table made by dotted keys may be extended by dotted keys of the same open table.

A table opened after tables inside it moves to the end of its parent.
-/

namespace ProxyAudit.Toml

/-- How a table came to be. -/
inductive Origin where
  /-- A header opened it. -/
  | opened
  /-- It was made on the way of a header. -/
  | implied
  /-- It was made on the way of a dotted key. -/
  | dotted
  deriving DecidableEq, Repr

/-- What a key stands for while a document is read. The elements of an array of tables are kept
last first. -/
inductive Node where
  | value (v : Value)
  | table (origin : Origin) (entries : List (String × Node))
  | tables (items : List (List (String × Node)))

/-- A non-empty path of keys: the tables on the way and the last key. -/
structure Path where
  parents : List String
  key : String
  deriving DecidableEq, Repr

/-- Keys with values at their paths. -/
abbrev Pairs := List (Path × Value)

namespace Node

/-- The entries of a table while a document is read. -/
abbrev Children := List (String × Node)

/-- What a key stands for. -/
def find? (key : String) (entries : Children) : Option Node :=
  (entries.find? (·.1 == key)).map (·.2)

/-- Changes what a key stands for; a new key goes to the end. -/
def update (key : String) (change : Option Node → Option Node) : Children → Option Children
  | [] => (change .none).map fun n => [(key, n)]
  | (k, n) :: rest =>
    if k = key then (change (some n)).map fun m => (k, m) :: rest
    else (update key change rest).map ((k, n) :: ·)

/-- Changes the table at the end of a path. Headers pass every table; dotted keys do not pass a
table that a header opened. -/
def descend (made : Origin) (change : Origin → Children → Option Children) :
    List String → Origin → Children → Option Children
  | [], origin, entries => change origin entries
  | key :: more, _, entries =>
    entries |> update key fun
      | none => (descend made change more made []).map (.table made)
      | some (.value _) => none
      | some (.tables []) => none
      | some (.tables (item :: earlier)) =>
        (descend made change more .opened item).map fun t => .tables (t :: earlier)
      | some (.table origin inner) =>
        if made = .dotted ∧ origin = .opened then none
        else (descend made change more origin inner).map (.table origin)

/-- Adds a value under a new key at the end of a table. A dotted key must end in a table that
dotted keys made, and a plain key in one that they did not make. -/
def addHere (isDotted : Bool) (key : String) (v : Value) (origin : Origin) (entries : Children) :
    Option Children :=
  if isDotted ≠ (origin = .dotted) ∨ (find? key entries).isSome then none
  else some (entries ++ [(key, .value v)])

/-- Adds a value at its path inside an open table. -/
def addPair (entries : Children) (pair : Path × Value) : Option Children :=
  descend .dotted (addHere (!pair.1.parents.isEmpty) pair.1.key pair.2) pair.1.parents .opened entries

/-- Adds values to an open table. -/
def addPairs (entries : Children) (pairs : Pairs) : Option Children :=
  pairs.foldlM addPair entries

/-- Opens a table of its parent and fills it. -/
def openTable (key : String) (pairs : Pairs) (entries : Children) : Option Children := do
  let rest := entries.filter (·.1 != key)
  match find? key entries with
  | none => return rest ++ [(key, .table .opened (← addPairs [] pairs))]
  | some (.table .implied inner) => return rest ++ [(key, .table .opened (← addPairs inner pairs))]
  | some _ => none

/-- Adds an element to an array of tables and fills it. -/
def addElement (key : String) (pairs : Pairs) (entries : Children) : Option Children := do
  let item ← addPairs [] pairs
  entries |> update key fun
    | none => some (.tables [item])
    | some (.tables items) => some (.tables (item :: items))
    | some _ => none

mutual

/-- The value that a node stands for when the document ends. -/
def toValue : Node → Value
  | value v => v
  | table _ entries => .table (toEntries entries)
  | tables items => .array (elements items).reverse

/-- The entries of a table when the document ends. -/
def toEntries : Children → Entries
  | [] => []
  | (k, n) :: rest => (k, toValue n) :: toEntries rest

/-- The elements of an array of tables, in the order in which they are kept. -/
def elements : List Children → List Value
  | [] => []
  | item :: rest => .table (toEntries item) :: elements rest

end

end Node

/-- A header: it opens a table, or a new element of an array of tables. -/
inductive Header where
  | table (path : Path)
  | element (path : Path)
  deriving DecidableEq, Repr

/-- A header with the keys that follow it. -/
structure Section where
  header : Header
  pairs : Pairs

/-- Adds the table of a section to a document. -/
def Node.addSection (root : Node.Children) (s : Section) : Option Node.Children :=
  match s.header with
  | .table path =>
    Node.descend .implied (fun _ es => Node.openTable path.key s.pairs es) path.parents .opened root
  | .element path =>
    Node.descend .implied (fun _ es => Node.addElement path.key s.pairs es) path.parents .opened root

/-- The entries of a document of keys before the first header and of sections. -/
def entriesOf? (pairs : Pairs) (sections : List Section) : Option Entries := do
  let root ← Node.addPairs [] pairs
  let root ← sections.foldlM Node.addSection root
  return Node.toEntries root

end ProxyAudit.Toml
