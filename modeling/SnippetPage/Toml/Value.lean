/-!
# Configuration values

The values of a configuration text, and the rules by which its headers and keys build one table. A
key is given once; a table has one header, and none if its keys were given with dots; an array or
an inline table is complete as it stands.
-/

namespace SnippetPage

/-- A value of a configuration text. Fractions and moments keep their spelling. -/
inductive Toml where
  | text (s : String)
  | integer (n : Int)
  | fraction (spelling : String)
  | boolean (b : Bool)
  | moment (spelling : String)
  | array (items : List Toml)
  | table (members : List (String × Toml))
  deriving Repr

namespace Toml

inductive Origin where
  /-- By the header of a table inside it. -/
  | implied
  /-- By a header of its own. -/
  | header
  /-- By a key with dots. -/
  | dotted
  deriving DecidableEq, Repr

/-- A member of a table that is still being built. -/
inductive Node where
  | value (v : Toml)
  | table (origin : Origin) (members : List (String × Node))
  /-- An array of tables, last first. -/
  | tables (elements : List (List (String × Node)))

/-- The members of a table that is still being built, in order. -/
abbrev Members := List (String × Node)

namespace Members

def find? (key : String) (members : Members) : Option Node :=
  (List.find? (fun m => m.1 == key) members).map Prod.snd

def replace (key : String) (node : Node) (members : Members) : Members :=
  members.map fun m => if m.1 == key then (key, node) else m

def add (key : String) (node : Node) (members : Members) : Members :=
  members ++ [(key, node)]

/-- Gives a key its value. A key with dots goes through tables without a header. -/
def define : List String → Toml → Members → Option Members
  | [], _, _ => none
  | [key], v, members =>
    match members.find? key with
    | none => some (members.add key (.value v))
    | some _ => none
  | key :: rest, v, members =>
    match members.find? key with
    | none => (define rest v []).map fun inner => members.add key (.table .dotted inner)
    | some (.table .header _) => none
    | some (.table origin inner) =>
      (define rest v inner).map fun inner => members.replace key (.table origin inner)
    | some _ => none

def declareTable (key : String) (members : Members) : Option Members :=
  match members.find? key with
  | none => some (members.add key (.table .header []))
  | some (.table .implied inner) => some (members.replace key (.table .header inner))
  | some _ => none

/-- Opens a new table of an array of tables. -/
def declareElement (key : String) (members : Members) : Option Members :=
  match members.find? key with
  | none => some (members.add key (.tables [[]]))
  | some (.tables elements) => some (members.replace key (.tables ([] :: elements)))
  | some _ => none

/-- Changes the table at the end of a path; in an array of tables, the last one. -/
def under (change : Members → Option Members) : List String → Members → Option Members
  | [], members => change members
  | key :: rest, members =>
    match members.find? key with
    | none => (under change rest []).map fun inner => members.add key (.table .implied inner)
    | some (.table origin inner) =>
      (under change rest inner).map fun inner => members.replace key (.table origin inner)
    | some (.tables (last :: before)) =>
      (under change rest last).map fun last => members.replace key (.tables (last :: before))
    | some _ => none

end Members

mutual

def Node.toToml : Node → Toml
  | .value v => v
  | .table _ members => .table (Node.toMembers members)
  | .tables elements => .array (Node.toArray elements [])

/-- The members of a table that is complete. -/
def Node.toMembers : List (String × Node) → List (String × Toml)
  | [] => []
  | (key, node) :: rest => (key, Node.toToml node) :: Node.toMembers rest

/-- The tables of an array that is complete, in order before `after`. -/
def Node.toArray : List (List (String × Node)) → List Toml → List Toml
  | [], after => after
  | members :: rest, after => Node.toArray rest (.table (Node.toMembers members) :: after)

end

inductive Entry where
  | pair (path : List String) (value : Toml)
  | table (path : List String)
  | element (path : List String)

/-- A table that is being built and the path of the table that pairs go to. -/
structure Draft where
  members : Members := []
  current : List String := []

def Draft.enter (d : Draft) : Entry → Option Draft
  | .pair path v => (Members.under (Members.define path v) d.current d.members).map fun members =>
    { d with members }
  | .table path => open? path Members.declareTable
  | .element path => open? path Members.declareElement
where
  /-- Opens a table and makes it the one that pairs go to. -/
  open? (path : List String) (declare : String → Members → Option Members) : Option Draft :=
    match path.getLast? with
    | none => none
    | some key =>
      (Members.under (declare key) path.dropLast d.members).map fun members => ⟨members, path⟩

/-- The members of the table that lines make up. -/
def ofEntries? (entries : List Entry) : Option (List (String × Toml)) :=
  (entries.foldlM Draft.enter ({} : Draft)).map fun d => Node.toMembers d.members

def ofPairs? (pairs : List (List String × Toml)) : Option (List (String × Toml)) :=
  ofEntries? (pairs.map fun (path, v) => .pair path v)

end Toml

end SnippetPage
