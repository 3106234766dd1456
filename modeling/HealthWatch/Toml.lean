/-!
# TOML documents

The values of a TOML document, and the tree that its lines build up. A table is made by a header of
its own, by the header of a table within it, or by dotted keys; the tree remembers which, because
a table that was made in one way cannot be added to in every other way.
-/

namespace HealthWatch

/-- A value of a document. Of floats and dates only the text is kept. -/
inductive Toml where
  | string (s : String)
  | integer (i : Int)
  | float (text : String)
  | boolean (b : Bool)
  | dateTime (text : String)
  | array (items : List Toml)
  | table (members : List (String × Toml))
  deriving Inhabited

namespace Toml

/-- How a table came to be. -/
inductive Origin where
  /-- By its own header, or as a whole. -/
  | header
  /-- By the header of a table within it. -/
  | implied
  /-- By a dotted key. -/
  | dotted
  deriving DecidableEq

/-- A part of a document that is being read. -/
inductive Node where
  | value (v : Toml)
  | table (origin : Origin) (members : List (String × Node))
  /-- Tables whose headers are written twice in brackets. -/
  | tables (elements : List (List (String × Node)))
  deriving Inhabited

namespace Node

/-- The members of a table. -/
abbrev Members := List (String × Node)

/-- The members with the node of a name replaced, or added at the end. -/
def put (name : String) (node : Node) : Members → Members
  | [] => [(name, node)]
  | (n, m) :: rest => if n = name then (name, node) :: rest else (n, m) :: put name node rest

def changeLast {α : Type} (f : α → Option α) : List α → Option (List α)
  | [] => none
  | [a] => (f a).map ([·])
  | a :: rest => (changeLast f rest).map (a :: ·)

/-- A change of the table that a path leads to, from a table of a given origin. Tables that are
missing on the way are made with the origin `fresh`; of repeated tables the last one is meant.
Dotted keys do not lead through a table that has a header. -/
def within (fresh : Origin) (change : Origin → Members → Option Members) :
    List String → Origin → Members → Option Members
  | [], origin, ms => change origin ms
  | name :: path, _, ms =>
    match ms.lookup name with
    | none => do
      let inner ← within fresh change path fresh []
      return ms ++ [(name, table fresh inner)]
    | some (table origin inner) =>
      if fresh = .dotted ∧ origin = .header then none
      else do return put name (table origin (← within fresh change path origin inner)) ms
    | some (tables elements) => do
      let elements ← changeLast (within fresh change path .header) elements
      return put name (tables elements) ms
    | some (value _) => none

/-- The table with one more value under a new name. Dotted keys lead only into tables that dotted
keys made, and a plain key into any other. -/
def addValue (dotted : Bool) (name : String) (v : Node) (origin : Origin) (ms : Members) :
    Option Members :=
  if (origin = .dotted) ↔ dotted = true then
    if (ms.lookup name).isSome then none else some (ms ++ [(name, v)])
  else none

def assign (keys : List String) (name : String) (v : Node) (ms : Members) : Option Members :=
  within .dotted (addValue (!keys.isEmpty) name v) keys .header ms

/-- The table with a table under a name that has its own header now. -/
def addTable (name : String) (_ : Origin) (ms : Members) : Option Members :=
  match ms.lookup name with
  | none => some (ms ++ [(name, table .header [])])
  | some (table .implied inner) => some (put name (table .header inner) ms)
  | some _ => none

/-- The table with one more of the repeated tables under a name. -/
def addElement (name : String) (_ : Origin) (ms : Members) : Option Members :=
  match ms.lookup name with
  | none => some (ms ++ [(name, tables [[]])])
  | some (tables elements) => some (put name (tables (elements ++ [[]])) ms)
  | some _ => none

mutual

def toValue : Node → Toml
  | value v => v
  | table _ members => .table (memberValues members)
  | tables elements => .array (elementValues elements)

def memberValues : List (String × Node) → List (String × Toml)
  | [] => []
  | (name, node) :: rest => (name, toValue node) :: memberValues rest

def elementValues : List (List (String × Node)) → List Toml
  | [] => []
  | ms :: rest => .table (memberValues ms) :: elementValues rest

end

end Node

/-- A line of a document. -/
inductive Statement where
  /-- The header of a table. -/
  | header (path : List String) (name : String)
  /-- The header of one of several tables. -/
  | elementHeader (path : List String) (name : String)
  /-- A key with its value. -/
  | assignment (keys : List String) (name : String) (v : Toml)

/-- The document as far as it has been read, and the path of the table that keys go to. -/
structure Draft where
  root : Node.Members := []
  current : List String := []

def Draft.add (d : Draft) : Statement → Option Draft
  | .header path name => do
    let root ← Node.within .implied (Node.addTable name) path .header d.root
    return ⟨root, path ++ [name]⟩
  | .elementHeader path name => do
    let root ← Node.within .implied (Node.addElement name) path .header d.root
    return ⟨root, path ++ [name]⟩
  | .assignment keys name v => do
    let root ← Node.within .implied (fun _ ms => Node.assign keys name (.value v) ms) d.current
      .header d.root
    return { d with root }

/-- The value of an inline table, none when its keys do not go together. -/
def inlineTable (pairs : List (List String × String × Toml)) : Option Toml := do
  let ms ← pairs.foldlM (fun ms (keys, name, v) => Node.assign keys name (.value v) ms) []
  return .table (Node.memberValues ms)

end Toml

end HealthWatch
