import Recall.Toml.Reader

/-!
Documents: the table that a sequence of statements builds. A table is opened at most once;
one that was made on the way to another may still be opened; one that was made by names with
points may only be added to in the same way, and values cannot be added to at all.
-/

namespace Recall.Toml

inductive Origin
  | passedThrough
  | opened
  | dotted
  deriving DecidableEq, Repr

inductive Node
  | value (value : Toml)
  | table (origin : Origin) (members : List (String × Node))
  | items (tables : List (List (String × Node)))

abbrev Members := List (String × Node)

def Members.find? (members : Members) (name : String) : Option Node :=
  (List.find? (fun m => m.1 = name) members).map (·.2)

def Members.set (members : Members) (name : String) (node : Node) : Members :=
  if members.any (fun m => m.1 = name) then
    members.map fun m => if m.1 = name then (name, node) else m
  else members ++ [(name, node)]

/-- Changes the table at the end of a path of headers. Where a table has several items the
last one is meant. -/
def changeAt? (change : Members → Option Members) : (path : List String) → Members →
    Option Members
  | [], members => change members
  | name :: path, members =>
    match members.find? name with
    | none => do
      let inner ← changeAt? change path []
      return members.set name (.table .passedThrough inner)
    | some (.table origin inner) => do
      let inner ← changeAt? change path inner
      return members.set name (.table origin inner)
    | some (.items tables) => do
      let last ← tables.getLast?
      let last ← changeAt? change path last
      return members.set name (.items (tables.dropLast ++ [last]))
    | some (.value _) => none

def assign? : (path : List String) → Toml → Members → Option Members
  | [], _, _ => none
  | [name], value, members =>
    match members.find? name with
    | none => some (members.set name (.value value))
    | some _ => none
  | name :: path, value, members =>
    match members.find? name with
    | none => do
      let inner ← assign? path value []
      return members.set name (.table .dotted inner)
    | some (.table origin inner) =>
      if origin = .opened || (origin = .passedThrough && path.length = 1) then none
      else do
        let inner ← assign? path value inner
        return members.set name (.table origin inner)
    | some _ => none

def openTable? (name : String) (members : Members) : Option Members :=
  match members.find? name with
  | none => some (members.set name (.table .opened []))
  | some (.table .passedThrough inner) => some (members.set name (.table .opened inner))
  | some _ => none

def openItem? (name : String) (members : Members) : Option Members :=
  match members.find? name with
  | none => some (members.set name (.items [[]]))
  | some (.items tables) => some (members.set name (.items (tables ++ [[]])))
  | some _ => none

structure Draft where
  members : Members := []
  current : List String := []

def Draft.step? (draft : Draft) : Statement → Option Draft
  | .openTable path => do
    let name ← path.getLast?
    return ⟨← changeAt? (openTable? name) path.dropLast draft.members, path⟩
  | .openItem path => do
    let name ← path.getLast?
    return ⟨← changeAt? (openItem? name) path.dropLast draft.members, path⟩
  | .assign path value => do
    return { draft with members := ← changeAt? (assign? path value) draft.current draft.members }

mutual

def Node.toToml : Node → Toml
  | .value value => value
  | .table _ members => .table (membersToToml members)
  | .items tables => .array (itemsToToml tables)

def membersToToml : List (String × Node) → List (String × Toml)
  | [] => []
  | (name, node) :: members => (name, node.toToml) :: membersToToml members

def itemsToToml : List (List (String × Node)) → List Toml
  | [] => []
  | members :: tables => .table (membersToToml members) :: itemsToToml tables

end

def parse? (source : String) : Option (List (String × Toml)) := do
  let chars := match source.toList with
    | '\ufeff' :: rest => rest
    | all => all
  let statements ← statements? (chars.length + 1) chars
  let draft ← statements.foldlM Draft.step? {}
  return membersToToml draft.members

end Recall.Toml
