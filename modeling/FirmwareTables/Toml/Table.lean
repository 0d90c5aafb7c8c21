/-
**The tables of a TOML document.**

Tables come about by a header, by a header further down, or by a dotted key, and what may still be
added to a table depends on which of these it was: a header opens a table that none has opened and
no dotted key has made, and a dotted key adds to tables that dotted keys have made. A header of a
list of tables adds a table to the end of the list, which is the one that further names go to.
-/

import FirmwareTables.Description.Tree

namespace FirmwareTables.Toml

/-- How a table came about. -/
inductive Origin where
  /-- By its own header. -/
  | explicit
  /-- By the header of a table inside it. -/
  | implied
  /-- By a dotted key. -/
  | dotted
  deriving DecidableEq

/-- What a name stands for. -/
inductive Node where
  /-- A value, to which nothing can be added. -/
  | value (tree : Tree)
  /-- A table. -/
  | table (origin : Origin) (items : List (String × Node))
  /-- A list of tables. -/
  | tables (list : List (List (String × Node)))

/-- The items of a table. -/
abbrev Items := List (String × Node)

/-- A dotted key: the names before the last dot, and the name after it. -/
structure Key where
  /-- The names that lead to the table. -/
  path : List String
  /-- The name in that table. -/
  name : String

namespace Items

/-- What a name stands for in a table. -/
def find? (name : String) (items : Items) : Option Node :=
  (List.find? (fun item => item.1 == name) items).map Prod.snd

/-- Lets a name stand for something, in its old place or at the end. -/
def put (name : String) (node : Node) : Items → Items
  | [] => [(name, node)]
  | item :: items =>
    if item.1 == name then (name, node) :: items else item :: put name node items

/-- Changes the table at the end of a path. Tables that are lacking on the way get the origin
`made`; dotted keys do not go into tables that have a header. -/
def changeAt (made : Origin) (change : Origin → Items → Option Items) :
    (path : List String) → Origin → Items → Option Items
  | [], own, items => change own items
  | name :: path, _, items => do
    let node ← match find? name items with
      | none => (changeAt made change path made []).map (Node.table made)
      | some (.value _) => none
      | some (.table own inner) =>
        if made = .dotted ∧ own = .explicit then none
        else (changeAt made change path own inner).map (Node.table own)
      | some (.tables list) => do
        let last ← list.getLast?
        let changed ← changeAt made change path .explicit last
        some (.tables (list.dropLast ++ [changed]))
    return put name node items

/-- Adds a value under a key that is new. -/
def insert? (key : Key) (tree : Tree) (items : Items) : Option Items :=
  changeAt .dotted (fun own items =>
    if (own == .dotted) == key.path.isEmpty then none
    else if (find? key.name items).isSome then none
    else some (put key.name (.value tree) items)) key.path .explicit items

/-- Opens the table of a header. -/
def openTable? (key : Key) (items : Items) : Option Items :=
  changeAt .implied (fun _ items =>
    match find? key.name items with
    | none => some (put key.name (.table .explicit []) items)
    | some (.table .implied inner) => some (put key.name (.table .explicit inner) items)
    | _ => none) key.path .explicit items

/-- Opens another table of the list of a header. -/
def openNext? (key : Key) (items : Items) : Option Items :=
  changeAt .implied (fun _ items =>
    match find? key.name items with
    | none => some (put key.name (.tables [[]]) items)
    | some (.tables list) => some (put key.name (.tables (list ++ [[]])) items)
    | _ => none) key.path .explicit items

end Items

mutual

/-- What a name stands for, as a tree. -/
def Node.toTree : Node → Tree
  | .value tree => tree
  | .table _ items => .mapping (Items.toMembers items)
  | .tables list => .sequence (Items.toSequence list)

/-- The items of a table, as items of a mapping. -/
def Items.toMembers : List (String × Node) → List (String × Tree)
  | [] => []
  | (name, node) :: items => (name, node.toTree) :: Items.toMembers items

/-- The tables of a list, as mappings. -/
def Items.toSequence : List (List (String × Node)) → List Tree
  | [] => []
  | items :: list => .mapping (Items.toMembers items) :: Items.toSequence list

end

end FirmwareTables.Toml
