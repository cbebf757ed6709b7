import BoardDebug.Json.Value
import BoardDebug.Sorted

namespace BoardDebug.Toml

/-- How a table came to be. -/
inductive Opening where
  /-- By a header of its own, or in braces. -/
  | header
  /-- On the way to a header below it. -/
  | passed
  /-- By a key with points. -/
  | pointed
deriving DecidableEq

mutual

/-- What stands under a name. -/
inductive Entry where
  /-- A value as a whole, to which nothing can be added. -/
  | value (v : Json.Value)
  | table (t : Table)
  /-- Tables that were opened one after the other under one name. -/
  | tables (ts : List Table)

/-- A table while a document is read. -/
inductive Table where
  | mk (opening : Opening) (entries : List (String × Entry))

end

namespace Table

def opening : Table → Opening
  | mk opening _ => opening

def entries : Table → List (String × Entry)
  | mk _ entries => entries

def empty (opening : Opening) : Table :=
  mk opening []

def set (t : Table) (name : String) (entry : Entry) : Table :=
  mk t.opening (Sorted.insert name entry t.entries)

/-- Changes the table at the end of a path. Tables that are missing on the way are opened as `by`
says; of several tables under one name the last one counts. A key with points cannot lead into a
table that has a header. -/
def changeAt (opened : Opening) (change : Table → Option Table) : List String → Table →
    Option Table
  | [], t => change t
  | name :: path, t =>
    match Sorted.find? name t.entries with
    | none =>
      (changeAt opened change path (empty opened)).map fun inner => t.set name (.table inner)
    | some (.value _) => none
    | some (.table inner) =>
      if opened = .pointed ∧ inner.opening = .header then none
      else (changeAt opened change path inner).map fun inner => t.set name (.table inner)
    | some (.tables inners) =>
      match inners.getLast? with
      | some inner =>
        (changeAt opened change path inner).map fun inner =>
          t.set name (.tables (inners.dropLast ++ [inner]))
      | none => none

/-- Puts a value under a key of one name or more. The table that holds it has to be one that such a
key may lead to, and the last name has to be new. -/
def put (path : List String) (value : Json.Value) (t : Table) : Option Table :=
  changeAt .pointed
    (fun inner =>
      if (inner.opening = .pointed) ≠ (1 < path.length) then none
      else
        match path.getLast?, Sorted.find? (path.getLastD "") inner.entries with
        | some name, none => some (inner.set name (.value value))
        | _, _ => none)
    path.dropLast t

/-- Opens the table of a header. It may be there only if nothing but longer headers named it. -/
def openHeader (path : List String) (t : Table) : Option Table :=
  changeAt .passed
    (fun parent =>
      let name := path.getLastD ""
      match Sorted.find? name parent.entries with
      | none => some (parent.set name (.table (empty .header)))
      | some (.table inner) =>
        if inner.opening = .passed then some (parent.set name (.table (mk .header inner.entries)))
        else none
      | some _ => none)
    path.dropLast t

/-- Opens one more of the tables of a header. -/
def openNext (path : List String) (t : Table) : Option Table :=
  changeAt .passed
    (fun parent =>
      let name := path.getLastD ""
      match Sorted.find? name parent.entries with
      | none => some (parent.set name (.tables [empty .header]))
      | some (.tables inners) => some (parent.set name (.tables (inners ++ [empty .header])))
      | some _ => none)
    path.dropLast t

end Table

mutual

def Entry.toValue : Entry → Json.Value
  | .value v => v
  | .table t => .object t.toMembers
  | .tables ts => .list (listValues ts)

def Table.toMembers : Table → List (String × Json.Value)
  | .mk _ entries => memberValues entries

def memberValues : List (String × Entry) → List (String × Json.Value)
  | [] => []
  | (name, entry) :: rest => (name, entry.toValue) :: memberValues rest

def listValues : List Table → List Json.Value
  | [] => []
  | t :: rest => .object t.toMembers :: listValues rest

end

end BoardDebug.Toml
