import BoardDebug.Build.Shell.Pattern

namespace BoardDebug.Build.Shell.Find

/-- Something that is found, under the path by which it is found. -/
structure Found where
  /-- The path from which the search started. -/
  start : String
  path : String
  /-- Where the last name of the path lies. -/
  spot : Place
  /-- Where the node lies. That is another place if the name is a link that was followed. -/
  place : Place
  /-- How many names lie between the start and this. -/
  depth : Nat
  node : Node

namespace Found

/-- The path without slashes at its end. -/
def trimmed (found : Found) : String :=
  let short := (found.path.dropEndWhile '/').toString
  if short.isEmpty ∧ !found.path.isEmpty then "/" else short

/-- The last name of the path. -/
def name (found : Found) : String :=
  if found.trimmed = "/" then "/" else (found.trimmed.splitOn "/").getLastD ""

/-- The path of the directory in which this lies. -/
def parent (found : Found) : String :=
  match (found.trimmed.splitOn "/").dropLast with
  | [] => "."
  | names => "/".intercalate names

end Found

/-- Whether something holds of what is found. -/
abbrev Test := Files → Found → Bool

/-- A text that tells about what is found. -/
abbrev Report := Files → Found → String

/-- How a program is run for what is found. -/
structure Running where
  words : List String
  /-- Whether it runs in the directory where this lies. -/
  isInPlace : Bool
  /-- Whether somebody is asked before. -/
  asks : Bool

/-- What is asked of all that is found, and what is done with it. Each part has an answer. -/
inductive Query where
  | test (holds : Test)
  /-- Writes to a file, if there is a path. -/
  | tell (path : Option String) (report : Report)
  | delete
  | run (how : Running)
  /-- Runs a program once for all that is found. The number tells such programs apart. -/
  | gather (number : Nat) (how : Running)
  /-- Leaves out what lies in a directory. -/
  | prune
  | quit
  | not (query : Query)
  | both (left right : Query)
  | either (left right : Query)
  /-- Asks both; the second one answers. -/
  | each (left right : Query)

/-- A query in words is a row of these. -/
inductive Item where
  | leaf (query : Query)
  | opening (spelled : String)
  /-- The bracket at the end of all words is not spelled. -/
  | closing (isSpelled : Bool)
  | not (spelled : String)
  | both (spelled : String)
  | either (spelled : String)
  | each (spelled : String)

namespace Item

/-- How tightly an item joins what is around it. -/
def tightness : Item → Nat
  | each _ => 1
  | either _ => 2
  | both _ => 3
  | _ => 0

/-- The sign that an item is, if more has to follow. -/
def sign : Item → String
  | opening spelled => spelled
  | not spelled => spelled
  | both spelled => spelled
  | either spelled => spelled
  | each spelled => spelled
  | _ => ""

/-- Whether an item may stand where another query ends. -/
def endsQuery : Item → Bool
  | leaf _ => true
  | closing _ => true
  | _ => false

/-- Whether an item may stand where a query begins. -/
def startsQuery : Item → Bool
  | leaf _ => true
  | opening _ => true
  | not _ => true
  | _ => false

/-- The items with a sign between queries that only stand side by side. -/
def joined : List Item → List Item
  | first :: second :: rest =>
    let others := joined (second :: rest)
    if first.endsQuery ∧ second.startsQuery then first :: both "-a" :: others
    else first :: others
  | items => items

end Item

namespace Query

/-- A query at the start of items, and the items behind it; it takes all signs that join tighter
than is said. -/
def read : Nat → (tightness : Nat) → (before : Item) → List Item →
    Except String (Query × List Item)
  | 0, _, _, _ => .error "invalid expression"
  | _, _, _, [] => .error "invalid expression"
  | fuel + 1, tightness, before, item :: rest => do
    match item with
    | .leaf query => further fuel tightness query rest
    | .not _ =>
      let (query, rest) ← read fuel 4 item rest
      further fuel tightness (.not query) rest
    | .opening spelled =>
      match rest with
      | [] => throw (lone spelled)
      | .closing false :: _ => throw (lone spelled)
      | .closing true :: _ => throw "invalid expression; empty parentheses are not allowed."
      | rest =>
        match ← read fuel 0 item rest with
        | (query, .closing _ :: rest) => further fuel tightness query rest
        | _ =>
          throw "invalid expression; I was expecting to find a ')' somewhere but did not see one."
    | .closing isSpelled =>
      match isSpelled, before with
      | false, before => throw ("expected an expression after '" ++ before.sign ++ "'")
      | true, .leaf _ => throw "invalid expression; you have too many ')'"
      | true, .opening _ => throw "invalid expression; you have too many ')'"
      | true, before =>
        throw ("expected an expression between '" ++ before.sign ++ "' and ')'")
    | sign =>
      throw ("invalid expression; you have used a binary operator '" ++ sign.sign ++
        "' with nothing before it.")
where
  lone (spelled : String) : String :=
    "invalid expression; expected to find a ')' but didn't see one. " ++
      "Perhaps you need an extra predicate after '" ++ spelled ++ "'"
  /-- A query and what is joined to it by signs that are tight enough. -/
  further (fuel tightness : Nat) (query : Query) : List Item → Except String (Query × List Item)
    | [] => .ok (query, [])
    | sign :: rest =>
      if sign.tightness ≤ tightness then .ok (query, sign :: rest)
      else
        match fuel with
        | 0 => .error "invalid expression"
        | fuel + 1 => do
          let (second, rest) ← read fuel sign.tightness sign rest
          let joined := match sign with
            | .both _ => both query second
            | .either _ => either query second
            | _ => each query second
          further fuel tightness joined rest

/-- The query that items spell as a whole. -/
def ofItems (items : List Item) : Except String Query := do
  let items := Item.joined items
  match ← read (2 * items.length + 2) 0 (.closing false) items with
  | (query, []) => return query
  | (_, _) => throw "you have too many ')'"

/-- The paths of files to which a query writes, in order. -/
def outputs : Query → List String
  | tell (some path) _ => [path]
  | not query => query.outputs
  | both left right => left.outputs ++ right.outputs
  | either left right => left.outputs ++ right.outputs
  | each left right => left.outputs ++ right.outputs
  | _ => []

end Query

end BoardDebug.Build.Shell.Find
