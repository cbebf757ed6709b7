import BoardDebug.Build.Regex

namespace BoardDebug.Build.Tool.Edit

/-- What is looked for in a text; nothing means what was looked for last. -/
abbrev Sought := Option (Regex × Regex.View)

/-- A line, by its place or by what is in it. -/
inductive Point where
  | line (number : Nat)
  /-- A line, and every so many after it. -/
  | step (first each : Nat)
  | last
  | text (sought : Sought)

/-- The end of a range of lines. -/
inductive Limit where
  | line (number : Nat)
  /-- So many lines further on. -/
  | further (count : Nat)
  /-- The next line whose number is a multiple. -/
  | multiple (number : Nat)
  | last
  | text (sought : Sought)

/-- The lines for which something is done. -/
structure Address where
  first : Point
  limit : Option Limit

/-- How the letters of what comes next are written. -/
inductive Casing where
  | plain
  | upper
  | lower
  /-- Only the first letter. -/
  | upperFirst
  | lowerFirst

/-- A part of a text that is put in place of another. -/
inductive Piece where
  | char (c : Char)
  /-- A part of what was found, or all of it. -/
  | part (number : Nat)
  | casing (casing : Casing)

/-- What is put in place of what is found. -/
structure Substitution where
  sought : Sought
  pieces : List Piece
  /-- Which of the places comes first at which that is done. -/
  number : Nat
  /-- Whether it is done at all places after that too. -/
  isGlobal : Bool
  /-- Whether the text is written if that was done. -/
  prints : Bool
  file : Option String

/-- What is done with a text that is being edited, or around it. -/
inductive Action where
  /-- The commands up to a matching end belong together. -/
  | open
  | close
  | label (name : String)
  | append (text : List Char)
  | insert (text : List Char)
  | change (text : List Char)
  /-- Goes on at a label, or at the end: always, or if something was replaced or was not. -/
  | branch (name : String)
  | branchIf (name : String)
  | branchUnless (name : String)
  | delete
  | deleteLine
  | hold
  | holdMore
  | take
  | takeMore
  | exchange
  | list (width : Option Nat)
  | next
  | nextMore
  | number
  | name
  | print
  | printLine
  /-- Ends, and may write the text before that. -/
  | quit (status : Nat) (prints : Bool)
  | readFile (path : String)
  | readLine (path : String)
  | writeFile (path : String)
  | writeLine (path : String)
  | substitute (substitution : Substitution)
  | translate (pairs : List (Char × Char))
  | clear
  | nothing

structure Command where
  address : Option Address
  /-- Whether it is done for all other lines. -/
  isTurned : Bool
  action : Action

/-- Where the block behind a command ends. -/
def blockEnd (commands : Array Command) (start : Nat) : Nat :=
  go (commands.toList.drop (start + 1)) 0 (start + 1)
where
  go : List Command → Nat → Nat → Nat
    | [], _, index => index
    | command :: rest, depth, index =>
      match command.action, depth with
      | .open, depth => go rest (depth + 1) (index + 1)
      | .close, 0 => index
      | .close, depth + 1 => go rest depth (index + 1)
      | _, depth => go rest depth (index + 1)

def Action.isLabel (name : String) : Action → Bool
  | label other => other = name
  | _ => false

/-- Where a label stands; nothing means the end. -/
def labelPlace? (commands : Array Command) (name : String) : Option Nat :=
  if name = "" then some commands.size
  else commands.findIdx? fun command => command.action.isLabel name

/-- The labels to which commands go on. -/
def targets (commands : Array Command) : List String :=
  commands.toList.filterMap fun command =>
    match command.action with
    | .branch name => some name
    | .branchIf name => some name
    | .branchUnless name => some name
    | _ => none

/-- The files to which commands write. -/
def written (commands : Array Command) : List String :=
  commands.toList.filterMap fun command =>
    match command.action with
    | .writeFile path => some path
    | .writeLine path => some path
    | .substitute s => s.file
    | _ => none

end BoardDebug.Build.Tool.Edit
