import BoardDebug.Build.Regex.Reading
import BoardDebug.Build.Shell.Record.Value

namespace BoardDebug.Build.Shell.Record

/-- What a getline reads from. -/
inductive Origin where
  | main
  | file
  | command
deriving DecidableEq

mutual

/-- Something that a value can be put into. -/
inductive Target where
  | name (name : String)
  | field (index : Expr)
  | item (table : String) (keys : List Expr)

inductive Expr where
  | number (x : Float)
  | text (s : String)
  /-- A description of texts, with its spelling. -/
  | regex (regex : Regex) (spelled : String)
  | target (t : Target)
  /-- Puts a value into something, perhaps together with what was there. -/
  | assign (sign : String) (t : Target) (value : Expr)
  /-- Adds to what is there; the result is what was there before or after. -/
  | step (isBefore : Bool) (by' : Float) (t : Target)
  | unary (sign : Char) (e : Expr)
  | arithmetic (sign : Char) (a b : Expr)
  | compare (sign : String) (a b : Expr)
  | join (a b : Expr)
  | matches (isNot : Bool) (text description : Expr)
  | both (a b : Expr)
  | either (a b : Expr)
  | choose (condition yes no : Expr)
  | among (keys : List Expr) (table : String)
  | call (name : String) (arguments : List Expr)
  | builtin (name : String) (arguments : List Expr)
  | getline (origin : Origin) (source : Option Expr) (t : Option Target)
  /-- Expressions in brackets. -/
  | list (es : List Expr)

end

instance : Inhabited Expr := ⟨.list []⟩

/-- Where lines are written. -/
inductive Outlet where
  | main
  | file (path : Expr)
  /-- The end of a file. -/
  | append (path : Expr)
  | command (text : Expr)

inductive Statement where
  | eval (e : Expr)
  | print (es : List Expr) (outlet : Outlet)
  | printf (es : List Expr) (outlet : Outlet)
  | branch (condition : Expr) (yes : Statement) (no : Option Statement)
  | loop (condition : Expr) (body : Statement)
  /-- The body runs before the condition is looked at. -/
  | until (body : Statement) (condition : Expr)
  | count (start : Option Statement) (condition : Option Expr) (step : Option Statement)
      (body : Statement)
  | each (name table : String) (body : Statement)
  | block (body : List Statement)
  | next
  | nextFile
  | exit (status : Option Expr)
  | return (value : Option Expr)
  | break
  | continue
  | delete (table : String) (keys : Option (List Expr))

instance : Inhabited Statement := ⟨.block []⟩

/-- When the action of a rule runs. -/
inductive Condition where
  | begin
  | stop
  | always
  | holds (e : Expr)
  /-- From a record on for which one thing holds, to the next one for which another does. -/
  | range (number : Nat) (first last : Expr)

structure Rule where
  condition : Condition
  action : Statement

structure Function where
  parameters : List String
  body : Statement

/-- What is done with the records of files. -/
structure Program where
  rules : List Rule := []
  functions : List (String × Function) := []

end BoardDebug.Build.Shell.Record
