import BoardDebug.Build.Regex.Reading
import BoardDebug.Build.Shell.Find.Query
import BoardDebug.Build.Tool.Status

namespace BoardDebug.Build.Shell.Find

/-- A pattern in which a backslash quotes what is behind it. -/
def patternOf (text : String) : Pattern :=
  Pattern.turned (go text.toList)
where
  go : List Char → Pattern
    | '\\' :: c :: rest => (c, true) :: go rest
    | c :: rest => (c, false) :: go rest
    | [] => []

/-- Whether a pattern stands for what is found. -/
def fitting (ignoresCase : Bool) (pattern : String) (text : Found → Option String) : Test :=
  let lowered (text : String) : String := if ignoresCase then text.toLower else text
  let pattern := patternOf (lowered pattern)
  fun _ found => (text found).any fun text => pattern.accepts (lowered text).toList

/-- Where a link leads. -/
def Found.target? (found : Found) : Option String :=
  match found.node.body with
  | .link path => some path
  | _ => none

/-- The letter for the kind of a file. -/
def kindOf (body : Body) : Char :=
  match (Tool.kindLetter body).toList with
  | ['-'] => 'f'
  | [c] => c
  | _ => '?'

/-- What is found at the end of a link, if there is anything. -/
def Found.followed? (files : Files) (found : Found) : Option Node :=
  match found.node.body with
  | .link path =>
    let near := if path.startsWith "/" then path
      else "/" ++ "/".intercalate (found.place.dropLast ++ [path])
    (files.find near).toOption.map (·.2)
  | _ => some found.node

/-- A number with a sign that tells how other numbers have to compare with it. -/
def comparison? (text : List Char) : Option (Ordering × List Char) :=
  match text with
  | '+' :: rest => some (.gt, rest)
  | '-' :: rest => some (.lt, rest)
  | rest => some (.eq, rest)

/-- A test of numbers, such as the number of links. -/
def numberTest? (text : String) (number : Files → Found → Nat) : Option Test := do
  let (order, digits) ← comparison? text.toList
  let n ← Text.digits? 10 digits
  return fun files found => compare (number files found) n == order

/-- A test of how old something is, in a unit of time. A unit that has begun counts if it is
`begun`. -/
def ageTest? (now unit : Int) (begun : Bool) (text : String) : Option Test := do
  let (order, digits) ← comparison? text.toList
  let units ← Date.seconds? digits
  if digits.head? = some '-' then none
  return fun _ found =>
    let age := now - found.node.time
    let whole := unit * Date.second
    let count := if begun then -((-age).fdiv whole) else age.fdiv whole
    compare (count * Date.second) units == order

/-- The bytes in a unit of size. -/
def sizeUnit? (c : Char) : Option Nat :=
  match c with
  | 'b' => some 512
  | 'c' => some 1
  | 'w' => some 2
  | 'k' => some 1024
  | 'M' => some 1048576
  | 'G' => some 1073741824
  | _ => none

/-- A test of a size, in units of which the last one need not be full. -/
def sizeTest (text : String) : Except String Test := do
  let chars := text.toList
  let some last := chars.getLast? | throw "invalid null argument to -size"
  let (unit, chars) ←
    if last.isDigit then pure (512, chars)
    else
      match sizeUnit? last with
      | some unit => pure (unit, chars.dropLast)
      | none => throw ("invalid -size type \x60" ++ String.singleton last ++ "'")
  let amount : Option (Ordering × Nat) := do
    let (order, digits) ← comparison? chars
    return (order, ← Text.digits? 10 digits)
  match amount with
  | some (order, n) =>
    return fun _ found => compare ((Tool.sizeOf found.node.body + unit - 1) / unit) n == order
  | none => throw ("Invalid argument \x60" ++ text ++ "' to -size")

/-- A test of what may be done with a file. -/
def modeTest (text : String) : Except String Test := do
  let fail {α : Type} : Except String α := throw ("invalid mode " ++ Tool.quoted text)
  let read (word : String) : Except String Nat :=
    match Tool.Mode.of? word with
    | some change => return change 0 false 0
    | none => fail
  match text.toList with
  | '-' :: word =>
    let bits ← read (String.ofList word)
    return fun _ found => found.node.mode &&& bits == bits
  | '/' :: word =>
    let bits ← read (String.ofList word)
    return fun _ found => bits == 0 || found.node.mode &&& bits != 0
  | '+' :: c :: _ =>
    if c.isDigit then fail
    else
      let bits ← read text
      return fun _ found => found.node.mode == bits
  | _ =>
    let bits ← read text
    return fun _ found => found.node.mode == bits

/-- The kinds of files in a list of letters with commas between them. -/
def kinds (name text : String) : Except String (List Char) :=
  if text.isEmpty then .error ("Arguments to " ++ name ++ " should contain at least one letter")
  else go [] text.toList
where
  go (seen : List Char) : List Char → Except String (List Char)
    | [] => .ok seen.reverse
    | c :: rest =>
      if !(['b', 'c', 'd', 'f', 'l', 'p', 's'].contains c) then
        .error ("Unknown argument to " ++ name ++ ": " ++ String.singleton c)
      else if seen.contains c then
        .error ("Duplicate file type '" ++ String.singleton c ++
          "' in the argument list to " ++ name ++ ".")
      else
        match rest with
        | [] => .ok (c :: seen).reverse
        | [','] =>
          .error ("Last file type in list argument to " ++ name ++
            " is missing, i.e., list is ending on: ','")
        | ',' :: rest => go (c :: seen) rest
        | _ => .error ("Must separate multiple arguments to " ++ name ++ " using: ','")

/-- The ways to spell descriptions of paths, by their names. -/
def spellings : List (String × Option Regex.Spelling) :=
  [("findutils-default", none), ("ed", some .basic), ("emacs", none),
    ("gnu-awk", some .loose), ("grep", some .looseBasic), ("posix-awk", some .loose),
    ("awk", some .loose), ("posix-basic", some .basic), ("posix-egrep", some .loose),
    ("egrep", some .loose), ("posix-extended", some .extended),
    ("posix-minimal-basic", some .basic), ("sed", some .basic)]

/-- A description in the usual way, where brackets and bars need a backslash to be signs. -/
def respelled : List Char → List Char
  | '\\' :: c :: rest =>
    if ['(', ')', '|'].contains c then c :: respelled rest
    else '\\' :: c :: respelled rest
  | '[' :: rest => '[' :: respelled rest
  | c :: rest =>
    if ['(', ')', '|', '\x7b', '\x7d'].contains c then '\\' :: c :: respelled rest
    else c :: respelled rest
  | [] => []

/-- A test of whether a description fits a path as a whole. -/
def regexTest (spelling : Option Regex.Spelling) (ignoresCase : Bool) (text : String) :
    Except String Test :=
  let read := match spelling with
    | some spelling => Regex.read spelling text.toList
    | none => Regex.read .loose (respelled text.toList)
  match read with
  | .ok (regex, _) =>
    let view : Regex.View := { ignoresCase }
    .ok fun _ found =>
      let path := found.path.toList
      let isAll (place : Regex.Place) : Option Regex.Place :=
        if place.index = path.length then some place else none
      (regex.go view path isAll ⟨[], path, 0, []⟩).isSome
  | .error fault =>
    .error ("failed to compile regular expression '" ++ text ++ "': " ++ fault.message)

end BoardDebug.Build.Shell.Find
