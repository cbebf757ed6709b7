import BoardDebug.Build.Shell.Find.Format

namespace BoardDebug.Build.Shell.Find

/-- What is known about a search before it starts. -/
structure Plan where
  /-- The moment of the search. -/
  now : Int
  files : Files
  /-- How deep things lie at least for which the query is asked, and at most. -/
  least : Nat := 0
  most : Option Nat := none
  /-- Whether the query is asked for a directory after what lies in it. -/
  isLate : Bool := false
  /-- Whether that was said in so many words. -/
  isLateByWord : Bool := false
  /-- Whether links are followed: all of them, or those from which the search starts. -/
  follows : Bool := false
  followsStarts : Bool := false
  /-- Whether the query says what to do with what is found. -/
  acts : Bool := false
  deletes : Bool := false
  prunes : Bool := false
  /-- How many programs run once for all. -/
  gathers : Nat := 0
  /-- How descriptions of paths are spelled; nothing for the usual way. -/
  spelling : Option Regex.Spelling := none
  warnings : List String := []

abbrev Reader := StateT Plan (Except String)

/-- The report that a format asks for. -/
def formatted (text : String) : Reader Report := do
  let (all, warnings) ← liftM (reports (text.length + 1) text.toList)
  modify fun plan => { plan with warnings := plan.warnings ++ warnings }
  return fun files found => String.join (all.map fun report => report files found)

/-- Takes a query for one that says what to do. -/
def acting (query : Query) : Reader Query := do
  modify fun plan => { plan with acts := true }
  return query

/-- The moment when the file at a path changed. -/
def momentOf (path : String) : Reader Int := do
  match (← get).files.find path with
  | .ok (_, node) => return node.time
  | .error fault => throw (Tool.quoted path ++ ": " ++ Tool.reason fault)

/-- A word of a query that stands by itself. -/
def plainWord? (name : String) : Option (Reader Query) :=
  let test (holds : Test) : Option (Reader Query) := some (return .test holds)
  let always : Query := .test fun _ _ => true
  let option (change : Plan → Plan) : Option (Reader Query) := some do
    modify change
    return always
  match name with
  | "-true" => test fun _ _ => true
  | "-false" => test fun _ _ => false
  | "-nouser" => test fun _ _ => false
  | "-nogroup" => test fun _ _ => false
  | "-readable" => test fun _ _ => true
  | "-writable" => test fun _ _ => true
  | "-executable" => test fun files found =>
    (found.followed? files).any fun node => node.mode &&& 0o111 != 0
  | "-empty" => test fun files found =>
    match found.node.body with
    | .directory => (files.names found.place).isEmpty
    | .file bytes => bytes.isEmpty
    | _ => false
  | "-print" => some (acting (.tell none fun _ found => found.path ++ "\n"))
  | "-print0" => some (acting (.tell none fun _ found => found.path ++ "\x00"))
  | "-quit" => some (acting .quit)
  | "-prune" => some do
    modify fun plan => { plan with prunes := true }
    return .prune
  | "-delete" => some do
    modify fun plan => { plan with deletes := true, isLate := true }
    acting .delete
  | "-depth" => option fun plan => { plan with isLate := true, isLateByWord := true }
  | "-d" => option fun plan => { plan with isLate := true, isLateByWord := true }
  | "-follow" => option fun plan => { plan with follows := true, followsStarts := true }
  | name =>
    if ["-xdev", "-mount", "-noleaf", "-daystart", "-warn", "-nowarn", "-ignore_readdir_race",
        "-noignore_readdir_race"].contains name then option id
    else none

/-- The depth that a word spells. -/
def depthOf (name text : String) : Except String Nat :=
  match Text.digits? 10 text.toList with
  | some depth => .ok depth
  | none => .error ("Expected a positive decimal integer argument to " ++ name ++
      ", but got " ++ Tool.quoted text)

/-- Who is known besides the one that owns all files. -/
def otherOwners : List String :=
  ["daemon", "bin", "sys", "games", "man", "lp", "mail", "news", "nobody"]

/-- A test of the owner, who is the same for all files. -/
def ownerTest (text known unknown : String) : Except String Test :=
  match Text.digits? 10 text.toList with
  | some n => .ok fun _ _ => n == 0
  | none =>
    if text = "root" then .ok fun _ _ => true
    else if text = "" then .error ("The argument to " ++ known ++ " should not be empty")
    else if otherOwners.contains text then .ok fun _ _ => false
    else .error (Tool.quoted text ++ unknown)

/-- A word of a query that needs a text behind it. -/
def takingWord? (name : String) : Option (String → Reader Query) :=
  let test (read : String → Except String Test) : Option (String → Reader Query) :=
    some fun text => do return .test (← liftM (read text))
  let number (read : String → Option Test) : Option (String → Reader Query) :=
    test fun text =>
      match read text with
      | some holds => .ok holds
      | none => .error ("invalid argument \x60" ++ text ++ "' to \x60" ++ name ++ "'")
  let fits (ignoresCase : Bool) (part : Found → Option String) :
      Option (String → Reader Query) :=
    test fun text => .ok (fitting ignoresCase text part)
  let fileName (found : Found) : Option String := some found.name
  let path (found : Found) : Option String := some found.path
  let regex (ignoresCase : Bool) : Option (String → Reader Query) := some fun text => do
    return .test (← liftM (regexTest (← get).spelling ignoresCase text))
  let age (unit : Int) (begun : Bool) : Option (String → Reader Query) := some fun text => do
    match ageTest? (← get).now unit begun text with
    | some holds => return .test holds
    | none => throw ("invalid argument \x60" ++ text ++ "' to \x60" ++ name ++ "'")
  let newer : Option (String → Reader Query) := some fun path => do
    let moment ← momentOf path
    return .test fun _ found => moment < found.node.time
  let option (read : String → Except String (Plan → Plan)) : Option (String → Reader Query) :=
    some fun text => do
      modify (← liftM (read text))
      return .test fun _ _ => true
  match name with
  | "-name" => fits false fileName
  | "-iname" => fits true fileName
  | "-path" => fits false path
  | "-ipath" => fits true path
  | "-wholename" => fits false path
  | "-iwholename" => fits true path
  | "-lname" => fits false Found.target?
  | "-ilname" => fits true Found.target?
  | "-regex" => regex false
  | "-iregex" => regex true
  | "-regextype" => option fun text =>
    match spellings.find? fun (name, _) => name = text with
    | some (_, spelling) => .ok fun plan => { plan with spelling }
    | none =>
      let names := ", ".intercalate (spellings.map fun (name, _) => Tool.quoted name)
      .error ("Unknown regular expression type " ++ Tool.quoted text ++
        "; valid types are " ++ names ++ ".")
  | "-type" => test fun text =>
    (kinds name text).map fun letters _ found => letters.contains (kindOf found.node.body)
  | "-xtype" => test fun text =>
    (kinds name text).map fun letters files found =>
      letters.contains (kindOf ((found.followed? files).getD found.node).body)
  | "-size" => test sizeTest
  | "-perm" => test modeTest
  | "-links" => number fun text =>
    numberTest? text fun files found => Tool.linkCount files found.place
  | "-inum" => number fun text =>
    numberTest? text fun files found => (files.number? found.place).getD 0 + 2
  | "-uid" => number fun text => numberTest? text fun _ _ => 0
  | "-gid" => number fun text => numberTest? text fun _ _ => 0
  | "-user" => test (ownerTest · name " is not the name of a known user")
  | "-group" => test (ownerTest · name " is not the name of an existing group")
  | "-mtime" => age 86400 false
  | "-atime" => age 86400 false
  | "-ctime" => age 86400 false
  | "-mmin" => age 60 true
  | "-amin" => age 60 true
  | "-cmin" => age 60 true
  | "-newer" => newer
  | "-anewer" => newer
  | "-cnewer" => newer
  | "-samefile" => some fun path => do
    let files := (← get).files
    match files.find path with
    | .ok (place, _) =>
      let number := files.number? place
      return .test fun files found => files.number? found.place == number
    | .error fault => throw (Tool.quoted path ++ ": " ++ Tool.reason fault)
  | "-maxdepth" => option fun text =>
    (depthOf name text).map fun depth plan => { plan with most := some depth }
  | "-mindepth" => option fun text =>
    (depthOf name text).map fun depth plan => { plan with least := depth }
  | "-printf" => some fun text => do acting (.tell none (← formatted text))
  | "-fprint" => some fun path => acting (.tell (some path) fun _ found => found.path ++ "\n")
  | "-fprint0" => some fun path => acting (.tell (some path) fun _ found => found.path ++ "\x00")
  | "-fstype" => test fun _ => .ok fun _ _ => false
  | _ => none

/-- A test of whether something changed after a moment that a word names. -/
def momentTest (name : String) (words : List String) : Reader (Query × List String) := do
  match name.toList.drop 6, words with
  | [x, y], words =>
    if !(['a', 'B', 'c', 'm'].contains x) ∨ !(['a', 'B', 'c', 'm', 't'].contains y) then
      throw ("invalid predicate \x60" ++ name ++ "'")
    match words with
    | [] => throw ("The '" ++ name ++ "' test needs an argument")
    | word :: words =>
      let moment ←
        if y = 't' then
          match Date.read? (← get).now word with
          | some moment => pure moment
          | none =>
            throw ("I cannot figure out how to interpret " ++ Tool.quoted word ++
              " as a date or time")
        else momentOf word
      return (.test fun _ found => moment < found.node.time, words)
  | _, _ => throw ("unknown predicate \x60" ++ name ++ "'")

/-- A program to run, and the words behind it. -/
def program (name : String) (words : List String) : Reader (Query × List String) := do
  let isInPlace := name.endsWith "dir"
  let asks := name.startsWith "-ok"
  modify fun plan => { plan with acts := true }
  if words.head? = some ";" then throw ("invalid argument \x60;' to \x60" ++ name ++ "'")
  match split words with
  | none => throw ("missing argument to \x60" ++ name ++ "'")
  | some (words, false, rest) => return (.run ⟨words, isInPlace, asks⟩, rest)
  | some (words, true, rest) =>
    let last := words.getLastD ""
    if words.dropLast.any hasBraces then
      throw ("Only one instance of \x7b\x7d is supported with " ++ name ++ " ... +")
    else if last ≠ "\x7b\x7d" then
      throw ("In '" ++ name ++ " ... \x7b\x7d +' the '\x7b\x7d' must appear by itself, " ++
        "but you specified '" ++ last ++ "'")
    else
      let number := (← get).gathers
      modify fun plan => { plan with gathers := number + 1 }
      return (.gather number ⟨words.dropLast, isInPlace, asks⟩, rest)
where
  hasBraces (word : String) : Bool :=
    1 < (word.splitOn "\x7b\x7d").length
  /-- The words up to a semicolon, or up to a plus sign that is behind braces. -/
  split : List String → Option (List String × Bool × List String)
    | [] => none
    | word :: rest =>
      if word = ";" then some ([], false, rest)
      else if hasBraces word ∧ rest.head? = some "+" then some ([word], true, rest.tail)
      else (split rest).map fun (words, gathers, rest) => (word :: words, gathers, rest)

/-- Whether a word belongs to a query rather than naming a path. -/
def isQueryWord (isFirst : Bool) (word : String) : Bool :=
  match word.toList with
  | '-' :: _ :: _ => true
  | [')'] => !isFirst
  | [','] => !isFirst
  | ['('] => true
  | ['!'] => true
  | _ => false

/-- The items that words spell. -/
def items : Nat → List String → Reader (List Item)
  | 0, _ => return []
  | _, [] => return []
  | fuel + 1, name :: rest => do
    let sign (item : Item) : Reader (List Item) := do return item :: (← items fuel rest)
    if !isQueryWord false name then
      throw ("paths must precede expression: \x60" ++ name ++ "'")
    match name with
    | "(" => sign (.opening name)
    | ")" => sign (.closing true)
    | "!" => sign (.not name)
    | "-not" => sign (.not name)
    | "-a" => sign (.both name)
    | "-and" => sign (.both name)
    | "-o" => sign (.either name)
    | "-or" => sign (.either name)
    | "," => sign (.each name)
    | name =>
      if ["-exec", "-execdir", "-ok", "-okdir"].contains name then
        let (query, rest) ← program name rest
        return .leaf query :: (← items fuel rest)
      else
        match plainWord? name, takingWord? name, rest with
        | some read, _, _ => sign (.leaf (← read))
        | none, some _, [] => throw ("missing argument to \x60" ++ name ++ "'")
        | none, some read, text :: rest =>
          let query ← read text
          return .leaf query :: (← items fuel rest)
        | none, none, rest =>
          match name, rest with
          | "-fprintf", [] => throw "missing argument to \x60-fprintf'"
          | "-fprintf", [path] => throw ("invalid argument \x60" ++ path ++ "' to \x60-fprintf'")
          | "-fprintf", path :: text :: rest =>
            let query ← acting (.tell (some path) (← formatted text))
            return .leaf query :: (← items fuel rest)
          | name, rest =>
            if name.startsWith "-newer" then
              let (query, rest) ← momentTest name rest
              return .leaf query :: (← items fuel rest)
            else throw ("unknown predicate \x60" ++ name ++ "'")

/-- The query that words spell. If it does not say what to do, paths are written. -/
def queryOf (words : List String) : Reader Query := do
  let found ← items (words.length + 1) words
  let plan ← get
  let print : Query := .tell none fun _ found => found.path ++ "\n"
  let query ←
    if plan.acts then liftM (Query.ofItems found)
    else if found.isEmpty then pure print
    else liftM (Query.ofItems (.opening "(" :: found ++ [.closing false, .leaf print]))
  if plan.deletes ∧ plan.prunes ∧ !plan.isLateByWord then
    throw ("The -delete action automatically turns on -depth, but -prune does nothing when " ++
      "-depth is in effect.  If you want to carry on anyway, just explicitly use the -depth " ++
      "option.")
  return query

/-- The options in front of all paths, and the words behind them. -/
def leading : Nat → List String → Reader (List String)
  | 0, words => return words
  | _, [] => return []
  | fuel + 1, word :: rest => do
    match word with
    | "-H" =>
      modify fun plan => { plan with follows := false, followsStarts := true }
      leading fuel rest
    | "-L" =>
      modify fun plan => { plan with follows := true, followsStarts := true }
      leading fuel rest
    | "-P" =>
      modify fun plan => { plan with follows := false, followsStarts := false }
      leading fuel rest
    | "--" => return rest
    | "-D" => leading fuel rest.tail
    | word =>
      if word.startsWith "-O" then
        match Text.digits? 10 (word.toList.drop 2) with
        | some _ => leading fuel rest
        | none =>
          throw (if word = "-O" then
            "The -O option must be immediately followed by a decimal integer"
            else "Please specify a decimal number immediately after -O")
      else return word :: rest

end BoardDebug.Build.Shell.Find
