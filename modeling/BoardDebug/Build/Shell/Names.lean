import BoardDebug.Build.Shell.Expand
import BoardDebug.Build.Shell.Output
import BoardDebug.Build.Shell.Trap

namespace BoardDebug.Build.Shell

/-- A text in double quotes, as a shell writes the values of names; or with escapes if there is
something in it that cannot be printed. -/
def doubleQuoted (text : String) : String :=
  if text.toList.any fun c => c < ' ' || c == '\x7f' then
    let escaped (c : Char) : List Char :=
      if c = '\x27' ∨ c = '\\' then ['\\', c]
      else if Tool.isPrintable c then [c]
      else '\\' :: Tool.spelled c
    "$'" ++ String.ofList (text.toList.flatMap escaped) ++ "'"
  else
    let escaped (c : Char) : List Char :=
      if ['"', '\\', '$', '\x60'].contains c then ['\\', c] else [c]
    "\"" ++ String.ofList (text.toList.flatMap escaped) ++ "\""

/-- A text in quotes if a shell would not read it as one plain word. -/
def quotedIfNeeded (text : String) : String :=
  let isPlain (c : Char) : Bool := c.isAlphanum || "%+,-./:=@_".toList.contains c
  if text.toList.any fun c => c < ' ' || c == '\x7f' then doubleQuoted text
  else if text.toList.all isPlain then text
  else quotedFor .bash text

/-- How a value is written behind a name; `quote` writes single texts. -/
def Value.shown (quote : String → String) : Value → String
  | text content => quote content
  | list items =>
    let shown := items.map fun (n, item) => "[" ++ toString n ++ "]=" ++ doubleQuoted item
    "(" ++ " ".intercalate shown ++ ")"
  | table items =>
    let isPlain (key : String) : Bool := key.toList.all isNameChar && !key.isEmpty
    let shown := (tableOrder items).map fun (key, item) =>
      "[" ++ (if isPlain key then key else doubleQuoted key) ++ "]=" ++ doubleQuoted item ++ " "
    "(" ++ String.join shown ++ ")"

namespace Script

/-- The name and the value in a word such as `name=value`. -/
def setting (word : String) : String × Option String :=
  match word.toList.span (· ≠ '=') with
  | (name, _ :: value) => (String.ofList name, some (String.ofList value))
  | (name, []) => (String.ofList name, none)

/-- Writes lines in the name of the shell. -/
def tell (lines : List String) : Script Unit := do
  let _ ← write 1 (Octets.bytes (String.join (lines.map (· ++ "\n"))))
  setStatus 0

/-- Refuses an option in the words of a shell. -/
def refuseOption (isBash : Bool) (letter : Char) (usage : String) : Script Unit := do
  if isBash then
    note ("-" ++ String.singleton letter ++ ": invalid option") 2
    warn (usage ++ "\n")
  else refuse ("Illegal option -" ++ String.singleton letter) 2

/-- Names in their order, each once. -/
def sorted (names : List String) : List String :=
  names.eraseDups.mergeSort

/-- What can be said of a name besides its value, as letters. -/
def attributes (s : State) (name : String) : String :=
  let kind := match look name s.bindings with
    | some (.list _) => "a"
    | some (.table _) => "A"
    | _ => ""
  let marks := [(s.integers.contains name, "i"), (s.readOnly.contains name, "r"),
    (s.exported.contains name, "x")]
  kind ++ String.join (marks.map fun (isMarked, letter) => if isMarked then letter else "")

/-- How a name is declared. -/
def declaration (s : State) (name : String) : String :=
  let letters := attributes s name
  let value := (look name s.bindings).map fun value => "=" ++ value.shown doubleQuoted
  "declare -" ++ (if letters.isEmpty then "-" else letters) ++ " " ++ name ++ value.getD ""

/-- Writes names with a mark. -/
def tellNames (word : String) (marked : List String) : Script Unit := do
  let s ← get
  tell <| (sorted marked).map fun name =>
    if s.isBash then declaration s name
    else
      let value := (s.text? name).map fun value => "=" ++ quotedFor .sh value
      word ++ " " ++ name ++ value.getD ""

/-- Writes what all names stand for. -/
def tellBindings : Script Unit := do
  let s ← get
  tell <| (sorted (s.bindings.map (·.1))).filterMap fun name =>
    (look name s.bindings).map fun value =>
      name ++ "=" ++ value.shown (if s.isBash then quotedIfNeeded else quotedFor .sh)

/-- Lets a name stand for a text, perhaps behind what it stands for; the text may be an
expression. -/
def assignText (name text : String) (appends : Bool) : Script Unit := do
  let s ← get
  let old := if appends then (s.text? name).getD "" else ""
  if s.integers.contains name then
    let n ← evaluate text.toList
    let before ← if appends then evaluate old.toList else pure 0
    assign name (toString (Arithmetic.wrap (before + n)))
  else assign name (old ++ text)

/-- Lets a name stand for the words in the text of a list. -/
def assignItems (runText : Source → Script Unit) (name : String) (text : List Char)
    (appends : Bool) : Script Unit := do
  let s ← get
  let reader : Reading (List Word) := do
    Reading.items (← Reading.fuel)
  match reader.on s.rules (.of (text ++ [')'])) with
  | .error fault => refuse fault.text 1
  | .ok (words, _) =>
    let old := look name s.bindings
    let start : Value := match old, appends with
      | some (.table items), true => .table items
      | some (.table _), false => .table []
      | some (.list items), true => .list items
      | some (.text content), true => .list [(0, content)]
      | _, _ => .list []
    let value ← words.foldlM
      (fun (value : Value) word => do
        match item? word with
        | some (key, content) =>
          let key := Atom.text (← atoms runText maxNesting key)
          let content ← valueOf runText content
          match value with
          | .table items =>
            let key := String.ofList key
            return .table (items.filter (·.1 ≠ key) ++ [(key, content)])
          | .list items => return .list (putItem (← evaluate key).toNat content items)
          | value => return value
        | none =>
          let fields ← fieldsOf runText word
          match value with
          | .list items =>
            let next := (items.getLast?.map fun (n, _) => n + 1).getD 0
            return .list (items ++ fields.zipIdx.map fun (field, i) => (next + i, field))
          | value => return value)
      start
    setValue name value
where
  item? (word : Word) : Option (Word × Word) :=
    match word with
    | .char '[' false :: rest => do
      let (key, behind) ← Word.bracketed? 0 rest
      match behind with
      | .char '=' false :: value => some (key, value)
      | _ => none
    | _ => none

/-- Does what a word such as `name=value` says, in which the value may be a list in brackets. -/
def assignWord (runText : Source → Script Unit) (word : String) : Script Unit := do
  let (name, value) := setting word
  let (name, appends) := if name.endsWith "+" then ((name.dropEnd 1).toString, true)
    else (name, false)
  let (base, item) := name.toList.span (· ≠ '[')
  let base := String.ofList base
  match value with
  | none => return ()
  | some value =>
    match value.toList, item with
    | '(' :: inner, _ =>
      if (← get).isBash ∧ inner.getLast? = some ')' then
        assignItems runText base inner.dropLast appends
      else assignText base value appends
    | _, '[' :: key =>
      assignAt (atoms runText maxNesting) base (Word.ofText key.dropLast) value
    | _, _ => assignText base value appends

/-- Whether the part of a word in front of an equals sign is a name, perhaps of an item. -/
def namesSomething (isBash : Bool) (word : String) : Bool :=
  let name := (setting word).1
  if isBash then
    let name := if name.endsWith "+" then (name.dropEnd 1).toString else name
    let base := name.toList.takeWhile (· ≠ '[')
    isName base
  else isName name.toList

/-- The letters in front of words, each with the sign in front of it, and the words. -/
def letterOptions : List String → List (Char × Char) × List String
  | [] => ([], [])
  | word :: rest =>
    match word.toList with
    | ['-', '-'] => ([], rest)
    | sign :: c :: letters =>
      if sign = '-' ∨ sign = '+' then
        let (others, words) := letterOptions rest
        ((c :: letters).map (sign, ·) ++ others, words)
      else ([], word :: rest)
    | _ => ([], word :: rest)

/-- Keeps what a name stands for until the function at work is over. -/
def localize (name : String) : Script Unit :=
  modify fun s =>
    match s.frames with
    | here :: outer =>
      if here.bindings.any fun (n, _) => n == name then s
      else
        let here := { here with bindings := (name, look name s.bindings) :: here.bindings }
        { s with frames := here :: outer }
    | [] => s

/-- A name without what it stands for. -/
def forget (name : String) : Script Unit :=
  modify fun s =>
    { s with
      bindings := s.bindings.filter fun (n, _) => n ≠ name
      integers := s.integers.filter (· ≠ name) }

def mark (name : String) (letter : Char) (isOn : Bool) : Script Unit := do
  let change (names : List String) : List String :=
    if isOn then name :: names.filter (· ≠ name) else names.filter (· ≠ name)
  match letter with
  | 'x' => modify fun s => { s with exported := change s.exported }
  | 'r' => if isOn then modify fun s => { s with readOnly := change s.readOnly }
  | 'i' => modify fun s => { s with integers := change s.integers }
  | 'a' =>
    match look name (← get).bindings with
    | some (.text content) => setValue name (.list [(0, content)])
    | none => setValue name (.list [])
    | _ => return ()
  | 'A' =>
    match look name (← get).bindings with
    | some (.table _) => return ()
    | _ => setValue name (.table [])
  | _ => return ()

/-- Gives names values and marks, as words ask. -/
def declareAll (runText : Source → Script Unit) (isLocal : Bool) (marks : List (Char × Char))
    (words : List String) : Script Unit := do
  let isBash := (← get).isBash
  setStatus 0
  words.forM fun word => do
    if !namesSomething isBash word then
      if isBash then note ("\x60" ++ word ++ "': not a valid identifier") 1
      else refuse ((setting word).1 ++ ": bad variable name") 2
    else
      let named := (setting word).1.toList.takeWhile fun c => c ≠ '[' ∧ c ≠ '+'
      let name := String.ofList named
      if isLocal then
        localize name
        if isBash ∧ (setting word).2.isNone then forget name
      let (kinds, others) := marks.partition fun (_, letter) => ['a', 'A', 'i'].contains letter
      kinds.forM fun (sign, letter) => mark name letter (sign == '-')
      assignWord runText word
      others.forM fun (sign, letter) => mark name letter (sign == '-')

/-- Marks names, or writes those that are marked. -/
def markNames (runText : Source → Script Unit) (speaker : String) (letter : Char)
    (words : List String) : Script Unit := do
  let s ← get
  let (options, names) := letterOptions words
  let known := if s.isBash then ['p', 'n', 'f', 'a', 'A'] else ['p']
  match options.find? fun (sign, c) => sign == '+' || !known.contains c with
  | some (_, c) =>
    refuseOption s.isBash c (speaker ++ ": usage: " ++ speaker ++ " [-fn] [name[=value] ...] or " ++
      speaker ++ " -p")
  | none =>
    if names.isEmpty then
      tellNames speaker (if letter = 'x' then s.exported else s.readOnly)
    else
      let isOff := letter == 'x' && options.any fun (_, c) => c == 'n'
      let kinds := options.filter fun (_, c) => c == 'a' || c == 'A'
      declareAll runText false (kinds ++ [(if isOff then '+' else '-', letter)]) names

/-- Declares names with marks, or writes how they are declared. -/
def declare (runText : Source → Script Unit) (speaker : String) (words : List String) :
    Script Unit := do
  let s ← get
  let (options, names) := letterOptions words
  let has (letter : Char) : Bool := options.any fun (_, c) => c == letter
  match options.find? fun (_, c) => !"aAfFgilnprtux".toList.contains c with
  | some (_, c) =>
    refuseOption true c (speaker ++ ": usage: " ++ speaker ++
      " [-aAfFgiIlnrtux] [name[=value] ...] or " ++ speaker ++ " -p [-aAfFilnrtux] [name ...]")
  | none =>
    if has 'f' ∨ has 'F' then
      setStatus 0
      names.forM fun name => do
        if (look name s.functions).isNone then setStatus 1
        else if has 'F' then tell [name]
    else if has 'p' ∨ names.isEmpty then
      let marked := if has 'x' then s.exported else if has 'r' then s.readOnly
        else if has 'i' then s.integers else s.bindings.map (·.1)
      if names.isEmpty then tellNames "declare" marked
      else
        setStatus 0
        names.forM fun name => do
          if (look name s.bindings).isNone ∧ attributes s name = "" then
            note (name ++ ": not found") 1
          else
            let _ ← write 1 (Octets.bytes (declaration s name ++ "\n"))
    else
      let isLocal := speaker = "local" || (!s.frames.isEmpty && !has 'g')
      declareAll runText isLocal
        (options.filter fun (_, c) => ['a', 'A', 'i', 'r', 'x'].contains c) names

/-- Keeps names to the function at work. -/
def localizeAll (runText : Source → Script Unit) (words : List String) : Script Unit := do
  let s ← get
  if s.frames.isEmpty then
    if s.isBash then note "can only be used in a function" 1
    else refuse "not in a function" 2
  else if s.isBash then
    if words = ["-"] then keepOptions else declare runText "local" words
  else
    words.forM fun word => do
      if word = "-" then keepOptions else localize (setting word).1
    declareAll runText false [] (words.filter (· ≠ "-"))
where
  keepOptions : Script Unit :=
    modify fun s =>
      match s.frames with
      | here :: outer => { s with frames := { here with options := some s.options } :: outer }
      | [] => s

/-- Takes an item out of a list. -/
def unsetItem (runText : Source → Script Unit) (name : String) (key : List Char) :
    Script Unit := do
  let key := Atom.text (← atoms runText maxNesting (Word.ofText key))
  match look name (← get).bindings with
  | some (.table items) => setValue name (.table (items.filter (·.1 ≠ String.ofList key)))
  | some (.list items) =>
    let n ← evaluate key
    let last : Int := (items.getLast?.map (·.1)).elim (-1) Int.ofNat
    let n := if n < 0 then last + 1 + n else n
    setValue name (.list (items.filter fun (m, _) => (m : Int) ≠ n))
  | _ => return ()

def unset (runText : Source → Script Unit) (words : List String) : Script Unit := do
  let isBash := (← get).isBash
  let (options, names) := letterOptions words
  let forgets := options.any fun (_, c) => c == 'f'
  match options.find? fun (_, c) => !(c == 'f' || c == 'v' || (isBash && c == 'n')) with
  | some (_, c) => refuseOption isBash c "unset: usage: unset [-f] [-v] [-n] [name ...]"
  | none =>
    setStatus 0
    names.forM fun name => do
      let s ← get
      let (base, item) := name.toList.span (· ≠ '[')
      let isVariable := (look name s.bindings).isSome || s.readOnly.contains name
      let removeFunction : Script Unit :=
        modify fun s => { s with functions := s.functions.filter fun (n, _) => n ≠ name }
      if forgets then removeFunction
      else if isBash ∧ !item.isEmpty then
        unsetItem runText (String.ofList base) item.tail.dropLast
      else if !isName name.toList then
        if isBash then
          if options.any fun (_, c) => c == 'v' then
            note ("\x60" ++ name ++ "': not a valid identifier") 1
          else removeFunction
        else refuse (name ++ ": bad variable name") 2
      else if s.readOnly.contains name then
        if isBash then note (name ++ ": cannot unset: readonly variable") 1
        else refuse (name ++ ": is read only") 2
      else if isBash ∧ !isVariable then removeFunction
      else
        forget name
        modify fun s => { s with exported := s.exported.filter (· ≠ name) }

/-- Short names in the order in which they are written. -/
def shownAliases (s : State) : List (String × String) :=
  let slot (name : String) : Nat :=
    let start := ((name.toList.head?.map Char.toNat).getD 0 * 16)
    (name.toList.foldl (fun n c => n + c.toNat) start) % 39
  if s.isBash then s.aliases.mergeSort fun a b => a.1 ≤ b.1
  else s.aliases.reverse.mergeSort fun a b => slot a.1 ≤ slot b.1

/-- Sets short names, or writes them. -/
def setAliases (words : List String) : Script Unit := do
  let s ← get
  let line (name text : String) : String :=
    (if s.isBash then "alias " else "") ++ name ++ "=" ++ quotedFor s.dialect text
  let words := words.filter (· ≠ "-p")
  if words.isEmpty then tell ((shownAliases s).map fun (name, text) => line name text)
  else
    setStatus 0
    words.forM fun word => do
      match setting word with
      | (name, some text) => modify fun s => { s with aliases := put name text s.aliases }
      | (name, none) =>
        match look name (← get).aliases with
        | some text =>
          let _ ← write 1 (Octets.bytes (line name text ++ "\n"))
        | none =>
          if s.isBash then complain (name ++ ": not found")
          else warn ("alias: " ++ name ++ " not found\n")
          setStatus 1

/-- Takes short names away. -/
def dropAliases (words : List String) : Script Unit := do
  let isBash := (← get).isBash
  match words with
  | "-a" :: _ =>
    modify fun s => { s with aliases := [] }
    setStatus 0
  | words =>
    match words.find? fun word => word.startsWith "-" ∧ 1 < word.length with
    | some word =>
      let usage := "unalias: usage: unalias [-a] name [name ...]"
      refuseOption isBash (word.toList.tail.headD ' ') usage
    | none =>
      setStatus 0
      words.forM fun name => do
        if (look name (← get).aliases).isSome then
          modify fun s => { s with aliases := s.aliases.filter fun (n, _) => n ≠ name }
        else
          if isBash then complain (name ++ ": not found")
          else warn ("unalias: " ++ name ++ " not found\n")
          setStatus 1

end Script

end BoardDebug.Build.Shell
