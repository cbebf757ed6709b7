import BoardDebug.Build.Tool.Usage
import BoardDebug.Text.Number

namespace BoardDebug.Build.Tool

/-- A change of what may be done with a file. -/
structure ModeChange where
  /-- Whose rights change; nobody in particular if that is empty. -/
  whose : List Char
  sign : Char
  rights : List Char

namespace Mode

/-- The bits of those whose rights change. -/
def bitsOf (who : Char) : Nat :=
  match who with
  | 'u' => 0o4700
  | 'g' => 0o2070
  | 'o' => 0o1007
  | _ => 0o7777

/-- The bits for a right, from the mode that a file has. -/
def rightBits (mode : Nat) (isDirectory : Bool) (right : Char) : Nat :=
  match right with
  | 'r' => 0o444
  | 'w' => 0o222
  | 'x' => 0o111
  | 'X' => if isDirectory ∨ mode &&& 0o111 ≠ 0 then 0o111 else 0
  | 's' => 0o6000
  | 't' => 0o1000
  | 'u' => (mode / 64 % 8) * 0o111
  | 'g' => (mode / 8 % 8) * 0o111
  | 'o' => (mode % 8) * 0o111
  | _ => 0

def without (mode bits : Nat) : Nat :=
  mode - (mode &&& bits)

/-- The mode after a change. -/
def apply (mask : Nat) (isDirectory : Bool) (mode : Nat) (change : ModeChange) : Nat :=
  let affected := (change.whose.map bitsOf).foldl (· ||| ·) 0
  let asked := (change.rights.map (rightBits mode isDirectory)).foldl (· ||| ·) 0
  let bits := if change.whose.isEmpty then without asked mask else asked &&& affected
  match change.sign with
  | '+' => mode ||| bits
  | '-' => without mode bits
  | _ => without mode (if change.whose.isEmpty then 0o7777 else affected) ||| bits

/-- The changes in a part of a description between two commas. -/
def clause? (text : List Char) : Option (List ModeChange) :=
  let (whose, rest) := text.span "ugoa".toList.contains
  let signs := rest.filter fun c => c == '+' || c == '-' || c == '='
  let pieces := (rest.splitOnP fun c => c == '+' || c == '-' || c == '=').tail
  let isKnown := pieces.all fun rights =>
    rights.all "rwxXst".toList.contains ||
      rights.length == 1 && rights.all "ugo".toList.contains
  if signs.isEmpty ∨ !isKnown ∨ !(rest.head?.any signs.contains) then none
  else some ((signs.zip pieces).map fun (sign, rights) => ⟨whose, sign, rights⟩)

/-- What a description makes of the mode of a file: it is a number, or a list of changes. -/
def of? (text : String) : Option (Nat → Bool → Nat → Nat) :=
  match Text.digits? 8 text.toList with
  | some mode => if mode ≤ 0o7777 then some fun _ _ _ => mode else none
  | none => do
    let clauses ← (text.splitOn ",").mapM fun clause => clause? clause.toList
    return fun mask isDirectory mode => clauses.flatten.foldl (apply mask isDirectory) mode

/-- The letters of a mode, three for each of those who may do something. -/
def letters (mode : Nat) : String :=
  let triple (shift special : Nat) (low high : Char) : List Char :=
    let bits := mode / shift % 8
    let runs := bits % 2 = 1
    let isSpecial := mode / special % 2 = 1
    [if 4 ≤ bits then 'r' else '-', if 2 ≤ bits % 4 then 'w' else '-',
      if isSpecial then (if runs then low else high) else (if runs then 'x' else '-')]
  String.ofList (triple 64 0o4000 's' 'S' ++ triple 8 0o2000 's' 'S' ++ triple 1 0o1000 't' 'T')

/-- The digits of a mode, four or more. -/
def digits (mode : Nat) : String :=
  String.ofList (Text.zeroFill 4 (Nat.toDigits 8 mode))

end Mode

def chmodManual : Manual where
  tool := "chmod"
  letters := "Rcfv"
  words := [("changes", .nothing, 'c'), ("quiet", .nothing, 'f'), ("silent", .nothing, 'f'),
    ("verbose", .nothing, 'v'), ("recursive", .nothing, 'R'), ("reference", .text, '@')]

/-- Whether a word that starts with a dash takes rights away. -/
def isModeWord (word : String) : Bool :=
  match word.toList with
  | '-' :: c :: _ => "rwxXstugoa,+=".toList.contains c
  | _ => false

/-- The places in a directory and below it, each in front of what lies in it. -/
def placesBelow (files : Files) (place : Place) : List Place :=
  let below := (files.entries.map (·.1)).filter fun p => place.isPrefixOf p && p != place
  below.mergeSort fun a b => !b.lex a

/-- The path of a place below another one, which has a path itself. -/
def pathBelow (path : String) (origin place : Place) : String :=
  let start := if path.endsWith "/" then path else path ++ "/"
  if place = origin then path else start ++ "/".intercalate (place.drop origin.length)

/-- Changes what may be done with files. -/
def chmod (arguments : List String) : Work Unit := do
  let (modeWords, others) := arguments.partition isModeWord
  let usage ← chmodManual.usage others
  let (mode, paths) ← match modeWords, usage.operands, usage.text? '@' with
    | _, paths, some model => do
      match (← Work.files).find model with
      | .ok (_, node) => pure (Mode.digits node.mode, paths)
      | .error fault =>
        Work.complain
          ("chmod: failed to get attributes of " ++ inQuotes model ++ ": " ++ reason fault)
        Work.quit 1
    | word :: _, paths, none => pure (word, paths)
    | [], mode :: paths, none => pure (mode, paths)
    | [], [], none => misuse "chmod" "missing operand" 1
  if paths.isEmpty then
    misuse "chmod" ("missing operand after " ++ quoted mode) 1
  match Mode.of? mode with
  | none => misuse "chmod" ("invalid mode: " ++ quoted mode) 1
  | some change => paths.forM (one usage change)
where
  one (usage : Usage) (change : Nat → Bool → Nat → Nat) (path : String) : Work Unit := do
    let files ← Work.files
    match files.find path with
    | .ok (place, _) =>
      let below := if usage.has 'R' then placesBelow files place else []
      (place :: below).forM fun p => set usage change (pathBelow path place p) p
    | .error fault =>
      let isLink := (files.findLink path).isOk
      if !usage.has 'f' then
        Work.complain (if isLink ∧ fault = .missing then
          "chmod: cannot operate on dangling symlink " ++ inQuotes path
          else "chmod: cannot access " ++ inQuotes path ++ ": " ++ reason fault)
      Work.setStatus 1
  set (usage : Usage) (change : Nat → Bool → Nat → Nat) (path : String) (place : Place) :
      Work Unit := do
    let files ← Work.files
    match files.number? place, files.node? place with
    | some number, some node =>
      let isLink := match node.body with
        | .link _ => true
        | _ => false
      if isLink then return ()
      let new := change files.mask (node.body == .directory) node.mode
      Work.changeFiles (·.change number fun node => { node with mode := new })
      let tells := usage.has 'v' || usage.has 'c' && new != node.mode
      let said (mode : Nat) := Mode.digits mode ++ " (" ++ Mode.letters mode ++ ")"
      if tells then
        let text := if new = node.mode then "retained as " ++ said new
          else "changed from " ++ said node.mode ++ " to " ++ said new
        Work.say ("mode of " ++ inQuotes path ++ " " ++ text ++ "\n")
    | _, _ => return ()

end BoardDebug.Build.Tool
