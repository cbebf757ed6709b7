import BoardDebug.Build.CharClass
import BoardDebug.Files
import BoardDebug.Text.Number

namespace BoardDebug.Build.Condition

/-- What a word of a condition is, seen together with the words behind it. -/
inductive Sign where
  | nothing
  | operand
  | unary (spelled : String)
  | binary (spelled : String)
  | not
  | both
  | either
  | opening
  | closing
deriving DecidableEq

def unarySigns : List String :=
  ["-r", "-w", "-x", "-e", "-f", "-d", "-c", "-b", "-p", "-u", "-g", "-k", "-s", "-t", "-z", "-n",
    "-h", "-L", "-S", "-O", "-G"]

def binarySigns : List String :=
  ["=", "!=", "<", ">", "-eq", "-ne", "-ge", "-gt", "-le", "-lt", "-nt", "-ot", "-ef"]

/-- What the first of some words is. A sign for one operand is itself an operand if nothing follows
it, or a sign for two. -/
def sign : List String → Sign
  | [] => .nothing
  | word :: rest =>
    if binarySigns.contains word then .binary word
    else if unarySigns.contains word then
      match rest with
      | [] => .operand
      | [_] => .unary word
      | next :: _ => if binarySigns.contains next then .operand else .unary word
    else if word = "!" then .not
    else if word = "-a" then .both
    else if word = "-o" then .either
    else if word = "(" then (if rest.isEmpty then .operand else .opening)
    else if word = ")" then .closing
    else .operand

/-- A whole number with blanks around it. -/
def integer? (word : String) : Option Int :=
  let text := Blank.trim word.toList
  (Text.digits? 10 (Text.dropSign text)).map fun digits =>
    if text.head? = some '-' then -digits else digits

/-- A whole number of 64 bits with blanks around it. -/
def integer (word : String) : Except String Int :=
  match integer? word with
  | some n =>
    if -0x8000000000000000 ≤ n ∧ n < 0x8000000000000000 then .ok n
    else .error ("Illegal number: " ++ word)
  | none => .error ("Illegal number: " ++ word)

/-- Whether something is true of a file, or of the link that a path names. -/
def holdsOfFile (files : Files) (spelled path : String) : Bool :=
  let body : Option Body := (files.find path).toOption.map fun (_, node) => node.body
  let mode := ((files.find path).toOption.map fun (_, node) => node.mode).getD 0
  let isLink := match files.findLink path with
    | .ok (_, ⟨.link _, _, _⟩) => true
    | _ => false
  match spelled, body with
  | "-h", _ => isLink
  | "-L", _ => isLink
  | _, none => false
  | "-d", body => body == some .directory
  | "-f", some (.file _) => true
  | "-f", some (.tool _) => true
  | "-f", _ => false
  | "-s", some (.file bytes) => !bytes.isEmpty
  | "-s", some (.device _) => false
  | "-x", some .directory => true
  | "-x", _ => mode &&& 0o111 != 0
  | "-c", some (.device _) => true
  | "-c", _ => false
  | "-u", _ => mode &&& 0o4000 != 0
  | "-g", _ => mode &&& 0o2000 != 0
  | "-k", _ => mode &&& 0o1000 != 0
  | sign, _ => ["-a", "-e", "-r", "-w", "-s", "-O", "-G", "-N"].contains sign

/-- Whether something is true of a file or a text. -/
def holdsOf (files : Files) (spelled operand : String) : Except String Bool := do
  match spelled with
  | "-z" => return operand.isEmpty
  | "-n" => return !operand.isEmpty
  | "-t" =>
    let _ ← integer operand
    return false
  | spelled => return holdsOfFile files spelled operand

/-- Whether a file is newer than another. -/
def isNewer (files : Files) (left right : String) : Bool :=
  match files.find left, files.find right with
  | .ok (_, a), .ok (_, b) => b.time < a.time
  | _, _ => false

def isSameFile (files : Files) (left right : String) : Bool :=
  match files.find left, files.find right with
  | .ok (a, _), .ok (b, _) => files.number? a = files.number? b
  | _, _ => false

/-- Whether numbers are in the order that a sign says. -/
def compares (spelled : String) (a b : Int) : Bool :=
  match spelled with
  | "-eq" => a == b
  | "-ne" => a != b
  | "-ge" => b ≤ a
  | "-gt" => b < a
  | "-le" => a ≤ b
  | _ => a < b

/-- Whether something is true of two texts, numbers or files. -/
def relates (files : Files) (spelled left right : String) : Except String Bool := do
  match spelled with
  | "=" => return left = right
  | "!=" => return left ≠ right
  | "<" => return left < right
  | ">" => return right < left
  | "-nt" => return isNewer files left right
  | "-ot" => return isNewer files right left
  | "-ef" => return isSameFile files left right
  | spelled => return compares spelled (← integer left) (← integer right)

/-- How tightly the signs bind that may join conditions. -/
inductive Level where
  | either
  | both
  | not
  | primary

/-- Whether a condition holds, and the words from its last one on. -/
def holds (files : Files) : Nat → Level → List String → Except String (Bool × List String)
  | 0, _, words => .ok (false, words)
  | fuel + 1, .either, words => do
    let (first, words) ← holds files fuel .both words
    if sign words.tail = .either then
      let (second, words) ← holds files fuel .either (words.drop 2)
      return (first || second, words)
    else return (first, words)
  | fuel + 1, .both, words => do
    let (first, words) ← holds files fuel .not words
    if sign words.tail = .both then
      let (second, words) ← holds files fuel .both (words.drop 2)
      return (first && second, words)
    else return (first, words)
  | fuel + 1, .not, words =>
    if sign words = .not then do
      let rest := if words.tail.isEmpty then words else words.tail
      if words.tail.isEmpty then return (true, rest)
      else
        let (inner, words) ← holds files fuel .not rest
        return (!inner, words)
    else holds files fuel .primary words
  | fuel + 1, .primary, words => do
    match sign words with
    | .nothing => return (false, words)
    | .opening =>
      let words := words.tail
      if sign words = .closing then return (false, words)
      else
        let (inner, words) ← holds files fuel .either words
        if sign words.tail = .closing then return (inner, words.tail)
        else throw "closing paren expected"
    | .unary spelled =>
      match words.tail with
      | [] => throw (spelled ++ ": argument expected")
      | operand :: rest => return (← holdsOf files spelled operand, operand :: rest)
    | _ =>
      match words with
      | left :: rest =>
        match sign rest with
        | .binary spelled =>
          match rest.tail with
          | [] => throw (spelled ++ ": argument expected")
          | right :: rest => return (← relates files spelled left right, right :: rest)
        | _ => return (!left.isEmpty, words)
      | [] => return (false, [])

/-- Whether the condition holds that words state as a whole. Three and four words are looked at
first: a sign in the middle, brackets around, or a sign that turns the rest around. -/
def decide (files : Files) : Nat → List String → Except String Bool
  | _, [] => .ok false
  | 0, _ => .ok false
  | fuel + 1, words => do
    let isRelation := words.length = 3 && words[1]?.any binarySigns.contains
    let isShort := words.length = 3 || words.length = 4
    if isRelation then state (relation words)
    else if isShort ∧ words.head? = some "(" ∧ words.getLast? = some ")" then
      state (holds files (2 * words.length + 4) .either (words.drop 1).dropLast)
    else if isShort ∧ words.head? = some "!" then return !(← decide files fuel words.tail)
    else state (holds files (4 * words.length + 4) .either words)
where
  relation (words : List String) : Except String (Bool × List String) := do
    match words with
    | [left, spelled, right] => return (← relates files spelled left right, [right])
    | _ => return (false, [])
  state (found : Except String (Bool × List String)) : Except String Bool := do
    match ← found with
    | (_, last :: _ :: _) => throw (last ++ ": unexpected operator")
    | (holds, _) => return holds

end BoardDebug.Build.Condition
