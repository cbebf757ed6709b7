import BoardDebug.Build.Tool.Condition
import BoardDebug.Build.Tool.Wording

namespace BoardDebug.Build.Judgement

/-- The words for what can be wrong with a condition. -/
structure Wording where
  noInteger : String → String
  noUnary : String → String
  noBinary : String → String
  /-- Nothing follows the last of some words, though it should. -/
  ended : List String → String
  /-- Something follows that should not. -/
  extra : String → String
  /-- A bracket is not closed in front of a word, or of the end. -/
  unclosed : Option String → String
  /-- More signs than usual. -/
  unarySigns : List String
  binarySigns : List String

/-- What a condition is judged by. -/
structure Judge where
  files : Files
  wording : Wording
  /-- Whether a parameter or an option is set; told apart by the sign. -/
  isSet : (sign name : String) → Bool

namespace Judge

def isUnary (judge : Judge) (word : String) : Bool :=
  ["-b", "-c", "-d", "-e", "-f", "-g", "-h", "-k", "-L", "-n", "-p", "-r", "-s", "-S", "-t", "-u",
    "-w", "-x", "-z", "-G", "-O", "-N"].contains word || judge.wording.unarySigns.contains word

def isBinary (judge : Judge) (word : String) : Bool :=
  ["=", "!=", "==", "-eq", "-ne", "-lt", "-le", "-gt", "-ge", "-nt", "-ot", "-ef"].contains word ||
    judge.wording.binarySigns.contains word

def unary (judge : Judge) (sign operand : String) : Except String Bool :=
  match sign with
  | "-z" => .ok operand.isEmpty
  | "-n" => .ok (!operand.isEmpty)
  | "-v" => .ok (judge.isSet sign operand)
  | "-o" => .ok (judge.isSet sign operand)
  | "-t" =>
    if (Condition.integer? operand).isSome ∨ judge.wording.unarySigns.contains "-v" then .ok false
    else .error (judge.wording.noInteger operand)
  | sign => .ok (Condition.holdsOfFile judge.files sign operand)

def integer (judge : Judge) (word : String) : Except String Int :=
  match Condition.integer? word with
  | some n => .ok n
  | none => .error (judge.wording.noInteger word)

def binary (judge : Judge) (left sign right : String) : Except String Bool := do
  let exists? (path : String) : Bool := (judge.files.find path).isOk
  match sign with
  | "=" => return left = right
  | "==" => return left = right
  | "!=" => return left ≠ right
  | "<" => return left < right
  | ">" => return right < left
  | "-nt" =>
    return Condition.isNewer judge.files left right || exists? left && !exists? right
  | "-ot" =>
    return Condition.isNewer judge.files right left || exists? right && !exists? left
  | "-ef" => return Condition.isSameFile judge.files left right
  | sign => return Condition.compares sign (← judge.integer left) (← judge.integer right)

/-- How tightly the signs bind that may join conditions. -/
inductive Level where
  | either
  | both
  | term

/-- Whether a condition of any length holds, and the words behind it. -/
def long (judge : Judge) (all : List String) : Nat → Level → List String →
    Except String (Bool × List String)
  | 0, _, words => .ok (false, words)
  | fuel + 1, .either, words => do
    let (first, rest) ← judge.long all fuel .both words
    match rest with
    | "-o" :: rest =>
      let (second, rest) ← judge.long all fuel .either rest
      return (first || second, rest)
    | rest => return (first, rest)
  | fuel + 1, .both, words => do
    let (first, rest) ← judge.long all fuel .term words
    match rest with
    | "-a" :: rest =>
      let (second, rest) ← judge.long all fuel .both rest
      return (first && second, rest)
    | rest => return (first, rest)
  | fuel + 1, .term, words => do
    match words with
    | [] => throw (judge.wording.ended all)
    | "!" :: rest =>
      let (inner, rest) ← judge.long all fuel .term rest
      return (!inner, rest)
    | "(" :: rest =>
      let (inner, rest) ← judge.long all fuel .either rest
      match rest with
      | ")" :: rest => return (inner, rest)
      | other => throw (judge.wording.unclosed other.head?)
    | left :: sign :: right :: rest =>
      if judge.isBinary sign then return (← judge.binary left sign right, rest)
      else if judge.isUnary left then return (← judge.unary left sign, right :: rest)
      else return (!left.isEmpty, sign :: right :: rest)
    | [sign, operand] =>
      if judge.isUnary sign then return (← judge.unary sign operand, [])
      else return (!sign.isEmpty, [operand])
    | [word] => return (!word.isEmpty, [])

def two (judge : Judge) (a b : String) : Except String Bool :=
  if a = "!" then .ok b.isEmpty
  else if judge.isUnary a then judge.unary a b
  else if a.length = 2 ∧ a.startsWith "-" then .error (judge.wording.noUnary a)
  else .error (judge.wording.ended [a, b])

def three (judge : Judge) (a b c : String) : Except String Bool := do
  if judge.isBinary b then judge.binary a b c
  else if b = "-a" then return !a.isEmpty && !c.isEmpty
  else if b = "-o" then return !a.isEmpty || !c.isEmpty
  else if a = "!" then return !(← judge.two b c)
  else if a = "(" ∧ c = ")" then return !b.isEmpty
  else throw (judge.wording.noBinary b)

/-- Whether the condition holds that words state. How they are read depends on how many they
are. -/
def decide (judge : Judge) (words : List String) : Except String Bool := do
  match words with
  | [] => return false
  | [a] => return !a.isEmpty
  | [a, b] => judge.two a b
  | [a, b, c] => judge.three a b c
  | ["!", a, b, c] => return !(← judge.three a b c)
  | ["(", a, b, ")"] => judge.two a b
  | words =>
    let (holds, rest) ← judge.long words (4 * words.length + 4) .either words
    match rest with
    | [] => return holds
    | extra :: _ => throw (judge.wording.extra extra)

end Judge

/-- The words of the tool. -/
def toolWording : Wording where
  noInteger word := "invalid integer " ++ Tool.quoted word
  noUnary word := Tool.quoted word ++ ": unary operator expected"
  noBinary word := Tool.quoted word ++ ": binary operator expected"
  ended words := "missing argument after " ++ Tool.quoted (words.getLastD "")
  extra word := "extra argument " ++ Tool.quoted word
  unclosed
    | some word => "')' expected, found " ++ word
    | none => "')' expected"
  unarySigns := []
  binarySigns := []

end Judgement

/-- Decides whether a condition holds. -/
def Tool.test (name : String) (arguments : List String) : Work Unit := do
  let words ← if name = "[" then
      if arguments.getLast? = some "]" then pure arguments.dropLast
      else do
        Work.complain "[: missing ']'"
        Work.quit 2
    else pure arguments
  let judge : Judgement.Judge := ⟨← Work.files, Judgement.toolWording, fun _ _ => false⟩
  match judge.decide words with
  | .ok holds => Work.setStatus (if holds then 0 else 1)
  | .error text =>
    Work.complain (name ++ ": " ++ text)
    Work.setStatus 2

end BoardDebug.Build
