import BoardDebug.Build.Shell.Parameter
import BoardDebug.Build.Tool.Condition
import BoardDebug.Build.Tool.Printf
import BoardDebug.Build.Tool.Test

namespace BoardDebug.Build.Shell.Script

/-- Runs what a tool does, on the flows of the shell. A tool that `collects` writes its complaints
first. The result says whether all could be written. -/
def tool (collects : Bool) (act : Finished → Finished) : Script (ExitStatus × Bool) := do
  let s ← get
  let input ← available 0
  let flow := look 0 s.numbers
  let channels := s.numbers.filterMap fun (n, flow) =>
    if n < 3 then none else some ("/dev/fd/" ++ toString n, s.machine.available flow)
  let start := Finished.start s.machine.files input (flow.any s.machine.isFile)
  let fault : Option FileFault := match flow with
    | none => some (.described "Bad file descriptor")
    | some flow => if s.machine.isDirectory flow then some .isDirectory else none
  let done := act { start with channels, fault }
  consume 0 (input.length - done.input.length)
  modify fun s => { s with machine.files := done.files }
  let (errors, others) := done.writes.partition (·.1)
  let isWritten ← (if collects then errors ++ others else done.writes).foldlM
    (fun isWritten (isError, bytes) => do
      if ← write (if isError then 2 else 1) bytes then return isWritten else return false)
    true
  checkTime
  return (done.status, isWritten)

/-- Writes the result of a part of the shell. -/
def say (name : String) (bytes : Bytes) : Script Unit := do
  if bytes.isEmpty then setStatus 0
  else if ← write 1 bytes then setStatus 0
  else if (← get).isBash then note "write error: Bad file descriptor" 1
  else note (name ++ ": I/O error") 1

/-- How words are written by a shell that takes options for that: whether a line ends, and whether
there are escapes. -/
def echoManner (ends escapes : Bool) : List String → Bool × Bool × List String
  | [] => (ends, escapes, [])
  | word :: rest =>
    match word.toList with
    | '-' :: c :: letters =>
      if (c :: letters).all ['n', 'e', 'E'].contains then
        let last := (c :: letters).reverse.find? (· ≠ 'n')
        echoManner (ends && !(c :: letters).contains 'n') ((last.map (· == 'e')).getD escapes) rest
      else (ends, escapes, word :: rest)
    | _ => (ends, escapes, word :: rest)

/-- A text with the escapes that a program writes words with. Digits of base eight need a zero in
front of them. -/
def echoEscapes : Nat → List Char → List Char × Bool
  | 0, _ => ([], false)
  | _, [] => ([], false)
  | fuel + 1, '\\' :: c :: rest =>
    let plain (chars rest : List Char) :=
      let (text, isOver) := echoEscapes fuel rest
      (chars ++ text, isOver)
    if c.isDigit ∧ c ≠ '0' then plain ['\\', c] rest
    else if c = 'E' then plain ['\x1b'] rest
    else
      match c, Escapes.hex? c rest with
      | 'c', _ => ([], true)
      | '0', _ =>
        let (byte, rest) := Escapes.octal rest
        plain [byte] rest
      | _, some (chars, rest) => plain chars rest
      | _, none => plain (((Escapes.control? c).map ([·])).getD ['\\', c]) rest
  | fuel + 1, c :: rest =>
    let (text, isOver) := echoEscapes fuel rest
    (c :: text, isOver)

/-- Writes words. -/
def echo (words : List String) : Script Unit := do
  let s ← get
  let isBash := s.isBash
  let (ends, escapes, words) :=
    if isBash then echoManner true (s.features.contains "xpg_echo") words
    else
      match words with
      | "-n" :: words => (false, true, words)
      | words => (true, true, words)
  let text := (" ".intercalate words).toList
  let (chars, isOver) :=
    if !escapes then (text, false)
    else if isBash then echoEscapes (text.length + 1) text
    else Escapes.text false (text.length + 1) text
  say "echo" (Octets.toBytes (if isOver ∨ !ends then chars else chars ++ ['\n']))

/-- How a shell writes by a format. -/
def printfManner : Dialect → Printf.Manner
  | .sh =>
    { bits := 53
      knowsHex := false
      freesQuotes := true
      noNumber word := word ++ ": expected numeric value"
      notAll word := word ++ ": not completely converted"
      outOfRange word := word ++ ": Numerical result out of range"
      unknown spelled _ := spelled ++ ": invalid directive"
      missing _ := "missing format character"
      status := 2
      isRich := false }
  | .bash =>
    { bits := 64
      knowsHex := true
      freesQuotes := true
      noNumber word := word ++ ": invalid number"
      notAll word := word ++ ": invalid number"
      outOfRange word := "warning: " ++ word ++ ": Numerical result out of range"
      unknown _ kind := "\x60" ++ String.singleton kind ++ "': invalid format character"
      missing spelled := "\x60" ++ spelled ++ "': missing format character"
      status := 1
      isRich := true }

/-- Writes arguments as a format says, or lets a name stand for the text. -/
def printf (words : List String) : Script Unit := do
  let s ← get
  let (name?, words) := match words with
    | "-v" :: name :: rest => if s.isBash then (some name, rest) else (none, words)
    | words => (none, words)
  let hasEnd := words.head? == some "--"
  match if hasEnd then words.tail else words with
  | [] =>
    if s.isBash then
      warn "printf: usage: printf [-v var] format [arguments]\n"
      setStatus 2
    else refuse "usage: printf format [arg ...]" 2
  | format :: arguments =>
    if format.startsWith "-" ∧ 1 < format.length ∧ !s.isBash ∧ !hasEnd then
      refuse ("Illegal option -" ++ ((format.drop 1).take 1).toString) 2
    else
      let pass := Printf.run (printfManner s.dialect) s.machine.files.time format arguments
      pass.complaints.reverse.forM complain
      match name? with
      | some name => assign name (String.ofList pass.text)
      | none =>
        if !pass.text.isEmpty then
          if !(← write 1 (Octets.toBytes pass.text)) then
            note (if s.isBash then "write error: Bad file descriptor" else "printf: I/O error") 1
      setStatus pass.status

/-- The words of a shell for what is wrong with a condition. -/
def testWording : Judgement.Wording where
  noInteger word := word ++ ": integer expression expected"
  noUnary word := word ++ ": unary operator expected"
  noBinary word := word ++ ": binary operator expected"
  ended _ := "argument expected"
  extra _ := "too many arguments"
  unclosed
    | some word => "\x60)' expected, found " ++ word
    | none => "\x60)' expected"
  unarySigns := ["-a", "-v", "-o", "-R"]
  binarySigns := ["<", ">"]

/-- Whether a parameter or an option is on that a condition asks for. -/
def isSetOrOn (s : State) (isOn : String → Bool) (sign name : String) : Bool :=
  if sign = "-o" then isOn name
  else
    let (base, rest) := name.toList.span (· ≠ '[')
    let value := look (String.ofList base) s.bindings
    match rest with
    | '[' :: inner =>
      let key := String.ofList inner.dropLast
      match value, key.toInt? with
      | some (.table items), _ => (look key items).isSome
      | some value, some number => (itemOf value number).isSome
      | _, _ => false
    | _ => (s.value? base).isSome

def test (isOn : String → Bool) (words : List String) : Script Unit := do
  let s ← get
  let answer :=
    if s.isBash then
      Judgement.Judge.decide ⟨s.machine.files, testWording, isSetOrOn s isOn⟩ words
    else Condition.decide s.machine.files (words.length + 1) words
  match answer with
  | .ok holds => setStatus (if holds then 0 else 1)
  | .error text => refuse text 2

end BoardDebug.Build.Shell.Script
