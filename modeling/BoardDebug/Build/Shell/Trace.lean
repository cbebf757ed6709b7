import BoardDebug.Build.Shell.Expand
import BoardDebug.Build.Shell.Names

namespace BoardDebug.Build.Shell

/-- A part of a word as it may have been spelled. -/
def Piece.spelled : Piece → List Char
  | .char c _ => [c]
  | .quotes => []
  | .parameter name change _ =>
    if change.isEmpty then '$' :: name else '$' :: '\x7b' :: name ++ change ++ ['\x7d']
  | .length name => '$' :: '\x7b' :: '#' :: name ++ ['\x7d']
  | .output script _ => '$' :: '(' :: script.rest ++ [')']
  | .sum expression => '$' :: '(' :: '(' :: expression ++ [')', ')']
  | .items text => '(' :: text ++ [')']
  | .channel script isRead => (if isRead then '<' else '>') :: '(' :: script.rest ++ [')']

def Piece.isQuoted : Piece → Bool
  | .char _ isQuoted => isQuoted
  | .quotes => true
  | .parameter _ _ isQuoted => isQuoted
  | .output _ isQuoted => isQuoted
  | _ => false

/-- A word as it may have been spelled: parts that are quoted stand in quotes. -/
def Word.spelled : Nat → Word → List Char
  | 0, _ => []
  | _, [] => []
  | fuel + 1, piece :: rest =>
    if piece.isQuoted then
      let inner := (piece :: rest).takeWhile (·.isQuoted)
      let isPlain := inner.all fun piece => piece matches .char _ _ | .quotes
      let quote := if isPlain then '\x27' else '"'
      quote :: inner.flatMap Piece.spelled ++ quote ::
        Word.spelled fuel ((piece :: rest).drop inner.length)
    else piece.spelled ++ Word.spelled fuel rest

/-- Whether a text means something to a shell besides itself. -/
def hasMeaning : (before : Option Char) → List Char → Bool
  | _, [] => false
  | before, c :: rest =>
    " \t\n'\"\\|&;()<>!\x7b\x7d*[?]^$\x60".toList.contains c ||
      (c == '~' && (before.isNone || before == some '=' || before == some ':')) ||
      (c == '#' && before.isNone) || hasMeaning (some c) rest

/-- A value in a trace. -/
def tracedValue (text : String) : String :=
  if hasMeaning none text.toList then quotedFor .bash text
  else if text.toList.all Tool.isPrintable then text
  else doubleQuoted text

/-- A word in a trace. -/
def tracedWord (text : String) : String :=
  if text = "" then "''" else tracedValue text

namespace Script

/-- What stands in front of a trace. -/
def traceStart (runText : Source → Script Unit) : Script String := do
  let s ← get
  let text := ((s.text? "PS4").getD "+ ").toList
  match (Reading.quotedRest .lines s.line (text.length + 1)).on s.rules (.of text) with
  | .error _ => return String.ofList text
  | .ok (word, _) =>
    set { s with options := s.options.filter (· ≠ 'x') }
    let start := Atom.text (← atoms runText maxNesting word)
    modify fun after =>
      { after with options := s.options, status := s.status, outputStatus := s.outputStatus }
    let again := if s.isBash then List.replicate s.depth (start.headD ' ') else []
    return String.ofList (again ++ start)

/-- Writes lines that show what runs, if that is asked for. -/
def trace (runText : Source → Script Unit) (numbers : List (Nat × Nat)) (lines : List String) :
    Script Unit := do
  if (← get).has 'x' then
    let start ← traceStart runText
    withNumbers numbers (warn (String.join (lines.map fun line => start ++ line ++ "\n")))

/-- The lines that show what a simple command says: the values of names, and the words. -/
def traceOf (isBash : Bool) (values : List (String × String)) (words : List String) :
    List String :=
  let said := " ".intercalate (words.map tracedWord)
  let command := words.filter (· ≠ "command")
  let assigned := if ["export", "readonly"].contains (command.headD "")
    then command.tail.filterMap assignment? else []
  if isBash then
    values.map (fun (name, value) => name ++ "=" ++ value) ++
      (if words.isEmpty then [] else said :: assigned)
  else [" ".intercalate (values.map (fun (name, value) => name ++ "=" ++ value) ++ words)]
where
  assignment? (word : String) : Option String :=
    match word.toList.span (· ≠ '=') with
    | (name, _ :: value) =>
      if isName name ∨ (name.getLast? = some '+' ∧ isName name.dropLast) then
        some (String.ofList name ++ "=" ++ tracedValue (String.ofList value))
      else none
    | _ => none

end Script

end BoardDebug.Build.Shell
