import BoardDebug.Build.Shell.Fields
import BoardDebug.Build.Shell.State

namespace BoardDebug.Build.Shell.Script

/-- How a line is read. -/
structure LineManner where
  /-- Whether backslashes stand for themselves. -/
  isRaw : Bool := false
  ending : Char := '\n'
  /-- How many characters are read, and whether the end of the line ends them. -/
  most : Option Nat := none
  isExact : Bool := false

/-- The next line that can be read, without its end, and whether it has one. Unless it is raw, a
backslash in front of a line end joins the lines, and one in front of another character keeps that
from being a separator. -/
def inputLine (number : Nat) (manner : LineManner) : Script (List (Char × Bool) × Bool) := do
  let text := Octets.ofBytes (← available number)
  let (line, rest, isEnded) := go text [] 0
  consume number (text.length - rest.length)
  return (line.filter fun (c, _) => c ≠ '\x00', isEnded)
where
  go : List Char → List (Char × Bool) → Nat → List (Char × Bool) × List Char × Bool
    | [], line, _ => (line.reverse, [], false)
    | '\\' :: c :: rest, line, count =>
      if manner.most.any (· ≤ count) then (line.reverse, '\\' :: c :: rest, true)
      else if manner.isRaw then go (c :: rest) (('\\', false) :: line) (count + 1)
      else if c = '\n' then go rest line count
      else go rest ((c, true) :: line) (count + 1)
    | c :: rest, line, count =>
      if manner.most.any (· ≤ count) then (line.reverse, c :: rest, true)
      else if c = manner.ending ∧ !manner.isExact then (line.reverse, rest, true)
      else go rest ((c, false) :: line) (count + 1)

/-- The first of some characters up to a separator, and what follows that. -/
def firstField (separators : List Char) (line : List (Char × Bool)) :
    List (Char × Bool) × List (Char × Bool) :=
  let isMark (c : Char × Bool) : Bool := !c.2 && separators.contains c.1
  let isBlank (c : Char × Bool) : Bool := isMark c && Fields.isBlank c.1
  let (field, rest) := line.span (!isMark ·)
  match rest.dropWhile isBlank with
  | c :: more => (field, if isMark c then more.dropWhile isBlank else c :: more)
  | [] => (field, [])

/-- All that is left of a line, without the separator at its end if it is a single field. -/
def lastField (separators : List Char) (line : List (Char × Bool)) : List (Char × Bool) :=
  let isMark (c : Char × Bool) : Bool := !c.2 && separators.contains c.1
  let isBlank (c : Char × Bool) : Bool := isMark c && Fields.isBlank c.1
  match line.reverse.dropWhile isBlank with
  | [] => []
  | c :: before =>
    let inner := before.dropWhile isBlank
    if isMark c ∧ !inner.any isMark then inner.reverse else (c :: before).reverse

def textOfLine (line : List (Char × Bool)) : String :=
  String.ofList (line.map (·.1))

/-- Lets names stand for the fields of a line; the last one gets all that is left. -/
def share (separators : List Char) : List String → List (Char × Bool) → Script Unit
  | [], _ => return ()
  | [name], line => assign name (textOfLine (lastField separators line))
  | name :: names, line => do
    let (field, rest) := firstField separators line
    assign name (textOfLine field)
    share separators names rest

/-- All fields of a line. -/
def lineFields (separators : List Char) : Nat → List (Char × Bool) → List String
  | 0, _ => []
  | _, [] => []
  | fuel + 1, line =>
    let (field, rest) := firstField separators line
    textOfLine field :: lineFields separators fuel rest

/-- What is asked of a reader of lines. -/
structure LineRequest where
  manner : LineManner := {}
  number : Nat := 0
  /-- The list that gets the fields. -/
  list : Option String := none
  names : List String := []

/-- What is wrong with the words that ask for lines. -/
inductive LineFault where
  | unknown (letter : Char)
  | wrong (text : String)

/-- Whether a text spells a number of seconds, which may have a fraction. -/
def isDuration (text : String) : Bool :=
  let (whole, rest) := text.toList.span Char.isDigit
  let fraction := if rest.head? = some '.' then rest.tail else rest
  fraction.all Char.isDigit && !(whole.isEmpty && fraction.isEmpty) &&
    (rest.isEmpty || rest.head? == some '.')

/-- What words ask of a reader of lines. -/
def lineRequest (isBash : Bool) : Nat → List String → LineRequest → Except LineFault LineRequest
  | 0, _, request => .ok request
  | _, [], request => .ok request
  | fuel + 1, word :: rest, request =>
    match word.toList with
    | ['-', '-'] => .ok { request with names := rest }
    | '-' :: c :: letters =>
      let goOn (request : LineRequest) : Except LineFault LineRequest :=
        if letters.isEmpty then lineRequest isBash fuel rest request
        else lineRequest isBash fuel (String.ofList ('-' :: letters) :: rest) request
      let (value, behind) := if letters.isEmpty then (rest.headD "", rest.tail)
        else (String.ofList letters, rest)
      let given (act : LineRequest → LineRequest) : Except LineFault LineRequest :=
        lineRequest isBash fuel behind (act request)
      let counted (what : String) (act : Nat → LineRequest → LineRequest) :
          Except LineFault LineRequest :=
        match value.toNat? with
        | some n => given (act n)
        | none => .error (.wrong (value ++ ": invalid " ++ what))
      match c, isBash with
      | 'r', _ => goOn { request with manner.isRaw := true }
      | 'p', _ => given id
      | 's', true => goOn request
      | 'e', true => goOn request
      | 't', true =>
        if isDuration value then given id
        else .error (.wrong (value ++ ": invalid timeout specification"))
      | 'u', true => counted "file descriptor specification" fun n r => { r with number := n }
      | 'd', true => given fun r => { r with manner.ending := value.toList.headD '\x00' }
      | 'n', true => counted "number" fun n r => { r with manner.most := some n }
      | 'N', true => counted "number" fun n r =>
          { r with manner := { r.manner with most := some n, isExact := true } }
      | 'a', true => given fun r => { r with list := some value }
      | c, _ => .error (.unknown c)
    | _ => .ok { request with names := word :: rest }

/-- Reads a line and splits it. -/
def read (words : List String) : Script Unit := do
  let s ← get
  let letters := words.foldl (fun count word => count + word.length) 0
  match lineRequest s.isBash (words.length + letters + 1) words {} with
  | .error (.wrong text) => note text 1
  | .error (.unknown c) =>
    if s.isBash then
      note ("-" ++ String.singleton c ++ ": invalid option") 2
      warn ("read: usage: read [-ers] [-a array] [-d delim] [-i text] [-n nchars] [-N nchars] " ++
        "[-p prompt] [-t timeout] [-u fd] [name ...]\n")
    else refuse ("Illegal option -" ++ String.singleton c) 2
  | .ok request =>
    if request.names.isEmpty ∧ !s.isBash then refuse "arg count" 2
    else
      match request.names.find? fun name => !isName name.toList with
      | some name =>
        if s.isBash then note ("\x60" ++ name ++ "': not a valid identifier") 1
        else refuse (name ++ ": bad variable name") 2
      | none =>
        if s.isBash ∧ (← flow? request.number).isNone then
          let number := toString request.number
          let what :=
            if request.number = 0 then "read error: 0" else number ++ ": invalid file descriptor"
          note (what ++ ": Bad file descriptor") 1
          return ()
        let (line, isEnded) ← inputLine request.number request.manner
        let separators ← separators
        let isBlank (c : Char × Bool) : Bool :=
          !c.2 && separators.contains c.1 && Fields.isBlank c.1
        let line' := line.dropWhile isBlank
        match request.list, request.names with
        | some name, _ =>
          let fields := lineFields separators (line'.length + 1) line'
          setValue name (.list ((List.range fields.length).zip fields))
        | none, [] => assign "REPLY" (textOfLine line)
        | none, names =>
          if request.manner.isExact then assign (names.headD "") (textOfLine line)
          else share separators names line'
        setStatus (if isEnded then 0 else 1)

end BoardDebug.Build.Shell.Script
