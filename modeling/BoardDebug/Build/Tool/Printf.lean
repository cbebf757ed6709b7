import BoardDebug.Build.Escapes
import BoardDebug.Build.Tool.Date
import BoardDebug.Build.Tool.Magnitude
import BoardDebug.Build.Tool.Wording

namespace BoardDebug.Build.Printf

/-- How a program that writes by a format differs from others. -/
structure Manner where
  /-- How many binary digits numbers with a fraction have. -/
  bits : Nat
  /-- Whether there are escapes for numbers of base sixteen. -/
  knowsHex : Bool
  /-- Whether a backslash in front of a single quote goes away. -/
  freesQuotes : Bool
  /-- What is wrong with a word that is no number, or one that only starts with a number. -/
  noNumber : String → String
  notAll : String → String
  outOfRange : String → String
  /-- What is wrong with a directive, from the text up to its letter and the letter. -/
  unknown : String → Char → String
  missing : String → String
  /-- The status after a directive that is not known. -/
  status : Nat
  /-- Whether directives for words in quotes and for moments are known. -/
  isRich : Bool

/-- How wide something is, or how many digits it has. -/
inductive Size where
  | none
  | given (n : Nat)
  /-- An argument says it. -/
  | asked

/-- How one argument is written. -/
structure Directive where
  flags : List Char
  width : Size
  precision : Size
  kind : Char
  /-- The text from the percent sign to the letter. -/
  spelled : List Char
  /-- A format within brackets. -/
  inner : List Char := []

def size (text : List Char) : Size × List Char :=
  match text with
  | '*' :: rest => (.asked, rest)
  | text =>
    let (digits, rest) := text.span Char.isDigit
    (((Text.digits? 10 digits).map Size.given).getD .none, rest)

/-- The directive behind a percent sign. Without a letter it has no kind. -/
def directive (isRich : Bool) (text : List Char) : Option Directive × List Char :=
  let (flags, rest) := text.span ['-', '+', ' ', '0', '#'].contains
  let (width, rest) := size rest
  let (precision, rest) := match rest with
    | '.' :: rest =>
      match size rest with
      | (.none, rest) => (Size.given 0, rest)
      | found => found
    | rest => (.none, rest)
  let (inner, rest) := match isRich, rest with
    | true, '(' :: more =>
      let inner := more.takeWhile (· ≠ ')')
      if (more.drop inner.length).take 2 = [')', 'T'] then
        (inner, more.drop (inner.length + 1))
      else ([], rest)
    | _, rest => ([], rest)
  let rest := rest.dropWhile fun c => isRich ∧ ['l', 'h', 'j', 'z', 't', 'L'].contains c
  match rest with
  | kind :: rest =>
    let spelled := '%' :: text.take (text.length - rest.length)
    (some ⟨flags, width, precision, kind, spelled, inner⟩, rest)
  | [] => (none, [])

/-- Fills up to a width. -/
def fill (flags : List Char) (width : Nat) (text : List Char) : List Char :=
  let blanks := List.replicate (width - text.length) ' '
  if flags.contains '-' then text ++ blanks else blanks ++ text

/-- A sign and digits with zeros between them, as far as a width asks for them. -/
def withZeros (flags : List Char) (width : Nat) (sign digits : List Char) : List Char :=
  if flags.contains '0' ∧ !flags.contains '-' then
    sign ++ List.replicate (width - sign.length - digits.length) '0' ++ digits
  else fill flags width (sign ++ digits)

def signOf (flags : List Char) (isNegative : Bool) : List Char :=
  if isNegative then ['-']
  else if flags.contains '+' then ['+']
  else if flags.contains ' ' then [' ']
  else []

/-- A whole number. -/
def integer (flags : List Char) (width : Nat) (precision : Option Nat) (kind : Char) (n : Int) :
    List Char :=
  let isSigned := kind == 'd' || kind == 'i'
  let magnitude := if n < 0 ∧ !isSigned then (n + 0x10000000000000000).toNat else n.natAbs
  let digits := match kind with
    | 'o' => Nat.toDigits 8 magnitude
    | 'x' => Nat.toDigits 16 magnitude
    | 'X' => (Nat.toDigits 16 magnitude).map Char.toUpper
    | _ => Nat.toDigits 10 magnitude
  let digits := if magnitude = 0 ∧ precision = some 0 then [] else digits
  let zeros := List.replicate (precision.getD 0 - digits.length) '0'
  let digits := zeros ++ digits
  let marks := flags.contains '#' && !isSigned
  let digits := if marks ∧ kind = 'o' ∧ digits.head? ≠ some '0' then '0' :: digits else digits
  let sign := if isSigned then signOf flags (n < 0)
    else if marks ∧ (kind = 'x' ∨ kind = 'X') ∧ magnitude ≠ 0 then ['0', kind]
    else []
  if precision.isSome then fill flags width (sign ++ digits)
  else withZeros flags width sign digits

/-- A number that may have a fraction. -/
def real (flags : List Char) (width : Nat) (precision : Option Nat) (kind : Char) (n : Numeral) :
    List Char :=
  let isLarge := kind.isUpper
  let places := precision.getD 6
  let marks := flags.contains '#'
  let cased (text : String) := if isLarge then text.toUpper.toList else text.toList
  match n with
  | .undefined => fill flags width (signOf flags false ++ cased "nan")
  | .infinite isNegative => fill flags width (signOf flags isNegative ++ cased "inf")
  | .finite isNegative m =>
    let digits := match kind.toLower with
      | 'f' => m.fixed places marks
      | 'e' => m.scientific kind places marks
      | _ => m.general (if isLarge then 'E' else 'e') places marks
    withZeros flags width (signOf flags isNegative) digits

/-- The whole number at the front of a text, in the way of its base, and the rest of the text; none
if there is no digit. -/
def numberAt (text : List Char) : Option Int × List Char :=
  let text := text.dropWhile fun c => c = ' ' ∨ ('\t' ≤ c ∧ c ≤ '\r')
  let unsigned := Text.dropSign text
  let isHex (c : Char) : Bool := (Text.digit? 16 c).isSome
  let (base, digits) := match unsigned with
    | '0' :: x :: c :: rest =>
      if (x = 'x' ∨ x = 'X') ∧ isHex c then (16, c :: rest) else (8, unsigned)
    | '0' :: _ => (8, unsigned)
    | _ => (10, unsigned)
  let (digits, rest) := digits.span fun c => (Text.digit? base c).isSome
  match Text.digits? base digits with
  | some n =>
    let value : Int := if text.head? = some '-' then -n else n
    (some value, rest)
  | none => (none, text)

/-- The number that an argument spells, and what is wrong with it. -/
def numberOf (manner : Manner) (isSigned : Bool) (argument : String) : Int × Option String :=
  match argument.toList with
  | [] => (0, if manner.isRich then some (manner.noNumber "") else none)
  | '"' :: quoted => ((quoted.headD '\x00').toNat, none)
  | '\x27' :: quoted => ((quoted.headD '\x00').toNat, none)
  | text =>
    match numberAt text with
    | (none, _) => (0, some (manner.noNumber argument))
    | (some n, rest) =>
      let low : Int := if isSigned then -0x8000000000000000 else -0xffffffffffffffff
      let high : Int := if isSigned then 0x7fffffffffffffff else 0xffffffffffffffff
      let kept := if n < low ∧ !isSigned then high else max low (min high n)
      let kept := if kept < 0 ∧ !isSigned then kept + 0x10000000000000000 else kept
      if !rest.isEmpty then (kept, some (manner.notAll argument))
      else if n < low ∨ high < n then (kept, some (manner.outOfRange argument))
      else (kept, none)

/-- The number with a fraction that an argument spells. -/
def realOf (manner : Manner) (argument : String) : Numeral × Option String :=
  match argument.toList with
  | [] => (.finite false ⟨0, 0⟩, if manner.isRich then some (manner.noNumber "") else none)
  | '"' :: quoted => (.finite false ⟨(quoted.headD '\x00').toNat, 0⟩, none)
  | '\x27' :: quoted => (.finite false ⟨(quoted.headD '\x00').toNat, 0⟩, none)
  | text =>
    match Numeral.read? manner.bits text with
    | none => (.finite false ⟨0, 0⟩, some (manner.noNumber argument))
    | some (n, rest) => (n, if rest.isEmpty then none else some (manner.notAll argument))

/-- A word as a shell would read it, quoted if it needs to be. -/
def requoted (word : String) : List Char :=
  if word = "" then ['\x27', '\x27']
  else if word.toList.all Tool.isPrintable then
    word.toList.flatMap fun c =>
      if c.isAlphanum ∨ "@%_+=:,./-".toList.contains c then [c] else ['\\', c]
  else
    let inner := word.toList.flatMap fun c =>
      if c = '\\' ∨ c = '\x27' then ['\\', c]
      else if c = '\x1b' then ['\\', 'E']
      else if Tool.isPrintable c then [c]
      else '\\' :: Tool.spelled c
    ['$', '\x27'] ++ inner ++ ['\x27']

/-- What one pass over a format has come to. -/
structure Pass where
  written : List (List Char) := []
  complaints : List String := []
  status : Nat := 0
  arguments : List String
  /-- Whether an argument was asked for. -/
  asked : Bool := false
  isOver : Bool := false

namespace Pass

def print (pass : Pass) (text : List Char) : Pass :=
  { pass with written := text :: pass.written }

def complain (pass : Pass) (fault : Option String) : Pass :=
  match fault with
  | some text => { pass with complaints := text :: pass.complaints, status := 1 }
  | none => pass

/-- Takes an argument, which is empty if there is none. -/
def take (pass : Pass) : Option String × Pass :=
  (pass.arguments.head?, { pass with arguments := pass.arguments.tail, asked := true })

/-- Takes the number that a size asks for. -/
def size (manner : Manner) (pass : Pass) : Size → Option Int × Pass
  | .none => (none, pass)
  | .given n => (some n, pass)
  | .asked =>
    let (argument, pass) := pass.take
    match argument with
    | none => (some 0, pass)
    | some text =>
      let (n, fault) := numberOf manner true text
      (some n, pass.complain fault)

/-- Writes an argument as a directive says. -/
def direct (manner : Manner) (now : Int) (pass : Pass) (d : Directive) : Pass :=
  let (width, pass) := pass.size manner d.width
  let (precision, pass) := pass.size manner d.precision
  let flags := if width.any (· < 0) then '-' :: d.flags else d.flags
  let width := (width.getD 0).natAbs
  let precision := (precision.filter (0 ≤ ·)).map Int.toNat
  let cut (text : List Char) := (precision.map text.take).getD text
  let (argument, after) := pass.take
  let text := (argument.getD "").toList
  match d.kind with
  | 's' => after.print (fill flags width (cut text))
  | 'c' => after.print (fill flags width [text.headD '\x00'])
  | 'b' =>
    let (text, isOver) := Escapes.text manner.knowsHex (text.length + 1) text
    { after.print (fill flags width (cut text)) with isOver }
  | kind =>
    if kind = 'q' ∧ manner.isRich then
      after.print (fill flags width (requoted (argument.getD "")))
    else if kind = 'T' ∧ manner.isRich then
      let time := match (argument.getD "-1").toInt? with
        | some n => if n < 0 then now else n * Date.second
        | none => now
      let format := if d.inner.isEmpty then "%T".toList else d.inner
      after.print (fill flags width (Date.write time format).toList)
    else if ['d', 'i', 'o', 'u', 'x', 'X'].contains kind then
      let (n, fault) := match argument with
        | some word => numberOf manner (kind = 'd' ∨ kind = 'i') word
        | none => (0, none)
      (after.complain fault).print (integer flags width precision kind n)
    else if ['f', 'F', 'e', 'E', 'g', 'G'].contains kind then
      let (n, fault) := match argument with
        | some word => realOf manner word
        | none => (.finite false ⟨0, 0⟩, none)
      (after.complain fault).print (real flags width precision kind n)
    else
      { pass.complain (some (manner.unknown (String.ofList d.spelled) kind)) with
        status := manner.status
        isOver := true }

end Pass

/-- Goes over a format once. -/
def once (manner : Manner) (now : Int) : Nat → List Char → Pass → Pass
  | 0, _, pass => pass
  | _, [], pass => pass
  | fuel + 1, '\\' :: c :: rest, pass =>
    if (Escapes.octalDigit? c).isSome then
      let (byte, rest) := Escapes.octal (c :: rest)
      once manner now fuel rest (pass.print [byte])
    else if c = '"' ∨ (c = '\x27' ∧ manner.freesQuotes) then
      once manner now fuel rest (pass.print [c])
    else if c = 'c' ∧ manner.knowsHex then { pass with isOver := true }
    else
      match if manner.knowsHex then Escapes.hex? c rest else none with
      | some (chars, rest) => once manner now fuel rest (pass.print chars)
      | none =>
        once manner now fuel rest (pass.print (((Escapes.control? c).map ([·])).getD ['\\', c]))
  | fuel + 1, '%' :: '%' :: rest, pass => once manner now fuel rest (pass.print ['%'])
  | fuel + 1, '%' :: text, pass =>
    match directive manner.isRich text with
    | (none, _) =>
      { pass.complain (some (manner.missing (String.ofList ('%' :: text)))) with
        status := manner.status
        isOver := true }
    | (some d, rest) =>
      let pass := pass.direct manner now d
      if pass.isOver then pass else once manner now fuel rest pass
  | fuel + 1, c :: rest, pass => once manner now fuel rest (pass.print [c])

/-- What is written for arguments as a format says, again and again until there are none left. -/
def repeated (manner : Manner) (now : Int) (format : List Char) : Nat → Pass → Pass
  | 0, pass => pass
  | fuel + 1, pass =>
    let pass := once manner now (format.length + 1) format { pass with asked := false }
    if pass.isOver ∨ !pass.asked ∨ pass.arguments.isEmpty then pass
    else repeated manner now format fuel pass

def run (manner : Manner) (now : Int) (format : String) (arguments : List String) : Pass :=
  repeated manner now format.toList (arguments.length + 1) { arguments }

/-- What was written, in order. -/
def Pass.text (pass : Pass) : List Char :=
  pass.written.reverse.flatten

/-- How a program of this kind does it. -/
def program : Manner where
  bits := 64
  knowsHex := true
  freesQuotes := false
  noNumber word := "printf: " ++ Tool.quoted word ++ ": expected a numeric value"
  notAll word := "printf: " ++ Tool.quoted word ++ ": value not completely converted"
  outOfRange word := "printf: " ++ Tool.quoted word ++ ": Numerical result out of range"
  unknown spelled _ := "printf: " ++ spelled ++ ": invalid conversion specification"
  missing spelled := "printf: " ++ spelled ++ ": invalid conversion specification"
  status := 1
  isRich := false

end Printf

/-- Writes arguments as a format says. -/
def Tool.printf (arguments : List String) : Work Unit := do
  let arguments := if arguments.head? = some "--" then arguments.tail else arguments
  match arguments with
  | [] => misuse "printf" "missing operand" 1
  | format :: arguments =>
    let pass := Printf.run Printf.program (← Work.files).time format arguments
    pass.complaints.reverse.forM Work.complain
    Work.print (Octets.toBytes pass.text)
    if !pass.asked ∧ !arguments.isEmpty ∧ !pass.isOver then
      Work.complain ("printf: warning: ignoring excess arguments, starting with " ++
        quoted (arguments.headD ""))
    Work.setStatus pass.status

end BoardDebug.Build
