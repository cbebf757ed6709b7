import BoardDebug.Build.Escapes
import BoardDebug.Build.Shell.Record.Value

namespace BoardDebug.Build.Shell.Record

inductive Token where
  | number (x : Float) (spelled : String)
  | text (s : String)
  | regex (spelled : String)
  | name (s : String)
  /-- A name with a bracket behind it. -/
  | call (s : String)
  | builtin (s : String)
  | word (s : String)
  | sign (s : String)
  | newline
  | stop
  /-- What cannot be read, with the complaint about it. -/
  | wrong (complaint : String)
deriving Inhabited

namespace Token

/-- How a token stands in a complaint. -/
def shown : Token → String
  | number _ spelled => spelled
  | text s => s
  | regex spelled => spelled
  | name s => s
  | call s => s
  | builtin s => s
  | word s => s
  | sign s => s
  | newline => "end of line"
  | stop => "end of line"
  | wrong complaint => complaint

/-- Whether a slash behind a token divides. -/
def endsOperand : Token → Bool
  | number _ _ => true
  | text _ => true
  | regex _ => true
  | name _ => true
  | builtin s => s == "length"
  | word s => s == "getline"
  | sign s => [")", "]", "++", "--"].contains s
  | _ => false

end Token

namespace Scan

def words : List String :=
  ["BEGIN", "END", "function", "getline", "if", "else", "while", "for", "do", "in", "next",
    "nextfile", "exit", "return", "break", "continue", "delete", "print", "printf"]

def builtins : List String :=
  ["length", "substr", "index", "split", "match", "sub", "gsub", "sprintf", "sin", "cos", "atan2",
    "exp", "log", "sqrt", "int", "rand", "srand", "tolower", "toupper", "system", "close",
    "fflush", "mktime", "strftime", "systime"]

/-- All signs, longer ones first. -/
def signs : List String :=
  ["+=", "-=", "*=", "/=", "%=", "^=", "++", "--", "<=", "==", "!=", ">=", "&&", "||", ">>", "!~",
    "\x7b", "\x7d", "(", ")", "[", "]", ";", ",", "+", "-", "*", "/", "%", "^", "!", "<", ">",
    "|", "?", ":", "~", "$", "="]

/-- The number that digits spell at the front of a text: how they are spelled, and the rest. -/
def decimal (text : List Char) : List Char × List Char :=
  let (whole, rest) := text.span Char.isDigit
  let (fraction, rest) := match rest with
    | '.' :: more =>
      let (digits, rest) := more.span Char.isDigit
      ('.' :: digits, rest)
    | rest => ([], rest)
  let (_, behind) := Numeral.power ['e', 'E'] rest
  let power := rest.take (rest.length - behind.length)
  (whole ++ fraction ++ power, behind)

/-- What a backslash and what follows it stand for in a text. -/
def escape (rest : List Char) : List Char × List Char :=
  match rest with
  | [] => (['\\'], [])
  | '"' :: rest => (['"'], rest)
  | '\n' :: rest => ([], rest)
  | c :: more =>
    if (Escapes.octalDigit? c).isSome then
      let (byte, rest) := Escapes.octal rest
      ([byte], rest)
    else
      match if c = 'x' then Escapes.hex? c more else none, Escapes.control? c with
      | some found, _ => found
      | none, some byte => if c = 'e' then (['\\', c], more) else ([byte], more)
      | none, none => (['\\', c], more)

/-- A text with what its escapes stand for. -/
def unescape : Nat → List Char → List Char
  | 0, _ => []
  | _, [] => []
  | fuel + 1, '\\' :: rest =>
    let (chars, rest) := escape rest
    chars ++ unescape fuel rest
  | fuel + 1, c :: rest => c :: unescape fuel rest

/-- A text up to a quote that has no backslash in front; none if there is no such quote. -/
def untilQuote : List Char → Option (List Char × List Char)
  | [] => none
  | '"' :: rest => some ([], rest)
  | '\n' :: _ => none
  | '\\' :: c :: rest => (untilQuote rest).map fun (text, rest) => ('\\' :: c :: text, rest)
  | c :: rest => (untilQuote rest).map fun (text, rest) => (c :: text, rest)

/-- A description up to a slash that is neither in square brackets nor behind a backslash. -/
def untilSlash (inBrackets : Bool) : List Char → Option (List Char × List Char)
  | [] => none
  | '\n' :: _ => none
  | '\\' :: '/' :: rest => (untilSlash inBrackets rest).map fun (text, rest) => ('/' :: text, rest)
  | '\\' :: c :: rest =>
    (untilSlash inBrackets rest).map fun (text, rest) => ('\\' :: c :: text, rest)
  | c :: rest =>
    if c = '/' ∧ !inBrackets then some ([], rest)
    else
      let inside := if inBrackets then c != ']' || rest.head? == some ']' else c == '['
      (untilSlash inside rest).map fun (text, rest) => (c :: text, rest)

def isNameChar (c : Char) : Bool :=
  c.isAlphanum || c == '_'

/-- The first sign at the front of a text. -/
def signAt? (text : List Char) : Option String :=
  signs.find? fun sign => sign.toList.isPrefixOf text

/-- The tokens of a program, with the lines on which they stand. -/
def scan : Nat → (before : Token) → (line : Nat) → List Char → List (Token × Nat)
  | 0, _, _, _ => []
  | _, _, line, [] => [(.stop, line)]
  | fuel + 1, before, line, c :: rest =>
    let go (token : Token) (rest : List Char) : List (Token × Nat) :=
      (token, line) :: scan fuel token line rest
    if c = '\n' then (.newline, line) :: scan fuel .newline (line + 1) rest
    else if c = ' ' ∨ c = '\t' ∨ c = '\r' then scan fuel before line rest
    else if c = '\\' ∧ rest.head? = some '\n' then scan fuel before (line + 1) rest.tail
    else if c = '#' then scan fuel before line (rest.dropWhile (· ≠ '\n'))
    else if c.isDigit ∨ (c = '.' ∧ rest.head?.any Char.isDigit) then
      let (spelled, rest) := decimal (c :: rest)
      let shown := String.ofList spelled
      go (.number (leadingNumber shown) shown) rest
    else if c.isAlpha ∨ c = '_' then
      let (name, rest) := (c :: rest).span isNameChar
      let name := String.ofList name
      if words.contains name then go (.word name) rest
      else if builtins.contains name then go (.builtin name) rest
      else if rest.head? = some '(' then go (.call name) rest
      else go (.name name) rest
    else if c = '"' then
      match untilQuote rest with
      | some (text, behind) =>
        let lines := text.count '\n'
        let token : Token := .text (String.ofList (unescape (text.length + 1) text))
        (token, line) :: scan fuel token (line + lines) behind
      | none =>
        let shown := (rest.takeWhile (· ≠ '\n')).take 20
        [(.wrong ("line " ++ toString line ++ ": runaway string constant \"" ++
          String.ofList shown ++ " ..."), line)]
    else if c = '/' ∧ !before.endsOperand then
      match untilSlash false rest with
      | some (text, behind) => go (.regex (String.ofList text)) behind
      | none =>
        let shown := (rest.takeWhile (· ≠ '\n')).take 20
        [(.wrong ("line " ++ toString line ++ ": runaway regular expression /" ++
          String.ofList shown ++ " ..."), line)]
    else
      match signAt? (c :: rest) with
      | some sign => go (.sign sign) ((c :: rest).drop sign.length)
      | none =>
        let complaint := toString line ++ ": unexpected character '" ++ String.singleton c ++ "'"
        go (.wrong complaint) rest

end Scan

end BoardDebug.Build.Shell.Record
