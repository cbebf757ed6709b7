import BoardDebug.Build.Shell.Arithmetic
import BoardDebug.Build.Shell.Fields
import BoardDebug.Build.Shell.State

namespace BoardDebug.Build.Shell.Script

/-- What a parameter comes to: one text, which may not be set, or many. -/
inductive Content where
  | one (text : Option String)
  | many (texts : List String) (isStar : Bool)

namespace Content

def isSet : Content → Bool
  | one text => text.isSome
  | many texts _ => !texts.isEmpty

def isEmpty : Content → Bool
  | one text => (text.getD "").isEmpty
  | many texts _ => (" ".intercalate texts).isEmpty

def mapTexts (act : List Char → List Char) : Content → Content
  | one text => one (text.map fun text => String.ofList (act text.toList))
  | many texts isStar => many (texts.map fun text => String.ofList (act text.toList)) isStar

end Content

/-- The content of a parameter, as a part of a word. -/
def Content.atoms (isQuoted : Bool) : Content → Script (List Atom)
  | .one text => return Atom.ofValue isQuoted (text.getD "").toList
  | .many texts isStar => do
    if isStar ∧ isQuoted then
      let between := String.ofList ((← separators).take 1)
      return Atom.ofValue true (between.intercalate texts).toList
    else
      return ((texts.map fun text => Atom.ofValue isQuoted text.toList).intersperse [.cut]).flatten

/-- The text behind a number of a list, or a key. -/
def itemOf (value : Value) (number : Int) : Option String :=
  match value with
  | .text content => if number = 0 ∨ number = -1 then some content else none
  | .list items =>
    let last : Int := (items.getLast?.map (·.1)).elim (-1) Int.ofNat
    let number := if number < 0 then last + 1 + number else number
    if number < 0 then none else (items.find? fun (n, _) => n = number.toNat).map (·.2)
  | .table items => look (toString number) items

/-- The texts that a value consists of. -/
def itemsOf : Value → List String
  | .text content => [content]
  | .list items => items.map (·.2)
  | .table items => (tableOrder items).map (·.2)

def keysOf : Value → List String
  | .text _ => ["0"]
  | .list items => items.map fun (n, _) => toString n
  | .table items => (tableOrder items).map (·.1)

/-- Lets an item of a list stand for a text. -/
def assignItem (name : String) (number : Int) (text : String) : Script Unit := do
  let items := match look name (← get).bindings with
    | some (.list items) => items
    | some (.text content) => [(0, content)]
    | _ => []
  let last : Int := (items.getLast?.map (·.1)).elim (-1) Int.ofNat
  let number := if number < 0 then last + 1 + number else number
  if number < 0 then reject (name ++ "[" ++ toString number ++ "]: bad array subscript")
  else setValue name (.list (putItem number.toNat text items))

def assignKey (name key text : String) : Script Unit := do
  match look name (← get).bindings with
  | some (.table items) =>
    let items := if items.any (·.1 == key)
      then items.map fun (k, old) => (k, if k = key then text else old)
      else items ++ [(key, text)]
    setValue name (.table items)
  | _ => setValue name (.table [(key, text)])

/-- The wording of what is wrong with an expression. -/
def arithmeticFault (dialect : Dialect) (text rest : List Char) (why : String) : String :=
  match dialect with
  | .sh => "arithmetic expression: " ++ why ++ ": \"" ++ String.ofList text ++ "\""
  | .bash =>
    let why := match why with
      | "division by zero" => "division by 0"
      | "expecting primary" => "syntax error: operand expected"
      | "expecting EOF" => "syntax error in expression"
      | "expecting ')'" => "missing \x60)'"
      | "expecting ':'" => "\x60:' expected for conditional expression"
      | why => why
    String.ofList (text.dropWhile Blank.isSpace) ++ ": " ++ why ++ " (error token is \"" ++
      String.ofList (rest.dropWhile Blank.isSpace) ++ "\")"

/-- The value of an expression; `give` is told what is wrong with one that has none. -/
def valueIn (give : String → Script Int) (text : List Char) : Script Int := do
  let s ← get
  let value (target : Arithmetic.Target) : List Char :=
    match target with
    | (name, none) => ((s.value? name).getD "").toList
    | (name, some number) =>
      (((s.binding? (String.ofList name)).bind (itemOf · number)).getD "").toList
  match Arithmetic.evaluate s.dialect value text with
  | .ok (n, assigned) =>
    assigned.reverse.forM fun ((name, item), n) =>
      match item with
      | none => assign (String.ofList name) (toString n)
      | some item => assignItem (String.ofList name) item (toString n)
    return n
  | .error (.expression why rest) => give (arithmeticFault s.dialect text rest why)
  | .error (.number spelling) => give ("Illegal number: " ++ String.ofList spelling)

def evaluate (text : List Char) : Script Int :=
  valueIn reject text

/-- A word in the text behind the name of a parameter. -/
def wordIn (isQuoted : Bool) (text : List Char) : Script Word := do
  let s ← get
  match (Reading.wholeWord isQuoted).on s.rules { Source.of text with line := s.line } with
  | .ok (word, _) => return word
  | .error fault => refuse fault.text 2

/-- The expression in a text. Quotes do not count in it, or stand for themselves. -/
def expressionIn (text : List Char) : Script Word := do
  let s ← get
  let around : Reading.Around := if s.isBash then .word else .lines
  let source : Source := { rest := text, line := s.line }
  match (Reading.quotedRest around s.line (text.length + 1)).on s.rules source with
  | .ok (word, _) => return word
  | .error fault => refuse fault.text 2

/-- The shortest or longest beginning that a pattern stands for is taken away. -/
def dropStart (longest : Bool) (pattern : Pattern) (text : List Char) : List Char :=
  let counts := List.range (text.length + 1)
  let counts := if longest then counts.reverse else counts
  match counts.find? fun n => pattern.accepts (text.take n) with
  | some n => text.drop n
  | none => text

def dropEnd (longest : Bool) (pattern : Pattern) (text : List Char) : List Char :=
  let counts := List.range (text.length + 1)
  let counts := if longest then counts else counts.reverse
  match counts.find? fun n => pattern.accepts (text.drop n) with
  | some n => text.take n
  | none => text

/-- How the parts of a text are found that are put into another one's place. -/
inductive Scope where
  | first
  | all
  | start
  | stop
deriving DecidableEq

/-- Puts a text in place of what a pattern stands for. -/
def replace (scope : Scope) (pattern : Pattern) (other : List Char → List Char)
    (text : List Char) : List Char :=
  let isMatch (part : List Char) : Bool := pattern.accepts part
  let longest? (text : List Char) : Option Nat :=
    (List.range (text.length + 1)).reverse.find? fun n => isMatch (text.take n)
  match scope with
  | .start =>
    match longest? text with
    | some n => other (text.take n) ++ text.drop n
    | none => text
  | .stop =>
    match (List.range (text.length + 1)).find? fun n => isMatch (text.drop n) with
    | some n => text.take n ++ other (text.drop n)
    | none => text
  | scope => if pattern.isEmpty then text else go (scope = .all) longest? text.length text
where
  go (isAll : Bool) (longest? : List Char → Option Nat) : Nat → List Char → List Char
    | 0, text => text
    | _, [] => []
    | fuel + 1, c :: rest =>
      match (longest? (c :: rest)).filter (0 < ·) with
      | some n =>
        let after := (c :: rest).drop n
        other ((c :: rest).take n) ++ (if isAll then go isAll longest? fuel after else after)
      | none => c :: go isAll longest? fuel rest

/-- The text up to a slash that is not quoted, and what follows that, if there is one. -/
def untilSlash : List Char → List Char × Option (List Char)
  | [] => ([], none)
  | '/' :: rest => ([], some rest)
  | '\\' :: c :: rest =>
    let (text, after) := untilSlash rest
    ('\\' :: c :: text, after)
  | c :: rest =>
    let (text, after) := untilSlash rest
    (c :: text, after)

/-- A text with every letter that a pattern stands for turned into another, or only the first. -/
def recase (turn : Char → Char) (isAll : Bool) (pattern : Pattern) : List Char → List Char
  | [] => []
  | c :: rest =>
    let c' := if pattern.isEmpty || pattern.accepts [c] then turn c else c
    c' :: (if isAll then recase turn isAll pattern rest else rest)

/-- A part of a text or of many, from a place on; the length may be counted from the end. -/
def slice {α : Type} (start : Int) (length : Option Int) (items : List α) : Option (List α) :=
  let count : Int := items.length
  let start := if start < 0 then count + start else start
  if start < 0 ∨ count < start then some []
  else
    let stop := match length with
      | none => count
      | some n => if n < 0 then count + n else min count (start + n)
    if stop < start then none
    else some ((items.drop start.toNat).take (stop - start).toNat)

/-- A text in single quotes as a shell reads it. -/
def singleQuoted (text : String) : String :=
  "'" ++ "'\\''".intercalate (text.splitOn "'") ++ "'"

/-- What a parameter stands for, which has to be set if the shell says so. -/
def required (name : List Char) (content : Content) : Script Content := do
  let s ← get
  match content with
  | .one none =>
    if s.has 'u' ∧ name ≠ ['@'] ∧ name ≠ ['*'] then
      if s.isBash then
        complain (String.ofList name ++ ": unbound variable")
        throw (.exited 127)
      else refuse (String.ofList name ++ ": parameter not set") 2
    else return content
  | content => return content

def badSubstitution {α : Type} (name change : List Char) : Script α := do
  if (← get).isBash then
    reject ("$\x7b" ++ String.ofList (name ++ change) ++ "\x7d: bad substitution")
  else refuse "Bad substitution" 2

/-- The key or number of an item. -/
def assignAt (expand : Word → Script (List Atom)) (name : String) (item : Word) (text : String) :
    Script Unit := do
  let key := Atom.text (← expand item)
  match look name (← get).bindings with
  | some (.table _) => assignKey name (String.ofList key) text
  | _ => assignItem name (← evaluate key) text

/-- What a parameter stands for, and what is to be done with it. -/
def contentOf (expand : Word → Script (List Atom)) (name change : List Char) :
    Script (Content × List Char) := do
  let s ← get
  match s.isBash, change with
  | true, '[' :: inner =>
    match enclosed [']'] inner with
    | .error _ => badSubstitution name change
    | .ok (key, rest) =>
      let value := s.binding? (String.ofList name)
      if key = ['@'] ∨ key = ['*'] then
        return (.many ((value.map itemsOf).getD []) (key = ['*']), rest)
      else
        let key := Atom.text (← expand (← expressionIn key))
        match value with
        | some (.table items) => return (.one (look (String.ofList key) items), rest)
        | value =>
          let number ← evaluate key
          return (.one (value.bind (itemOf · number)), rest)
  | _, change =>
    if name = ['@'] ∨ name = ['*'] then return (.many s.arguments (name = ['*']), change)
    else return (.one (s.value? name), change)

/-- The content of the parameter that another one names, or of all with a beginning, or the keys of
a list. -/
def indirect (expand : Word → Script (List Atom)) (change : List Char) :
    Script (Content × List Char) := do
  let s ← get
  let name := change.takeWhile isNameChar
  let rest := change.drop name.length
  match rest with
  | ['*'] => return (.many (names s (String.ofList name)) true, [])
  | ['@'] => return (.many (names s (String.ofList name)) false, [])
  | ['[', '@', ']'] => return (keys s name false, [])
  | ['[', '*', ']'] => return (keys s name true, [])
  | rest =>
    let (content, rest) ← contentOf expand name rest
    match content with
    | .one (some other) =>
      let text := other.toList
      let target := if text.head?.any isSpecial then text.take 1 else text.takeWhile isNameChar
      let item := text.drop target.length
      let isRight := target.head?.any isSpecial || isName target ||
        (!target.isEmpty && target.all Char.isDigit)
      let isItem := item.isEmpty || (item.head? == some '[' && item.getLast? == some ']')
      if !isRight ∨ !isItem then reject (other ++ ": invalid variable name")
      else
        let (content, left) ← contentOf expand target item
        return (content, left ++ rest)
    | .one none => reject (String.ofList name ++ ": invalid indirect expansion")
    | content => return (content, rest)
where
  names (s : State) (start : String) : List String :=
    ((s.bindings.map (·.1)).filter (·.startsWith start)).mergeSort
  keys (s : State) (name : List Char) (isStar : Bool) : Content :=
    .many (((s.binding? (String.ofList name)).map keysOf).getD []) isStar

/-- The value of the expression in a text. -/
def evaluateWord (expand : Word → Script (List Atom)) (text : List Char) : Script Int := do
  evaluate (Atom.text (← expand (← expressionIn text)))

/-- A part of what a parameter stands for. -/
def part (expand : Word → Script (List Atom)) (name text : List Char) (content : Content) :
    Script Content := do
  let (first, length) := match Reading.splitAt ':' 0 text with
    | some (first, length) => (first, some length)
    | none => (text, none)
  let start ← evaluateWord expand first
  let length ← match length with
    | some text => do pure (some (← evaluateWord expand text))
    | none => pure none
  let s ← get
  let isArguments := name = ['@'] ∨ name = ['*']
  let found : Option Content := match content with
    | .one text =>
      (slice start length (text.getD "").toList).map fun text => .one (some (String.ofList text))
    | .many texts isStar =>
      let all := if isArguments ∧ start = 0 then s.name :: texts else texts
      let start := if isArguments ∧ 0 < start then start - 1 else start
      (slice start length all).map fun texts => .many texts isStar
  match found with
  | some content => return content
  | none =>
    let shown := match Reading.splitAt ':' 0 text with
      | some (_, length) => length
      | none => text
    reject (String.ofList shown ++ ": substring expression < 0")

/-- What a parameter comes to after a change that only one of the languages has. -/
def richChange (expand : Word → Script (List Atom)) (name change : List Char)
    (content : Content) : Script (Option Content) := do
  let patternIn (text : List Char) : Script Pattern := do
    return (Atom.pattern (← expand (← wordIn false text))).turned
  match change with
  | ':' :: text => return some (← part expand name text content)
  | '/' :: rest =>
    let (scope, rest) := match rest with
      | '/' :: rest => (Scope.all, rest)
      | '#' :: rest => (.start, rest)
      | '%' :: rest => (.stop, rest)
      | rest => (.first, rest)
    let (first, second) := untilSlash rest
    let pattern ← patternIn first
    let other ← expand (← wordIn false (second.getD []))
    let put (found : List Char) : List Char :=
      (Atom.pattern other).flatMap fun (c, isQuoted) =>
        if c = '&' ∧ !isQuoted then found else [c]
    return some (content.mapTexts (replace scope pattern put))
  | '^' :: '^' :: rest =>
    return some (content.mapTexts (recase Char.toUpper true (← patternIn rest)))
  | '^' :: rest => return some (content.mapTexts (recase Char.toUpper false (← patternIn rest)))
  | ',' :: ',' :: rest =>
    return some (content.mapTexts (recase Char.toLower true (← patternIn rest)))
  | ',' :: rest => return some (content.mapTexts (recase Char.toLower false (← patternIn rest)))
  | ['@', 'Q'] =>
    return some (content.mapTexts fun text => (singleQuoted (String.ofList text)).toList)
  | ['@', 'U'] => return some (content.mapTexts (·.map Char.toUpper))
  | ['@', 'L'] => return some (content.mapTexts (·.map Char.toLower))
  | ['@', 'u'] => return some (content.mapTexts (recase Char.toUpper false []))
  | ['@', 'E'] =>
    return some (content.mapTexts fun text => (Escapes.text true (text.length + 1) text).1)
  | _ => return none

/-- What a parameter comes to after what is to be done with it; `expand` expands words. -/
def parameterAtoms (expand : Word → Script (List Atom)) (name change : List Char)
    (isQuoted : Bool) : Script (List Atom) := do
  let s ← get
  let isIndirect := s.isBash && name == ['!'] && change.head?.any isNameChar
  let (content, change') ←
    if isIndirect then indirect expand change else contentOf expand name change
  let (needsText, sign) := match change' with
    | ':' :: sign => (true, sign)
    | sign => (false, sign)
  let isSet := content.isSet && !(needsText && content.isEmpty)
  let other (text : List Char) : Script (List Atom) := do
    return Atom.loosened isQuoted (← expand (← wordIn isQuoted text))
  let shown := String.ofList name
  if name.isEmpty then badSubstitution name change
  else
    match sign with
    | [] =>
      if needsText then badSubstitution name change
      else (← required name content).atoms isQuoted
    | '-' :: rest => if isSet then content.atoms isQuoted else other rest
    | '+' :: rest => if isSet then other rest else return Atom.ofValue isQuoted []
    | '=' :: rest =>
      if isSet then content.atoms isQuoted
      else if !isName name then
        if s.isBash then reject ("$" ++ shown ++ ": cannot assign in this way")
        else refuse (shown ++ ": bad variable name") 2
      else
        let text := Atom.text (← expand (← wordIn isQuoted rest))
        assign shown (String.ofList text)
        return Atom.ofValue isQuoted text
    | '?' :: rest =>
      if isSet then content.atoms isQuoted
      else
        let text := Atom.text (← expand (← wordIn isQuoted rest))
        let null := if s.isBash then "parameter null or not set" else "parameter not set or null"
        let usual := if needsText then null else "parameter not set"
        complain (shown ++ ": " ++ (if rest.isEmpty then usual else String.ofList text))
        if s.isBash then throw (.exited 127) else throw (.refused 2)
    | sign :: rest =>
      if !needsText ∧ (sign = '%' ∨ sign = '#') then
        let content ← required name content
        let longest := rest.head? = some sign
        let word ← wordIn false (if longest then rest.tail else rest)
        let atoms ← expand word
        let pattern := if s.isBash then (Atom.pattern atoms).turned else Atom.pattern atoms
        let drop := if sign = '%' then dropEnd longest pattern else dropStart longest pattern
        let content := match s.isBash, content with
          | false, .many texts _ => Content.one (some (" ".intercalate texts))
          | _, content => content
        (content.mapTexts drop).atoms isQuoted
      else if s.isBash then
        match ← richChange expand name change' (← required name content) with
        | some content => content.atoms isQuoted
        | none => badSubstitution name change
      else badSubstitution name change

/-- How long it is what a parameter stands for, or how many texts it has. -/
def lengthOf (expand : Word → Script (List Atom)) (name : List Char) : Script Nat := do
  let s ← get
  let base := if name.head?.any isSpecial then name.take 1 else name.takeWhile isNameChar
  let (content, rest) ← contentOf expand base (name.drop base.length)
  if !rest.isEmpty ∧ s.isBash then badSubstitution ('#' :: base) rest
  else
    match s.isBash, ← required name content with
    | true, .many texts _ => return texts.length
    | _, .many texts _ => return (" ".intercalate texts).length
    | _, .one text => return (text.getD "").length

end BoardDebug.Build.Shell.Script
