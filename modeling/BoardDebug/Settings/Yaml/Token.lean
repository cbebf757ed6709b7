import BoardDebug.Settings.Yaml.Cursor
import BoardDebug.Settings.Yaml.Quoted
import BoardDebug.Settings.Yaml.Tag

namespace BoardDebug.Yaml

/-- The marks and words of a document. -/
inductive Token where
  | directive (d : Directive)
  | documentStart
  | documentEnd
  /-- A list or a table begins, whose extent the indentation shows. -/
  | listBlock
  | tableBlock
  | blockEnd
  | openBracket
  | closeBracket
  | openBrace
  | closeBrace
  /-- A dash in front of an item. -/
  | item
  | comma
  | key
  | value
  | again (name : List Char)
  | anchor (name : List Char)
  | tag (t : Tag)
  | scalar (text : List Char) (isPlain : Bool)
deriving DecidableEq

/-- Where a key may have begun: a colon may follow on the same line, at most 1024 characters on. -/
structure KeyPlace where
  /-- Whether a colon has to follow. -/
  isRequired : Bool
  /-- How many tokens there were before. -/
  tokenCount : Nat
  index : Nat
  line : Nat
  column : Nat

/-- Tokens being read. -/
structure Lexer where
  cursor : Cursor
  /-- The tokens so far, the latest first. -/
  tokens : List Token
  /-- The columns in which blocks began that are not over, the innermost first. -/
  blocks : List Nat
  /-- Where a key may have begun between the innermost brackets. -/
  keyPlace : Option KeyPlace
  /-- The same for the brackets and braces around, the innermost first. -/
  outerPlaces : List (Option KeyPlace)
  /-- Whether a key may begin here. -/
  keyAllowed : Bool

namespace Lexer

def start (text : List Char) : Lexer :=
  ⟨.start text, [], [], none, [], true⟩

def inFlow (l : Lexer) : Bool :=
  !l.outerPlaces.isEmpty

/-- The column right of which the innermost block lies. -/
def margin (l : Lexer) : Nat :=
  match l.blocks with
  | [] => 0
  | column :: _ => column + 1

end Lexer

/-- Reads tokens off the front of a text, or refuses. -/
abbrev Lexing := StateT Lexer Option

namespace Lexing

def read {α : Type} (reading : Reading α) : Lexing α := fun l =>
  (reading.run l.cursor).map fun (a, cursor) => (a, { l with cursor })

def push (token : Token) : Lexing Unit :=
  modify fun l => { l with tokens := token :: l.tokens }

/-- Puts a token in front of all but the first `count`. -/
def insert (count : Nat) (token : Token) : Lexing Unit :=
  modify fun l => { l with tokens := l.tokens.insertIdx (l.tokens.length - count) token }

def allowKey (allowed : Bool) : Lexing Unit :=
  modify fun l => { l with keyAllowed := allowed }

/-- Closes the blocks that begin right of a column. -/
def closeBlocks (column : Nat) : Lexing Unit :=
  modify fun l =>
    if l.inFlow then l
    else
      let closed := l.blocks.takeWhile (column < ·)
      { l with
        tokens := closed.map (fun _ => .blockEnd) ++ l.tokens
        blocks := l.blocks.drop closed.length }

def closeAllBlocks : Lexing Unit :=
  modify fun l =>
    if l.inFlow then l
    else { l with tokens := l.blocks.map (fun _ => .blockEnd) ++ l.tokens, blocks := [] }

/-- Opens a block in a column that lies right of the one around it, in front of all tokens but the
first `count`. -/
def openBlock (column count : Nat) (token : Token) : Lexing Unit := do
  let l ← get
  if !l.inFlow ∧ l.margin ≤ column then
    insert count token
    modify fun l => { l with blocks := column :: l.blocks }

/-- Nothing that began here is a key any more. -/
def dropKey : Lexing Unit := do
  let l ← get
  if l.keyPlace.any (·.isRequired) then failure else set { l with keyPlace := none }

/-- What comes next may be a key. -/
def startKey : Lexing Unit := do
  let l ← get
  if l.keyAllowed then
    dropKey
    let place : KeyPlace :=
      { isRequired := !l.inFlow && l.blocks.head? == some l.cursor.column
        tokenCount := l.tokens.length
        index := l.cursor.index
        line := l.cursor.line
        column := l.cursor.column }
    modify fun l => { l with keyPlace := some place }

/-- Whether a colon comes too late for a key. -/
def isPast (cursor : Cursor) (place : KeyPlace) : Bool :=
  place.line < cursor.line || place.index + 1024 < cursor.index

/-- Gives up the keys for which a colon comes too late. -/
def dropPastKeys : Lexing Unit := do
  let l ← get
  let isPast := isPast l.cursor
  if (l.keyPlace :: l.outerPlaces).any (·.any fun place => isPast place && place.isRequired) then
    failure
  else
    set { l with
      keyPlace := l.keyPlace.filter (!isPast ·)
      outerPlaces := l.outerPlaces.map (Option.filter (!isPast ·)) }

/-- Passes over blanks, comments and line ends, and over a mark of the byte order in front of a
line. Where a key may begin outside brackets, a tab is no blank. -/
def skipToToken : Nat → Lexing Unit
  | 0 => return ()
  | fuel + 1 => do
    let l ← get
    let mayBeTab := l.inFlow || !l.keyAllowed
    read do
      if (← get).column = 0 then
        let _ ← Reading.eat '\ufeff'
      Reading.skipWhile fun c => c == ' ' || (mayBeTab && c == '\t')
      Reading.skipComment
    let ended ← read Reading.newline
    if !ended.isEmpty then
      if !l.inFlow then allowKey true
      skipToToken fuel

/-- A bracket or brace that opens. -/
def openFlow (token : Token) : Lexing Unit := do
  startKey
  modify fun l =>
    { l with keyPlace := none, outerPlaces := l.keyPlace :: l.outerPlaces, keyAllowed := true }
  push token

/-- A bracket or brace that closes. -/
def closeFlow (token : Token) : Lexing Unit := do
  dropKey
  modify fun l =>
    { l with
      keyPlace := l.outerPlaces.headD none
      outerPlaces := l.outerPlaces.tail
      keyAllowed := false }
  push token

/-- A mark outside brackets that opens a block, if it is the first of its kind. -/
def openBlockHere (column : Nat) (block : Token) : Lexing Unit := do
  let l ← get
  if !l.inFlow then
    if l.keyAllowed then openBlock column l.tokens.length block else failure

/-- A dash, in the given column. -/
def item (column : Nat) : Lexing Unit := do
  openBlockHere column .listBlock
  dropKey
  allowKey true
  push .item

/-- A question mark in front of a key. -/
def key (column : Nat) : Lexing Unit := do
  openBlockHere column .tableBlock
  dropKey
  allowKey (!(← get).inFlow)
  push .key

/-- A colon. What may have been a key is one. -/
def value (column : Nat) : Lexing Unit := do
  match (← get).keyPlace with
  | some place =>
    insert place.tokenCount .key
    openBlock place.column place.tokenCount .tableBlock
    modify fun l => { l with keyPlace := none, keyAllowed := false }
  | none =>
    openBlockHere column .tableBlock
    allowKey (!(← get).inFlow)
  push .value

/-- A token that may be a key or begin one. -/
def word (token : Reading Token) : Lexing Unit := do
  startKey
  allowKey false
  push (← read token)

/-- A text without quotes. Behind a line end, a key may follow. -/
def plain : Lexing Unit := do
  startKey
  let l ← get
  let (text, isBroken) ← read (.plain l.inFlow l.margin)
  allowKey isBroken
  push (.scalar text true)

def long : Lexing Unit := do
  dropKey
  allowKey true
  let text ← read (.long (← get).margin)
  push (.scalar text false)

def betweenDocuments (token : Reading Token) : Lexing Unit := do
  closeAllBlocks
  dropKey
  allowKey false
  push (← read token)

/-- Characters that a text without quotes cannot begin with. -/
def isIndicator (c : Char) : Bool :=
  isFlowMark c ||
    ['-', '?', ':', '#', '&', '*', '!', '|', '>', '\x27', '"', '%', '@', '\x60'].contains c

/-- Reads the next token, or says that there is none. -/
def next : Lexing Bool := do
  skipToToken (← read .fuel)
  dropPastKeys
  let column ← read .column
  closeBlocks column
  let l ← get
  let after ← read (.ahead 1)
  match ← read (.ahead 0) with
  | none =>
    closeAllBlocks
    dropKey
    return false
  | some c =>
    let isMark := (l.inFlow : Bool) || endsWord after
    if c = '%' ∧ column = 0 then
      betweenDocuments (return .directive (← Reading.directive))
    else if ← read .atDocumentMark then
      betweenDocuments do
        let _ ← Reading.take 3
        return if c = '-' then .documentStart else .documentEnd
    else if c = '[' then pass (openFlow .openBracket)
    else if c = '\x7b' then pass (openFlow .openBrace)
    else if c = ']' then pass (closeFlow .closeBracket)
    else if c = '\x7d' then pass (closeFlow .closeBrace)
    else if c = ',' then pass (dropKey *> allowKey true *> push .comma)
    else if c = '-' ∧ endsWord after then pass (item column)
    else if c = '?' ∧ isMark then pass (key column)
    else if c = ':' ∧ isMark then pass (value column)
    else if c = '*' then word (Reading.any *> return .again (← Reading.anchorName))
    else if c = '&' then word (Reading.any *> return .anchor (← Reading.anchorName))
    else if c = '!' then word (return .tag (← Reading.tag l.inFlow))
    else if (c = '|' ∨ c = '>') ∧ !l.inFlow then long
    else if c = '\x27' ∨ c = '"' then word (return .scalar (← Reading.quoted) false)
    else if (!isIndicator c ∧ !isBlank c) ∨ (c = '-' ∧ !after.any isBlank) ∨
        (!l.inFlow ∧ (c = '?' ∨ c = ':')) then plain
    else failure
    return true
where
  /-- Does something at a mark and passes over it. -/
  pass (act : Lexing Unit) : Lexing Unit := do
    act
    let _ ← read Reading.any

def all : Nat → Lexing Unit
  | 0 => failure
  | fuel + 1 => do
    if ← next then all fuel

end Lexing

/-- The tokens of a text. -/
def tokens (text : List Char) : Option (List Token) :=
  ((Lexing.all (text.length + 1)).run (.start text)).map fun (_, l) => l.tokens.reverse

end BoardDebug.Yaml
