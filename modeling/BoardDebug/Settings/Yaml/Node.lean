import BoardDebug.Settings.Yaml.Token
import BoardDebug.Sorted

namespace BoardDebug.Yaml

/-- What stands in front of a value: the number under which it can be repeated, and its tag. -/
structure Properties where
  mark : Option Nat
  tag : Option Bytes

inductive Node where
  | scalar (properties : Properties) (text : String) (isPlain : Bool)
  | list (properties : Properties) (items : List Node)
  | table (properties : Properties) (pairs : List (Node × Node))
  /-- A value that stands elsewhere. -/
  | again (mark : Nat)

namespace Node

/-- A value of which nothing is written. -/
def empty : Node :=
  scalar ⟨none, none⟩ "" true

def mark? : Node → Option Nat
  | scalar properties _ _ => properties.mark
  | list properties _ => properties.mark
  | table properties _ => properties.mark
  | again _ => none

mutual

/-- A value and all inside it, in the order in which they begin. -/
def nodes : Node → List Node
  | scalar properties text isPlain => [scalar properties text isPlain]
  | list properties items => list properties items :: itemNodes items
  | table properties pairs => table properties pairs :: pairNodes pairs
  | again mark => [again mark]

def itemNodes : List Node → List Node
  | [] => []
  | item :: rest => item.nodes ++ itemNodes rest

def pairNodes : List (Node × Node) → List Node
  | [] => []
  | (key, value) :: rest => key.nodes ++ value.nodes ++ pairNodes rest

end

end Node

/-- Tokens that are left, and what the ones before them set. -/
structure Context where
  tokens : List Token
  handles : List (List Char × Bytes)
  /-- The values that can be repeated, by name. -/
  marks : List (String × Nat)

/-- Reads something off the front of tokens, or refuses. -/
abbrev Parsing := StateT Context Option

namespace Parsing

def nextIs (tokens : List Token) : Parsing Bool := do
  return (← get).tokens.head?.any tokens.contains

def take : Parsing Token := do
  let context ← get
  match context.tokens with
  | token :: tokens =>
    set { context with tokens }
    return token
  | [] => failure

def eat (token : Token) : Parsing Bool := do
  if ← nextIs [token] then
    let _ ← take
    return true
  else return false

def expect (token : Token) : Parsing Unit := do
  if ← eat token then return () else failure

/-- Where a value stands. -/
inductive Place where
  | block
  /-- In a pair, where the dashes of a list need not be indented. -/
  | pair
  | flow
deriving DecidableEq

/-- The number under which a value with a name can be repeated: how many names there were before.
So a name that comes back shares its number with the next new one, and of the two values that
begin with one number the later counts. -/
def nameMark (name : List Char) : Parsing Nat := do
  let context ← get
  let mark := context.marks.length
  set { context with marks := Sorted.insert (String.ofList name) mark context.marks }
  return mark

/-- The full name of a tag. -/
def tagName (tag : Tag) : Parsing Bytes := do
  if tag.handle.isEmpty then return tag.suffix
  else
    match (← get).handles.find? fun (handle, _) => handle == tag.handle with
    | some (_, meaning) => return meaning ++ tag.suffix
    | none => failure

def anchor? : Parsing (Option (List Char)) := do
  match (← get).tokens with
  | .anchor name :: _ =>
    let _ ← take
    return some name
  | _ => return none

def tag? : Parsing (Option Tag) := do
  match (← get).tokens with
  | .tag tag :: _ =>
    let _ ← take
    return some tag
  | _ => return none

/-- What stands in front of a value, in either order. -/
def properties : Parsing Properties := do
  let before ← anchor?
  let tag ← tag?
  let anchor ← if before.isNone ∧ tag.isSome then anchor? else pure before
  let tag ← tag.mapM tagName
  return ⟨← anchor.mapM nameMark, tag⟩

/-- A value, or an empty one in front of certain tokens. -/
def orEmpty (tokens : List Token) (value : Parsing Node) : Parsing Node := do
  if ← nextIs tokens then return .empty else value

/-- The items of a list with its own indentation. -/
def blockItems (inner : Place → Parsing Node) : Nat → Parsing (List Node)
  | 0 => failure
  | fuel + 1 => do
    if ← eat .blockEnd then return []
    else
      expect .item
      let first ← orEmpty [.item, .blockEnd] (inner .block)
      return first :: (← blockItems inner fuel)

/-- The items of a list that is indented like the pair around it. -/
def pairItems (inner : Place → Parsing Node) : Nat → Parsing (List Node)
  | 0 => failure
  | fuel + 1 => do
    if ← eat .item then
      let first ← orEmpty [.item, .key, .value, .blockEnd] (inner .block)
      return first :: (← pairItems inner fuel)
    else return []

def blockPairs (inner : Place → Parsing Node) : Nat → Parsing (List (Node × Node))
  | 0 => failure
  | fuel + 1 => do
    if ← eat .blockEnd then return []
    else
      expect .key
      let key ← part
      let value ← if ← eat .value then part else pure .empty
      return (key, value) :: (← blockPairs inner fuel)
where
  part : Parsing Node :=
    orEmpty [.key, .value, .blockEnd] (inner .pair)

/-- A pair that stands alone in brackets, behind the mark of its key. A key of which nothing is
written takes the place of what comes next. -/
def lonePair (inner : Place → Parsing Node) : Parsing Node := do
  let key ← if ← nextIs [.value, .comma, .closeBracket] then
      let _ ← take
      pure .empty
    else inner .flow
  let value ←
    if ← eat .value then orEmpty [.comma, .closeBracket] (inner .flow) else pure .empty
  return .table ⟨none, none⟩ [(key, value)]

/-- The items between brackets. -/
def flowItems (inner : Place → Parsing Node) (isFirst : Bool) : Nat → Parsing (List Node)
  | 0 => failure
  | fuel + 1 => do
    if ← eat .closeBracket then return []
    else
      if !isFirst then expect .comma
      if ← eat .key then
        let first ← lonePair inner
        return first :: (← flowItems inner false fuel)
      else if ← eat .closeBracket then return []
      else
        let first ← inner .flow
        return first :: (← flowItems inner false fuel)

/-- The pairs between braces. A key without a mark has no value. -/
def flowPairs (inner : Place → Parsing Node) (isFirst : Bool) :
    Nat → Parsing (List (Node × Node))
  | 0 => failure
  | fuel + 1 => do
    if ← eat .closeBrace then return []
    else
      if !isFirst then expect .comma
      if ← eat .key then
        let key ← orEmpty [.value, .comma, .closeBrace] (inner .flow)
        let value ←
          if ← eat .value then orEmpty [.comma, .closeBrace] (inner .flow) else pure .empty
        return (key, value) :: (← flowPairs inner false fuel)
      else if ← eat .closeBrace then return []
      else
        let key ← inner .flow
        return (key, .empty) :: (← flowPairs inner false fuel)

/-- A value; `inner` reads the ones inside it. -/
def nodeAround (inner : Place → Parsing Node) (place : Place) : Parsing Node := do
  match (← get).tokens with
  | .again name :: _ =>
    let _ ← take
    match Sorted.find? (String.ofList name) (← get).marks with
    | some mark => return .again mark
    | none => failure
  | _ =>
    let properties ← properties
    let context ← get
    let fuel := context.tokens.length + 1
    let pass (tokens : List Token) : Parsing Unit := set { context with tokens }
    match context.tokens with
    | .item :: _ =>
      if place = .pair then return .list properties (← pairItems inner fuel)
      else nothing properties
    | .scalar text isPlain :: rest =>
      pass rest
      return .scalar properties (String.ofList text) isPlain
    | .openBracket :: rest =>
      pass rest
      return .list properties (← flowItems inner true fuel)
    | .openBrace :: rest =>
      pass rest
      return .table properties (← flowPairs inner true fuel)
    | .listBlock :: rest =>
      if place = .flow then nothing properties
      else
        pass rest
        return .list properties (← blockItems inner fuel)
    | .tableBlock :: rest =>
      if place = .flow then nothing properties
      else
        pass rest
        return .table properties (← blockPairs inner fuel)
    | _ => nothing properties
where
  /-- A value of which nothing but its properties is written. -/
  nothing (properties : Properties) : Parsing Node :=
    if properties.mark.isSome ∨ properties.tag.isSome then return .scalar properties "" true
    else failure

/-- A value in which values are nested to a depth. -/
def node : Nat → Place → Parsing Node
  | 0 => fun _ => failure
  | depth + 1 => nodeAround (node depth)

/-- The lines in front of a document: at most one version, which has to be known, and meanings of
handles. -/
def directives (hasVersion : Bool) : Nat → Parsing Unit
  | 0 => failure
  | fuel + 1 => do
    match (← get).tokens with
    | .directive (.version major minor) :: _ =>
      if hasVersion ∨ major ≠ 1 ∨ (minor ≠ 1 ∧ minor ≠ 2) then failure
      else
        let _ ← take
        directives true fuel
    | .directive (.handle spelled meaning) :: _ =>
      let _ ← take
      let context ← get
      if context.handles.any fun (handle, _) => handle == spelled then failure
      else
        set { context with handles := (spelled, meaning) :: context.handles }
        directives hasVersion fuel
    | _ => return ()

/-- What handles mean about which nothing is said. -/
def usualHandles : List (List Char × Bytes) :=
  [(['!'], Utf8.encode ['!']), (['!', '!'], Utf8.encode "tag:yaml.org,2002:".toList)]

def skipDocumentEnds : Nat → Parsing Unit
  | 0 => return ()
  | fuel + 1 => do
    if ← eat .documentEnd then skipDocumentEnds fuel

/-- The one document in a text, if there is one. -/
def document (depth : Nat) : Parsing (Option Node) := do
  let fuel := (← get).tokens.length + 1
  if (← get).tokens.isEmpty then return none
  else
    directives false fuel
    let isDirected := (← get).tokens.length + 1 < fuel
    modify fun context => { context with handles := context.handles ++ usualHandles }
    let isMarked ← eat .documentStart
    let isEmpty := isMarked &&
      ((← get).tokens.isEmpty || (← nextIs [.documentStart, .documentEnd]))
    let root ←
      if isDirected ∧ !isMarked then failure
      else if isEmpty then pure .empty
      else node depth .block
    skipDocumentEnds fuel
    if (← get).tokens.isEmpty then return some root else failure

end Parsing

end BoardDebug.Yaml
