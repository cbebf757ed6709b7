import BoardDebug.Json.Lexical
import BoardDebug.Json.Value
import BoardDebug.Sorted

namespace BoardDebug.Json

/-- Reads a value of a known type. The number says how many more brackets may be opened. -/
abbrev Decoder (α : Type) := Nat → Bytes → Except Fault (α × Bytes)

/-- How deep the brackets of a text may be nested. -/
def maxDepth : Nat := 127

/-- The fault of a value of another type than the one asked for. Words, numbers and strings are
still read, so a fault inside them comes first. -/
def mismatch (bytes : Bytes) : Fault :=
  let afterwards {α : Type} (read : Except Fault α) : Fault :=
    match read with
    | .ok _ => .content
    | .error fault => fault
  match bytes with
  | [] => .grammar
  | first :: rest =>
    if first = 0x6e then afterwards (keyword ull rest)
    else if first = 0x74 then afterwards (keyword rue rest)
    else if first = 0x66 then afterwards (keyword alse rest)
    else if first = 0x2d then afterwards (number true rest)
    else if isDigit first then afterwards (number false bytes)
    else if first = 0x22 then afterwards (stringText rest)
    else if first = 0x5b ∨ first = 0x7b then .content
    else .grammar

namespace Decoder

variable {α σ : Type}

def map {β : Type} (f : α → β) (read : Decoder α) : Decoder β := fun depth bytes =>
  match read depth bytes with
  | .ok (a, rest) => .ok (f a, rest)
  | .error fault => .error fault

/-- A number from 0 to `limit`. -/
def natural (limit : Nat) : Decoder Nat := fun _ bytes =>
  match skipBlanks bytes with
  | [] => .error .truncated
  | first :: rest =>
    if first = 0x2d then
      match number true rest with
      | .ok _ => .error .content
      | .error fault => .error fault
    else if isDigit first then
      match number false (first :: rest) with
      | .ok (.natural n, rest) => if n ≤ limit then .ok (n, rest) else .error .content
      | .ok _ => .error .content
      | .error fault => .error fault
    else .error (mismatch (first :: rest))

def word : Decoder UInt32 :=
  map .ofNat (natural 0xffffffff)

def halfWord : Decoder UInt16 :=
  map .ofNat (natural 0xffff)

def string : Decoder String := fun _ bytes =>
  match skipBlanks bytes with
  | [] => .error .truncated
  | first :: rest =>
    if first = 0x22 then stringText rest else .error (mismatch (first :: rest))

/-- The word `null`. -/
def nothing : Decoder Unit := fun _ bytes =>
  match skipBlanks bytes with
  | [] => .error .truncated
  | first :: rest =>
    if first = 0x6e then (keyword ull rest).map ((), ·) else .error (mismatch (first :: rest))

/-- A value, or `null` for none. -/
def optional (read : Decoder α) : Decoder (Option α) := fun depth bytes =>
  match skipBlanks bytes with
  | [] => read.map some depth []
  | first :: rest =>
    if first = 0x6e then (keyword ull rest).map (none, ·)
    else read.map some depth (first :: rest)

/-- Where the next item of a list starts, or `none` in front of the closing bracket. -/
def nextItem (isFirst : Bool) (bytes : Bytes) : Except Fault (Option Bytes) :=
  match skipBlanks bytes with
  | [] => .error .truncated
  | next :: rest =>
    if next = 0x5d then .ok none
    else if isFirst then .ok (some (next :: rest))
    else if next = 0x2c then
      match skipBlanks rest with
      | [] => .error .truncated
      | after :: rest => if after = 0x5d then .error .grammar else .ok (some (after :: rest))
    else .error .grammar

/-- Takes the closing bracket `close` off. -/
def closing (close : UInt8) (bytes : Bytes) : Except Fault Bytes :=
  match skipBlanks bytes with
  | [] => .error .truncated
  | next :: rest => if next = close then .ok rest else .error .grammar

/-- The items of a list up to its closing bracket. -/
def items (read : Bytes → Except Fault (α × Bytes)) : Nat → Bool → Bytes →
    Except Fault (List α × Bytes)
  | 0, _, _ => .error .truncated
  | fuel + 1, isFirst, bytes =>
    match nextItem isFirst bytes with
    | .error fault => .error fault
    | .ok none => .ok ([], bytes)
    | .ok (some start) =>
      match read start with
      | .error fault => .error fault
      | .ok (item, rest) =>
        match items read fuel false rest with
        | .error fault => .error fault
        | .ok (more, rest) => .ok (item :: more, rest)

def listAfter (read : Decoder α) (depth : Nat) (bytes : Bytes) : Except Fault (List α × Bytes) :=
  match depth with
  | 0 => .error .grammar
  | depth + 1 => do
    let (found, rest) ← items (read depth) (bytes.length + 1) true bytes
    let rest ← closing 0x5d rest
    return (found, rest)

def list (read : Decoder α) : Decoder (List α) := fun depth bytes =>
  match skipBlanks bytes with
  | [] => .error .truncated
  | first :: rest =>
    if first = 0x5b then listAfter read depth rest else .error (mismatch (first :: rest))

/-- The next name of an object and what follows it, or `none` in front of the closing brace. -/
def nextName (isFirst : Bool) (bytes : Bytes) : Except Fault (Option (String × Bytes)) :=
  match skipBlanks bytes with
  | [] => .error .truncated
  | next :: rest =>
    if next = 0x7d then .ok none
    else if isFirst then
      if next = 0x22 then (stringText rest).map some else .error .grammar
    else if next = 0x2c then
      match skipBlanks rest with
      | [] => .error .truncated
      | after :: rest =>
        if after = 0x22 then (stringText rest).map some else .error .grammar
    else .error .grammar

def colon (bytes : Bytes) : Except Fault Bytes :=
  closing 0x3a bytes

/-- The members of an object up to its closing brace, in the order of the text. -/
def members (read : Bytes → Except Fault (α × Bytes)) : Nat → Bool → Bytes →
    Except Fault (List (String × α) × Bytes)
  | 0, _, _ => .error .truncated
  | fuel + 1, isFirst, bytes =>
    match nextName isFirst bytes with
    | .error fault => .error fault
    | .ok none => .ok ([], bytes)
    | .ok (some (name, rest)) => do
      let rest ← colon rest
      let (value, rest) ← read rest
      let (more, rest) ← members read fuel false rest
      return ((name, value) :: more, rest)

def objectAfter (read : Decoder α) (depth : Nat) (bytes : Bytes) :
    Except Fault (List (String × α) × Bytes) :=
  match depth with
  | 0 => .error .grammar
  | depth + 1 => do
    let (found, rest) ← members (read depth) (bytes.length + 1) true bytes
    let rest ← closing 0x7d rest
    return (found, rest)

/-- An object of any names. The result increases in the names; a name's last value counts. -/
def dictionary (read : Decoder α) : Decoder (List (String × α)) := fun depth bytes =>
  match skipBlanks bytes with
  | [] => .error .truncated
  | first :: rest =>
    if first = 0x7b then
      (objectAfter read depth rest).map fun (found, rest) => (Sorted.ofList found, rest)
    else .error (mismatch (first :: rest))

/-- Any value. Objects come out sorted, and of equal names the last one counts. -/
def value : Decoder Value := fun depth bytes =>
  match skipBlanks bytes with
  | [] => .error .truncated
  | first :: rest =>
    if first = 0x6e then (keyword ull rest).map (.null, ·)
    else if first = 0x74 then (keyword rue rest).map (.bool true, ·)
    else if first = 0x66 then (keyword alse rest).map (.bool false, ·)
    else if first = 0x2d then (number true rest).map ofNumber
    else if isDigit first then (number false (first :: rest)).map ofNumber
    else if first = 0x22 then (stringText rest).map fun (s, rest) => (.text s, rest)
    else if first = 0x5b then
      match depth with
      | 0 => .error .grammar
      | depth + 1 => do
        let (found, rest) ← items (value depth) (rest.length + 1) true rest
        let rest ← closing 0x5d rest
        return (.list found, rest)
    else if first = 0x7b then
      match depth with
      | 0 => .error .grammar
      | depth + 1 => do
        let (found, rest) ← members (value depth) (rest.length + 1) true rest
        let rest ← closing 0x7d rest
        return (.object (Sorted.ofList found), rest)
    else .error .grammar
where
  ofNumber : Number × Bytes → Value × Bytes
    | (.natural n, rest) => (.natural n, rest)
    | (.negative n, rest) => (.negative n, rest)
    | (.fraction spelling, rest) => (.fraction spelling, rest)

/-- One of a few names, as a string or as an object with that one name and the value `null`. -/
def choice (names : List (String × α)) : Decoder α := fun depth bytes =>
  match skipBlanks bytes with
  | [] => .error .truncated
  | first :: rest =>
    if first = 0x22 then do
      let (name, rest) ← stringText rest
      let chosen ← pick name
      return (chosen, rest)
    else if first = 0x7b then
      match depth with
      | 0 => .error .grammar
      | depth + 1 => do
        let (name, rest) ← openingName rest
        let chosen ← pick name
        let rest ← colon rest
        let (_, rest) ← nothing depth rest
        let rest ← closing 0x7d rest
        return (chosen, rest)
    else .error .grammar
where
  openingName (bytes : Bytes) : Except Fault (String × Bytes) :=
    match skipBlanks bytes with
    | [] => .error .truncated
    | first :: rest => if first = 0x22 then stringText rest else .error .grammar
  pick (name : String) : Except Fault α :=
    match names.find? (·.1 == name) with
    | some (_, chosen) => .ok chosen
    | none => .error .content

end Decoder

/-- A member of a record that is read into a draft of type `σ`. -/
structure Field (σ : Type) where
  name : String
  /-- Whether the draft already has the member. -/
  isSet : σ → Bool
  /-- Reads the value and puts it into the draft. -/
  read : σ → Decoder σ
  /-- Whether the member may be missing. -/
  mayMiss : Bool

namespace Field

variable {α σ : Type}

def required (name : String) (get : σ → Option α) (set : α → σ → σ) (read : Decoder α) :
    Field σ where
  name
  isSet draft := (get draft).isSome
  read draft := read.map fun a => set a draft
  mayMiss := false

def defaulted (name : String) (get : σ → Option α) (set : α → σ → σ) (read : Decoder α) :
    Field σ where
  name
  isSet draft := (get draft).isSome
  read draft := read.map fun a => set a draft
  mayMiss := true

end Field

/-- What happens to a name that a record does not have. -/
inductive Unknown where
  | skipped
  | refused
deriving DecidableEq

/-- A record: an object, or a list of its members' values in order. -/
structure Record (σ α : Type) where
  fields : List (Field σ)
  unknown : Unknown
  /-- The draft without any member. -/
  blank : σ
  /-- The record, if no required member is missing. -/
  finish : σ → Option α

namespace Record

variable {σ α : Type}

/-- Fills the draft from the members of an object. -/
def fillByName (record : Record σ α) (depth : Nat) : Nat → Bool → σ → Bytes →
    Except Fault (σ × Bytes)
  | 0, _, _, _ => .error .truncated
  | fuel + 1, isFirst, draft, bytes =>
    match Decoder.nextName isFirst bytes with
    | .error fault => .error fault
    | .ok none => .ok (draft, bytes)
    | .ok (some (name, rest)) =>
      match record.fields.find? (·.name == name) with
      | some field =>
        if field.isSet draft then .error .content
        else do
          let rest ← Decoder.colon rest
          let (draft, rest) ← field.read draft depth rest
          record.fillByName depth fuel false draft rest
      | none =>
        if record.unknown = .refused then .error .content
        else do
          let rest ← Decoder.colon rest
          let rest ← skip rest
          record.fillByName depth fuel false draft rest

/-- Fills the draft from the items of a list. -/
def fillByPlace (depth : Nat) : List (Field σ) → Bool → σ → Bytes → Except Fault (σ × Bytes)
  | [], _, draft, bytes => .ok (draft, bytes)
  | field :: fields, isFirst, draft, bytes =>
    match Decoder.nextItem isFirst bytes with
    | .error fault => .error fault
    | .ok none =>
      if field.mayMiss then fillByPlace depth fields isFirst draft bytes else .error .content
    | .ok (some start) =>
      match field.read draft depth start with
      | .error fault => .error fault
      | .ok (draft, rest) => fillByPlace depth fields false draft rest

def conclude (record : Record σ α) (draft : σ) : Except Fault α :=
  match record.finish draft with
  | some a => .ok a
  | none => .error .content

def decoder (record : Record σ α) : Decoder α := fun depth bytes =>
  match skipBlanks bytes with
  | [] => .error .truncated
  | first :: rest =>
    if first = 0x5b then
      match depth with
      | 0 => .error .grammar
      | depth + 1 => do
        let (draft, rest) ← fillByPlace depth record.fields true record.blank rest
        let a ← record.conclude draft
        let rest ← Decoder.closing 0x5d rest
        return (a, rest)
    else if first = 0x7b then
      match depth with
      | 0 => .error .grammar
      | depth + 1 => do
        let (draft, rest) ← record.fillByName depth (rest.length + 1) true record.blank rest
        let a ← record.conclude draft
        let rest ← Decoder.closing 0x7d rest
        return (a, rest)
    else .error (mismatch (first :: rest))

end Record

/-- Reads a whole text. -/
def Decoder.run {α : Type} (read : Decoder α) (bytes : Bytes) : Except Fault α :=
  match read maxDepth bytes with
  | .error fault => .error fault
  | .ok (a, rest) =>
    match skipBlanks rest with
    | [] => .ok a
    | _ => .error .grammar

end BoardDebug.Json
