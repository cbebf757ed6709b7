import Std.Data.HashMap
import BoardDebug.Build.Shell.Record.Fields
import BoardDebug.Build.Shell.Record.Value
import BoardDebug.Build.Shell.Redirect
import BoardDebug.Build.Shell.Start

namespace BoardDebug.Build.Shell.Record

/-- A table of values by keys. It also keeps the order in which a loop goes through the keys: they
lie in slots, in which one that is looked up by its text comes to the front. Keys that have only
been used as numbers lie in slots of their own, until texts are asked for. -/
structure Table where
  values : Std.HashMap String Value := {}
  /-- The keys by a sum of their characters. -/
  texts : Array (List String) := Array.replicate 64 []
  /-- The keys that were used as numbers, by these. -/
  numbers : Array (List Int) := Array.replicate 64 []
  /-- Whether all keys lie in the slots for texts. -/
  hasTexts : Bool := false

namespace Table

def size (t : Table) : Nat :=
  t.values.size

/-- The sum of the characters of a key. -/
def hashOf (key : String) : Nat :=
  (key.toList.foldl (fun (h : UInt32) c => (h ^^^ .ofNat c.toNat) * 16777619) 2166136261).toNat

def textSlot (t : Table) (key : String) : Nat :=
  hashOf key % max 1 t.texts.size

def numberSlot (t : Table) (n : Int) : Nat :=
  (n % (max 1 t.numbers.size : Nat)).toNat

/-- Puts an item in front of all others. -/
def toFront {α : Type} [BEq α] (item : α) (items : List α) : List α :=
  item :: items.filter (· != item)

/-- How many keys there may be for each slot. -/
def crowd : Nat := 12

/-- Doubles the slots if there are too many keys. -/
def spread (t : Table) : Table :=
  let count := t.texts.size
  if t.size ≤ count * crowd then t
  else
    let split {α : Type} (slots : Array (List α)) (isUpper : α → Bool) : Array (List α) :=
      slots.map (·.filter (!isUpper ·)) ++ slots.map (·.filter isUpper)
    { t with
      texts := split t.texts fun key => count ≤ hashOf key % (2 * count)
      numbers := split t.numbers fun n => (count : Int) ≤ n % (2 * count : Nat) }

/-- Looks a key up as a text; a new one is put into its slot. -/
def touchText (t : Table) (key : String) : Table :=
  { t with texts := t.texts.modify (t.textSlot key) (toFront key) }

/-- Puts the keys that were only used as numbers among the texts. -/
def withTexts (t : Table) : Table :=
  if t.hasTexts then t
  else
    let all := t.numbers.toList.flatten
    let known := all.foldl
      (fun (t : Table) n =>
        let key := toString n
        { t with texts := t.texts.modify (t.textSlot key) fun keys =>
            if keys.contains key then keys else key :: keys })
      t
    { known with hasTexts := true }

/-- Looks a number up. -/
def touchNumber (t : Table) (n : Int) : Table :=
  let isKnown := ((t.numbers[t.numberSlot n]?).getD []).contains n
  let t := if !isKnown ∧ t.hasTexts then t.touchText (toString n) else t
  { t with numbers := t.numbers.modify (t.numberSlot n) (toFront n) }

/-- A key as it is looked up: as a number, or as a text. -/
inductive Key where
  | number (n : Int)
  | text (s : String)

def Key.spelled : Key → String
  | number n => toString n
  | text s => s

def Key.ofValue (format : String) : Value → Key
  | .number x =>
    match (integer? x).filter fun n => n.natAbs < 0x7fffffff with
    | some n => .number n
    | none => .text ((Value.number x).toText format)
  | value => .text (value.toText format)

/-- Looks up a key that is there. -/
def touch (t : Table) : Key → Table
  | .number n => t.touchNumber n
  | .text s => t.withTexts.touchText s

def get? (t : Table) (key : Key) : Option Value :=
  t.values[key.spelled]?

def contains (t : Table) (key : Key) : Bool :=
  t.values.contains key.spelled

def put (t : Table) (key : Key) (value : Value) : Table :=
  let isNew := !t.contains key
  let touched := t.touch key
  let t := { touched with values := touched.values.insert key.spelled value }
  if isNew then t.spread else t

def remove (t : Table) (key : Key) : Table :=
  let name := key.spelled
  if !t.values.contains name then t
  else
    { t with
      values := t.values.erase name
      texts := t.texts.modify (t.textSlot name) (·.filter (· ≠ name))
      numbers := match name.toInt? with
        | some n => t.numbers.modify (t.numberSlot n) (·.filter (· ≠ n))
        | none => t.numbers }

/-- The keys in the order in which a loop goes through them. -/
def keys (t : Table) : List String :=
  t.withTexts.texts.toList.flatten

/-- A table of values that are numbered from one on. -/
def ofList (values : List Value) : Table :=
  values.zipIdx.foldl
    (fun (t : Table) (value, i) =>
      let n : Int := i + 1
      { t with
        values := t.values.insert (toString n) value
        numbers := t.numbers.modify (t.numberSlot n) (n :: ·) })
    {}

end Table

/-- What a name stands for. -/
inductive Binding where
  | value (v : Value)
  /-- A table, by its number. -/
  | table (number : Nat)
  /-- Nothing yet; if it is used as a table, it is this one. -/
  | either (number : Nat)

/-- Something that lines are written to. -/
structure Writer where
  name : String
  isCommand : Bool
  flow : Nat
  /-- What has not arrived there yet, the latest first. -/
  pending : List Bytes := []

/-- Something besides the files of records that lines are read from. -/
structure Source where
  name : String
  isCommand : Bool
  rest : List Char
  status : Nat := 0

/-- All that a program works with. -/
structure Memory where
  program : Program
  /-- What starts other programs. -/
  start : Script.Start
  globals : Std.HashMap String Binding := {}
  /-- What the parameters of the functions at work stand for, the innermost first. -/
  frames : List (Std.HashMap String Binding) := []
  tables : Array Table := #[]
  record : List Char := []
  /-- How the record is split; none if it has been. -/
  gap : Option Gap := none
  fields : Array Value := #[]
  /-- What is left of the file of records, if one is open. -/
  input : Option (List Char) := none
  /-- The number of the next argument, and whether one of them was a file. -/
  nextArgument : Nat := 1
  hasRead : Bool := false
  isAtEnd : Bool := false
  /-- What has not been written yet, the latest first. -/
  pending : List Bytes := []
  writers : List Writer := []
  sources : List Source := []
  /-- The ranges in which the last record was. -/
  ranges : List Nat := []
  seed : Nat := 0
  previousSeed : Value := .number 0.0
  status : Nat := 0

/-- Why a program does not go on with the next statement. -/
inductive Leaving where
  | next
  | nextFile
  | exit
  | break
  | continue
  | return (v : Value)
  /-- A complaint ends the program. -/
  | failed

abbrev Act := ExceptT Leaving (StateT Memory Script)

namespace Act

def inShell {α : Type} (act : Script α) : Act α :=
  liftM (m := StateT Memory Script) (liftM act)

/-- Complains and gives up. -/
def abort {α : Type} (text : String) : Act α := do
  inShell (Script.warn ("awk: " ++ text ++ "\n"))
  modify fun m => { m with status := 2 }
  throw .failed

/-- The binding of a name: that of a parameter, or the one that all share. -/
def binding? (name : String) : Act (Option Binding) := do
  let m ← get
  match m.frames.head?.bind fun (frame : Std.HashMap String Binding) => frame[name]? with
  | some b => return some b
  | none => return m.globals[name]?

def bind (name : String) (b : Binding) : Act Unit :=
  modify fun m =>
    match m.frames with
    | frame :: frames =>
      if frame.contains name then { m with frames := frame.insert name b :: frames }
      else { m with globals := m.globals.insert name b }
    | [] => { m with globals := m.globals.insert name b }

/-- What a name stands for in all functions. -/
def global (name : String) : Act Value := do
  match (← get).globals[name]? with
  | some (.value v) => return v
  | _ => return .unset

def setGlobal (name : String) (v : Value) : Act Unit :=
  modify fun m => { m with globals := m.globals.insert name (.value v) }

/-- The text that a name stands for in all functions. -/
def globalText (name : String) : Act String := do
  return (← global name).toText "%.6g"

/-- The text of a value inside an expression. -/
def textOf (v : Value) : Act String := do
  match v with
  | .number _ => return v.toText (← globalText "CONVFMT")
  | v => return v.toText ""

/-- A complaint while the program runs, with the place in the records. -/
def fail {α : Type} (text : String) : Act α := do
  let file ← globalText "FILENAME"
  let within ← globalText "FNR"
  let all ← globalText "NR"
  let place := "\tFILENAME=\"" ++ file ++ "\" FNR=" ++ within ++ " NR=" ++ all
  abort ("run time error: " ++ text ++ "\n" ++ place)

/-- The number of the table that a name stands for. -/
def tableOf (name : String) : Act Nat := do
  match ← binding? name with
  | some (.table number) => return number
  | some (.either number) =>
    bind name (.table number)
    return number
  | _ =>
    let number := (← get).tables.size
    modify fun m => { m with tables := m.tables.push {} }
    bind name (.table number)
    return number

def table (number : Nat) : Act Table := do
  return ((← get).tables[number]?).getD {}

def setTable (number : Nat) (t : Table) : Act Unit :=
  modify fun m => { m with tables := m.tables.setIfInBounds number t }

/-- The gap that a text asks for, or a complaint that it asks for none. -/
def gapOf (gap : Except String Gap) : Act Gap := do
  match gap with
  | .ok gap => return gap
  | .error text => fail text

def setRecord (record : List Char) : Act Unit := do
  let gap ← gapOf (Gap.ofFields (← globalText "FS"))
  modify fun m => { m with record, gap := some gap, fields := #[] }

/-- The fields of the record. -/
def fields : Act (Array Value) := do
  let m ← get
  match m.gap with
  | none => return m.fields
  | some gap =>
    let fields := ((gap.parts m.record).map fun part => Value.read (String.ofList part)).toArray
    set { m with fields, gap := none }
    return fields

/-- Makes the record of fields. -/
def setFields (fields : Array Value) : Act Unit := do
  let texts ← fields.toList.mapM textOf
  let record := ((← globalText "OFS").intercalate texts).toList
  modify fun m => { m with record, fields, gap := none }

/-- The number of a field. -/
def fieldNumber (v : Value) : Act Nat := do
  match truncated? v.toNumber with
  | some n =>
    if n < 0 then fail ("negative field index $" ++ toString n)
    else return min n.toNat 32767
  | none => return 0

def field (n : Nat) : Act Value := do
  if n = 0 then return .read (String.ofList (← get).record)
  else return ((← fields)[n - 1]?).getD (.read "")

def setField (n : Nat) (v : Value) : Act Unit := do
  if n = 0 then setRecord (← textOf v).toList
  else
    let fields ← fields
    let missing := Array.replicate (n - fields.size) (Value.text "")
    setFields ((fields ++ missing).setIfInBounds (n - 1) v)

/-- Cuts the record off behind some field, or adds fields to it. -/
def setFieldCount (v : Value) : Act Unit := do
  match truncated? v.toNumber with
  | none => return ()
  | some n =>
    if n < 0 then fail "negative value assigned to NF"
    else
      let n := min n.toNat 32767
      let fields ← fields
      let missing := Array.replicate (n - fields.size) (Value.text "")
      setFields ((fields ++ missing).take n)

/-- What a name stands for. -/
def value (name : String) : Act Value := do
  if name = "NF" then return .ofNat (← fields).size
  else
    match ← binding? name with
    | some (.value v) => return v
    | _ => return .unset

def setValue (name : String) (v : Value) : Act Unit := do
  if name = "NF" then setFieldCount v else bind name (.value v)

/-- Lets an argument between the names of files set a name. -/
def assignment? (word : String) : Option (String × Value) :=
  match word.toList.span (· ≠ '=') with
  | (name, _ :: text) =>
    let isName := name.all Scan.isNameChar && name.head?.any fun c => !c.isDigit
    if isName then
      let value := Scan.unescape (text.length + 1) text
      some (String.ofList name, .read (String.ofList value))
    else none
  | _ => none

/-- Writes what has been put aside for the usual outlet. -/
def flush : Act Unit := do
  let pending := (← get).pending.reverse.flatten
  modify fun m => { m with pending := [] }
  let _ ← inShell (Script.write 1 pending)

/-- Writes what has been put aside for files. -/
def flushFiles : Act Unit := do
  (← get).writers.forM fun writer => do
    let bytes := writer.pending.reverse.flatten
    if !writer.isCommand then
      inShell (modify fun s => { s with machine := s.machine.write writer.flow bytes })
  modify fun m => { m with writers := m.writers.map fun writer =>
    if writer.isCommand then writer else { writer with pending := [] } }

def flushAll : Act Unit := do
  flush
  flushFiles

/-- Runs a command with other flows; the result is how it ended. -/
def command (numbers : List (Nat × Nat) → List (Nat × Nat)) (text : String) : Act Nat := do
  let start := (← get).start
  inShell do
    let own := (← get).numbers
    match ← Script.withNumbers (numbers own) (start "/bin/sh" ["-c", text]) with
    | .ok (.exited status) => return status
    | .ok (.signalled number _) => return 256 + number
    | .error _ => return 127

/-- Ends something that lines are written to. -/
def closeWriter (writer : Writer) : Act Nat := do
  let bytes := writer.pending.reverse.flatten
  if writer.isCommand then
    let flow ← inShell (Script.addFlow (.of bytes))
    command (Script.joinNumber 0 flow) writer.name
  else
    inShell (modify fun s => { s with machine := s.machine.write writer.flow bytes })
    return 0

/-- Ends all that has some name. -/
def close (name : String) : Act Int := do
  let m ← get
  set { m with
    writers := m.writers.filter (·.name ≠ name)
    sources := m.sources.filter (·.name ≠ name) }
  match m.writers.find? (·.name = name), m.sources.find? (·.name = name) with
  | some writer, _ => return (← closeWriter writer)
  | none, some source => return source.status
  | none, none => return -1

/-- Puts bytes aside for something that lines are written to. -/
def put (name : String) (isCommand appends : Bool) (bytes : Bytes) : Act Unit := do
  if !isCommand ∧ (name = "/dev/stdout" ∨ name = "-") then
    modify fun m => { m with pending := bytes :: m.pending }
  else if !isCommand ∧ name = "/dev/stderr" then
    let _ ← inShell (Script.write 2 bytes)
  else
    let m ← get
    match m.writers.find? fun writer => writer.name = name ∧ writer.isCommand = isCommand with
    | some writer =>
      let others := m.writers.filter fun w => !(w.name = name ∧ w.isCommand = isCommand)
      set { m with writers := { writer with pending := bytes :: writer.pending } :: others }
    | none =>
      let opened : Except String Nat ← if isCommand then do
          flush
          pure (.ok 0)
        else inShell (Script.openFile name (if appends then .append else .output))
      match opened with
      | .ok flow =>
        modify fun m => { m with writers := ⟨name, isCommand, flow, [bytes]⟩ :: m.writers }
      | .error _ =>
        let found := (← inShell get).machine.files.lookup true name
        let why := match found with
          | .error fault => Tool.reason fault
          | .ok _ => Tool.reason .isDirectory
        abort ("cannot open \"" ++ name ++ "\" for output (" ++ why ++ ")")

/-- What can be read from a file. -/
def contents (path : String) : Act (Except FileFault (List Char)) := inShell do
  if path = "-" ∨ path = "/dev/stdin" then
    let bytes ← Script.available 0
    Script.consume 0 bytes.length
    return .ok (Octets.ofBytes bytes)
  else return ((← get).machine.files.contents path).map Octets.ofBytes

/-- Makes a file or a command ready to be read. -/
def openSource (name : String) (isCommand : Bool) : Act (Option Source) := do
  match (← get).sources.find? fun source => source.name = name ∧ source.isCommand = isCommand with
  | some source => return some source
  | none =>
    if isCommand then
      flushAll
      let flow ← inShell (Script.addFlow (.bytes []))
      let status ← command (Script.joinNumber 1 flow) name
      let bytes := (← inShell get).machine.available flow
      return some ⟨name, true, Octets.ofBytes bytes, status⟩
    else
      match ← contents name with
      | .ok text => return some ⟨name, false, text, 0⟩
      | .error _ => return none

/-- The next line of a file or a command; nothing if that cannot be read. -/
def lineOf (name : String) (isCommand : Bool) : Act (Option (Option (List Char))) := do
  match ← openSource name isCommand with
  | none => return none
  | some source =>
    let others := (← get).sources.filter fun s => !(s.name = name ∧ s.isCommand = isCommand)
    let gap ← gapOf (Gap.ofRecords (← globalText "RS"))
    match gap.first? source.rest with
    | some (record, rest) =>
      modify fun m => { m with sources := { source with rest } :: others }
      return some (some record)
    | none =>
      modify fun m => { m with sources := source :: others }
      return some none

/-- Opens the next file of records. The result says whether there is one. -/
def openNext : Nat → Act Bool
  | 0 => return false
  | fuel + 1 => do
    let m ← get
    let count := (truncated? (← global "ARGC").toNumber).getD 0
    if m.isAtEnd then return false
    else if (m.nextArgument : Int) < count then
      let arguments ← tableOf "ARGV"
      let word? := (← table arguments).get? (.number m.nextArgument)
      let word ← textOf (word?.getD .unset)
      modify fun m => { m with nextArgument := m.nextArgument + 1 }
      if word = "" then openNext fuel
      else
        match assignment? word with
        | some (name, v) =>
          setValue name v
          openNext fuel
        | none =>
          let text ← match ← contents word with
            | .ok text => pure text
            | .error .isDirectory => abort "read error (Is a directory)"
            | .error fault => abort ("cannot open \"" ++ word ++ "\" (" ++ Tool.reason fault ++ ")")
          modify fun m => { m with input := some text, hasRead := true }
          setGlobal "FILENAME" (.text word)
          setGlobal "FNR" (.number 0.0)
          return true
    else if m.hasRead then
      set { m with isAtEnd := true }
      return false
    else
      let text ← contents "-"
      modify fun m => { m with input := some (text.toOption.getD []), hasRead := true }
      return true

/-- The next record. -/
def nextRecord : Nat → Act (Option (List Char))
  | 0 => return none
  | fuel + 1 => do
    match (← get).input with
    | none => if ← openNext 100000 then nextRecord fuel else return none
    | some text =>
      let gap ← gapOf (Gap.ofRecords (← globalText "RS"))
      match gap.first? text with
      | none =>
        modify fun m => { m with input := none }
        nextRecord fuel
      | some (record, rest) =>
        modify fun m => { m with input := some rest }
        setGlobal "NR" (.number ((← global "NR").toNumber + 1.0))
        setGlobal "FNR" (.number ((← global "FNR").toNumber + 1.0))
        return some record

end Act

end BoardDebug.Build.Shell.Record
