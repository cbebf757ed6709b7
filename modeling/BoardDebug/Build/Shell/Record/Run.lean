import BoardDebug.Build.Shell.Record.Format

namespace BoardDebug.Build.Shell.Record.Act

/-- The description that a value spells. -/
def describe (v : Value) : Act Regex := do
  match Parsing.describe (← textOf v) with
  | .ok (regex, _) => return regex
  | .error text => abort text

/-- What two numbers come to. -/
def arithmetic (sign : Char) (x y : Float) : Float :=
  match sign with
  | '+' => x + y
  | '-' => x - y
  | '*' => x * y
  | '/' => x / y
  | '%' => remainder x y
  | _ => Float.pow x y
where
  /-- What is left of a number that has been divided; it has the sign of that. -/
  remainder (x y : Float) : Float :=
    match numeral x, numeral y with
    | .finite isNegative a, .finite _ b =>
      let (n, d) := a.quotient
      let (m, e) := b.quotient
      if m = 0 then 0.0 / 0.0
      else
        let left := Magnitude.ofQuotient 53 (n * e % (m * d)) (d * e)
        floatOf (.finite isNegative left)
    | .finite _ _, .infinite _ => x
    | _, _ => 0.0 / 0.0

/-- The part of a text from a place on, which is counted from one. -/
def part (text : List Char) (start : Float) (length : Option Float) : List Char :=
  let first := Float.round start
  let last := (length.map fun n => Float.round (start + n)).getD (1.0 / 0.0)
  let low := max 1.0 first
  let high := min (Float.ofNat text.length + 1.0) last
  if low < high then
    let start := ((truncated? low).getD 1).toNat - 1
    let stop := ((truncated? high).getD 1).toNat - 1
    (text.take stop).drop start
  else []

/-- The place at which a part of a text begins, counted from one; zero if it has no such part. -/
def indexOf (sought : List Char) : Nat → List Char → Nat
  | n, text =>
    if sought.isPrefixOf text then n
    else
      match text with
      | [] => 0
      | _ :: rest => indexOf sought (n + 1) rest

/-- The next seed, and the number between zero and one that it gives. -/
def random (seed : Nat) : Nat × Float :=
  let next := (seed * 1103515245 + 12345) % 2147483648
  (next, Float.ofNat next / 2147483648.0)

/-- What a function comes to that only looks at values. -/
def compute (name : String) (values : List Value) : Act Value := do
  let first := values.headD .unset
  let second := (values[1]?).getD Value.unset
  let x := first.toNumber
  let texts ← values.mapM textOf
  let text := texts.headD ""
  match name with
  | "length" =>
    let record := (← get).record
    return .ofNat (if values.isEmpty then record.length else text.length)
  | "substr" =>
    let start := second.toNumber
    let length := (values[2]?).map Value.toNumber
    return .text (String.ofList (part text.toList start length))
  | "index" => return .ofNat (indexOf ((texts[1]?).getD "").toList 1 text.toList)
  | "sprintf" =>
    return .text (String.ofList (← format "sprintf" (fun _ => return ()) text values.tail))
  | "sin" => return .number (Float.sin x)
  | "cos" => return .number (Float.cos x)
  | "atan2" => return .number (Float.atan2 x second.toNumber)
  | "exp" => return .number (Float.exp x)
  | "log" => return .number (Float.log x)
  | "sqrt" => return .number (Float.sqrt x)
  | "int" => return .number (if x < 0.0 then Float.ceil x else Float.floor x)
  | "tolower" => return .text (String.ofList (text.toList.map Char.toLower))
  | "toupper" => return .text (String.ofList (text.toList.map Char.toUpper))
  | "rand" =>
    let (seed, x) := random (← get).seed
    modify fun m => { m with seed }
    return .number x
  | "srand" =>
    let old := (← get).previousSeed
    let seed := ((truncated? x).getD 0).natAbs
    modify fun m => { m with seed, previousSeed := first }
    return old
  | "system" =>
    flushAll
    return .ofNat (← command (fun own => own) text)
  | "close" => return .number (Float.ofInt (← close text))
  | "fflush" =>
    flushAll
    return .number 0.0
  | "systime" =>
    let time := (← inShell get).machine.files.time
    return .number (Float.ofInt (time / Date.second))
  | "strftime" =>
    let now := (← inShell get).machine.files.time
    let time := ((values[1]?).bind fun v => truncated? v.toNumber).map (· * Date.second)
    let format := if values.isEmpty then "%c" else text
    return .text (Date.write (time.getD now) format.toList)
  | _ => return .number (-1.0)

/-- The key that values make together. -/
def keyOf (values : List Value) : Act Table.Key := do
  match values with
  | [v] => return .ofValue (← globalText "CONVFMT") v
  | values =>
    let texts ← values.mapM textOf
    return .text ((← globalText "SUBSEP").intercalate texts)

/-- What is there under a key, which is there from then on. -/
def itemAt (name : String) (key : Table.Key) : Act Value := do
  let number ← tableOf name
  let t ← table number
  match t.get? key with
  | some v =>
    setTable number (t.touch key)
    return v
  | none =>
    setTable number (t.put key .unset)
    return .unset

def setItem (name : String) (key : Table.Key) (v : Value) : Act Unit := do
  let number ← tableOf name
  setTable number ((← table number).put key v)

/-- What an argument of a function stands for: a table, or a value. -/
def argument (eval : Expr → Act Value) (e : Expr) : Act Binding := do
  match e with
  | .target (.name name) =>
    match ← binding? name with
    | some (.table number) => return .table number
    | some (.either number) => return .either number
    | some (.value .unset) => fresh name
    | none => if name = "NF" then return .value (← value name) else fresh name
    | some (.value v) => return .value v
  | e => return .value (← eval e)
where
  fresh (name : String) : Act Binding := do
    let number := (← get).tables.size
    modify fun m => { m with tables := m.tables.push {} }
    bind name (.either number)
    return .either number

/-- Runs a function. -/
def call (run : Statement → Act Unit) (name : String) (arguments : List Binding) : Act Value := do
  match ((← get).program.functions.find? fun (n, _) => n = name).map (·.2) with
  | none => return .unset
  | some function =>
    let missing := List.replicate (function.parameters.length - arguments.length)
      (Binding.value .unset)
    let frame := Std.HashMap.ofList (function.parameters.zip (arguments ++ missing))
    modify fun m => { m with frames := frame :: m.frames }
    let back : Act Unit := modify fun m => { m with frames := m.frames.tail }
    let v ← tryCatch
      (do
        run function.body
        return Value.unset)
      fun
        | .return v => return v
        | leaving => do
          back
          throw leaving
    back
    return v

/-- Puts a line somewhere, and says whether there was one. -/
def takeLine (set' : Option (Value → Act Unit)) : Option (Option (List Char)) → Act Value
  | none => return .number (-1.0)
  | some none => return .number 0.0
  | some (some line) => do
    match set' with
    | some act => act (.read (String.ofList line))
    | none => setRecord line
    return .number 1.0

/-- A target whose keys have been evaluated. -/
inductive Spot where
  | name (name : String)
  | field (n : Nat)
  | item (table : String) (key : Table.Key)

def Spot.get : Spot → Act Value
  | name n => value n
  | field n => Act.field n
  | item table key => itemAt table key

def Spot.set (v : Value) : Spot → Act Unit
  | name n => setValue n v
  | field n => setField n v
  | item table key => setItem table key v

/-- Goes on as long as a condition holds. -/
def rounds (goesOn : Act Bool) (body : Act Unit) : Nat → Act Unit
  | 0 => inShell (throw .stuck)
  | fuel + 1 => do
    if ← goesOn then
      body
      rounds goesOn body fuel

/-- One round of a loop; the result says whether there may be another. -/
def round (body : Act Unit) : Act Bool :=
  tryCatch
    (do
      body
      return true)
    fun
      | .break => return false
      | .continue => return true
      | leaving => throw leaving

/-- More rounds than a loop has that ends. -/
def maxRounds : Nat := 1000000

/-- Goes through a loop. -/
def loop (goesOn : Act Bool) (step body : Act Unit) : Nat → Act Unit
  | 0 => inShell (throw .stuck)
  | fuel + 1 => do
    if ← goesOn then
      if ← round body then
        step
        loop goesOn step body fuel

/-- Writes a text to an outlet. -/
def write (eval : Expr → Act Value) (outlet : Outlet) (text : String) : Act Unit := do
  let bytes := Octets.bytes text
  match outlet with
  | .main => modify fun m => { m with pending := bytes :: m.pending }
  | .file path => put (← textOf (← eval path)) false false bytes
  | .append path => put (← textOf (← eval path)) false true bytes
  | .command e => put (← textOf (← eval e)) true false bytes

/-- The text of a value that is printed. -/
def printed (v : Value) : Act String := do
  match v with
  | .number _ => return v.toText (← globalText "OFMT")
  | v => return v.toText ""

mutual

def spot (fuel : Nat) (t : Target) : Act Spot :=
  match fuel with
  | 0 => inShell (throw .stuck)
  | fuel + 1 => do
    match t with
    | .name name => return .name name
    | .field e => return .field (← fieldNumber (← eval fuel e))
    | .item table keys => return .item table (← keyOf (← keys.mapM (eval fuel)))

/-- What an expression comes to. -/
def eval (fuel : Nat) (e : Expr) : Act Value :=
  match fuel with
  | 0 => inShell (throw .stuck)
  | fuel + 1 => do
    let regexOf (e : Expr) : Act Regex := do
      match e with
      | .regex regex _ => return regex
      | e => describe (← eval fuel e)
    match e with
    | .number x => return .number x
    | .text s => return .text s
    | .regex regex _ =>
      return .ofBool (regex.find? {} (← get).record 0).isSome
    | .target t => (← spot fuel t).get
    | .assign sign t e =>
      if sign = "=" then
        let v ← eval fuel e
        (← spot fuel t).set v
        return v
      else
        let spot ← spot fuel t
        let y := (← eval fuel e).toNumber
        let x := (← spot.get).toNumber
        let v := Value.number (arithmetic (sign.toList.headD '+') x y)
        spot.set v
        return v
    | .step isBefore by' t =>
      let spot ← spot fuel t
      let old := (← spot.get).toNumber
      let new := old + by'
      spot.set (.number new)
      return .number (if isBefore then new else old)
    | .unary sign e =>
      let v ← eval fuel e
      match sign with
      | '!' => return .ofBool !v.isTrue
      | '-' => return .number (-v.toNumber)
      | _ => return .number v.toNumber
    | .arithmetic sign a b =>
      let x := (← eval fuel a).toNumber
      let y := (← eval fuel b).toNumber
      return .number (arithmetic sign x y)
    | .compare sign a b =>
      let x ← eval fuel a
      let y ← eval fuel b
      return .ofBool (Value.relates (← globalText "CONVFMT") sign x y)
    | .join a b =>
      let x ← textOf (← eval fuel a)
      let y ← textOf (← eval fuel b)
      return .text (x ++ y)
    | .matches isNot text description =>
      let text ← textOf (← eval fuel text)
      let regex ← regexOf description
      return .ofBool ((regex.find? {} text.toList 0).isSome != isNot)
    | .both a b =>
      if (← eval fuel a).isTrue then return .ofBool (← eval fuel b).isTrue
      else return .ofBool false
    | .either a b =>
      if (← eval fuel a).isTrue then return .ofBool true
      else return .ofBool (← eval fuel b).isTrue
    | .choose condition yes no =>
      if (← eval fuel condition).isTrue then eval fuel yes else eval fuel no
    | .among keys name =>
      let key ← keyOf (← keys.mapM (eval fuel))
      return .ofBool ((← table (← tableOf name)).contains key)
    | .call name es => call (run fuel) name (← es.mapM (argument (eval fuel)))
    | .builtin "length" [.target (.name name)] =>
      match ← binding? name with
      | some (.table number) => return .ofNat (← table number).size
      | some (.either number) => return .ofNat (← table number).size
      | _ => compute "length" [← value name]
    | .builtin "split" (e :: .target (.name name) :: rest) =>
      let text ← textOf (← eval fuel e)
      let gap ← match rest with
        | [] => gapOf (Gap.ofFields (← globalText "FS"))
        | [.regex regex _] => pure (Gap.fits regex)
        | e :: _ => gapOf (Gap.ofFields (← textOf (← eval fuel e)))
      let parts := gap.parts text.toList
      let values := parts.map fun part => Value.read (String.ofList part)
      setTable (← tableOf name) (Table.ofList values)
      return .ofNat parts.length
    | .builtin "match" [e, description] =>
      let text ← textOf (← eval fuel e)
      let regex ← regexOf description
      let (start, length) := match regex.find? {} text.toList 0 with
        | some found => (found.start + 1, Float.ofNat (found.stop - found.start))
        | none => (0, -1.0)
      setGlobal "RSTART" (.ofNat start)
      setGlobal "RLENGTH" (.number length)
      return .ofNat start
    | .builtin "sub" (description :: e :: rest) => replace fuel false regexOf description e rest
    | .builtin "gsub" (description :: e :: rest) => replace fuel true regexOf description e rest
    | .builtin name es => compute name (← es.mapM (eval fuel))
    | .getline origin source t =>
      let set' : Option (Value → Act Unit) := t.map fun t => fun v => do
        let spot ← spot fuel t
        spot.set v
      match origin, source with
      | .main, _ =>
        match ← nextRecord 100000 with
        | none => return .number 0.0
        | some line => takeLine set' (some (some line))
      | origin, some e =>
        takeLine set' (← lineOf (← textOf (← eval fuel e)) (origin == .command))
      | _, none => return .number (-1.0)
    | .list es =>
      let values ← es.mapM (eval fuel)
      return values.getLastD .unset

/-- Puts a text in place of what fits a description, in the record or in something else. -/
def replace (fuel : Nat) (isAll : Bool) (regexOf : Expr → Act Regex) (description e : Expr)
    (rest : List Expr) : Act Value :=
  match fuel with
  | 0 => inShell (throw .stuck)
  | fuel + 1 => do
    let regex ← regexOf description
    let other ← textOf (← eval fuel e)
    let t : Option Target := match rest with
      | [] => some (.field (.number 0.0))
      | .target t :: _ => some t
      | _ => none
    match t, rest with
    | some t, _ =>
      let spot ← spot fuel t
      let text ← textOf (← spot.get)
      let (new, count) := replaceFits regex other.toList isAll text.toList
      if 0 < count then spot.set (.text (String.ofList new))
      return .ofNat count
    | none, e :: _ =>
      let text ← textOf (← eval fuel e)
      return .ofNat (replaceFits regex other.toList isAll text.toList).2
    | none, [] => return .number 0.0

/-- Runs a statement. -/
def run (fuel : Nat) (statement : Statement) : Act Unit :=
  match fuel with
  | 0 => inShell (throw .stuck)
  | fuel + 1 => do
    match statement with
    | .eval e =>
      let _ ← eval fuel e
    | .print es outlet =>
      let texts ← if es.isEmpty then pure [String.ofList (← get).record]
        else es.mapM fun e => do
          printed (← eval fuel e)
      let separator ← globalText "OFS"
      let ending ← globalText "ORS"
      write (eval fuel) outlet (separator.intercalate texts ++ ending)
    | .printf es outlet =>
      match ← es.mapM (eval fuel) with
      | [] => return ()
      | first :: values =>
        let give (text : List Char) : Act Unit := write (eval fuel) outlet (String.ofList text)
        give (← format "printf" give (← textOf first) values)
    | .branch condition yes no =>
      if (← eval fuel condition).isTrue then run fuel yes
      else
        match no with
        | some no => run fuel no
        | none => return ()
    | .loop condition body =>
      loop (holds fuel condition) (return ()) (run fuel body) maxRounds
    | .until body condition =>
      if ← round (run fuel body) then
        loop (holds fuel condition) (return ()) (run fuel body) maxRounds
    | .count start condition step body =>
      if let some start := start then run fuel start
      let goesOn : Act Bool := match condition with
        | some condition => holds fuel condition
        | none => return true
      let step : Act Unit := match step with
        | some step => run fuel step
        | none => return ()
      loop goesOn step (run fuel body) maxRounds
    | .each name table body =>
      let number ← tableOf table
      let known := (← Act.table number).withTexts
      setTable number known
      let _ ← known.keys.foldlM
        (fun goesOn key => do
          if goesOn then
            setValue name (.read key)
            round (run fuel body)
          else return false)
        true
    | .block body => body.forM (run fuel)
    | .next => throw .next
    | .nextFile => throw .nextFile
    | .exit status =>
      if let some e := status then
        let status := ((truncated? (← eval fuel e).toNumber).getD 0).emod 256
        modify fun m => { m with status := status.toNat }
      throw .exit
    | .return e =>
      match e with
      | some e => throw (.return (← eval fuel e))
      | none => throw (.return .unset)
    | .break => throw .break
    | .continue => throw .continue
    | .delete name keys =>
      let number ← tableOf name
      match keys with
      | some keys =>
        let key ← keyOf (← keys.mapM (eval fuel))
        setTable number ((← Act.table number).remove key)
      | none => setTable number {}

def holds (fuel : Nat) (condition : Expr) : Act Bool :=
  match fuel with
  | 0 => inShell (throw .stuck)
  | fuel + 1 => do
    return (← eval fuel condition).isTrue

end

/-- How deep expressions and calls of functions may be nested. -/
def maxDepth : Nat := 20000

/-- Whether a rule is meant by the record. -/
def isMeant : Condition → Act Bool
  | .always => return true
  | .holds e => return (← eval maxDepth e).isTrue
  | .range number first last => do
    let isOn ← if (← get).ranges.contains number then pure true
      else do pure (← eval maxDepth first).isTrue
    if !isOn then return false
    else
      let isLast := (← eval maxDepth last).isTrue
      modify fun m =>
        let others := m.ranges.filter (· ≠ number)
        { m with ranges := if isLast then others else number :: others }
      return true
  | _ => return false

/-- Runs the actions of all rules that are meant by the record. -/
def onRecord (rules : List Rule) : Act Unit := do
  rules.forM fun rule => do
    if ← isMeant rule.condition then run maxDepth rule.action

/-- Goes over all records. -/
def onRecords (rules : List Rule) : Nat → Act Unit
  | 0 => return ()
  | fuel + 1 => do
    match ← nextRecord 100000 with
    | none => return ()
    | some record =>
      setRecord record
      tryCatch (onRecord rules) fun
        | .next => return ()
        | .nextFile => modify fun m => { m with input := m.input.map fun _ => [] }
        | leaving => throw leaving
      onRecords rules fuel

/-- More records than there are. -/
def maxRecords : Nat := 10000000

/-- Runs a program from its beginning to its end. -/
def whole : Act Unit := do
  let rules := (← get).program.rules
  let starts := rules.filter fun rule => rule.condition matches .begin
  let stops := rules.filter fun rule => rule.condition matches .stop
  let others := rules.filter fun rule => !(rule.condition matches .begin | .stop)
  let ending (act : Act Unit) : Act Unit :=
    tryCatch act fun
      | .exit => return ()
      | leaving => throw leaving
  ending do
    starts.forM fun rule => run maxDepth rule.action
    if !others.isEmpty ∨ !stops.isEmpty then onRecords others maxRecords
  ending do
    stops.forM fun rule => run maxDepth rule.action

/-- Writes all that has been put aside. -/
def finish : Act Unit := do
  let writers := (← get).writers
  modify fun m => { m with writers := [] }
  (writers.filter (·.isCommand) ++ writers.filter (!·.isCommand)).forM fun writer => do
    let _ ← closeWriter writer
  flush

end BoardDebug.Build.Shell.Record.Act
