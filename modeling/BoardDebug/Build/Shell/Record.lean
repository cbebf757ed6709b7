import BoardDebug.Build.Shell.Record.Run

namespace BoardDebug.Build.Shell.Record

/-- What the words say that start a program for records. -/
structure Plan where
  separator : Option String := none
  /-- The values that names get at first. -/
  values : List (String × Value) := []
  /-- The files with the program, if it is not among the words. -/
  files : List String := []
  arguments : List String := []

/-- Reads words up to the first one that is no option. -/
def Plan.read : Nat → List String → Plan → Except String Plan
  | 0, _, plan => .ok plan
  | _, [], plan => .ok plan
  | fuel + 1, word :: rest, plan =>
    match word.toList with
    | ['-', '-'] => .ok { plan with arguments := rest }
    | '-' :: c :: inner =>
      if !(['F', 'v', 'f', 'W'].contains c) then .error ("not an option: " ++ word)
      else
        match if inner.isEmpty then rest.head? else some (String.ofList inner) with
        | none => .error ("option -" ++ String.singleton c ++ " lacks argument")
        | some text =>
          let go (plan : Plan) : Except String Plan :=
            Plan.read fuel (if inner.isEmpty then rest.tail else rest) plan
          match c with
          | 'F' =>
            let chars := text.toList
            let sign := String.ofList (Scan.unescape (chars.length + 1) chars)
            go { plan with separator := some sign }
          | 'v' =>
            match Act.assignment? text with
            | some pair => go { plan with values := plan.values ++ [pair] }
            | none => .error ("improper assignment: -v " ++ text)
          | 'f' => go { plan with files := plan.files ++ [text] }
          | _ => go plan
    | _ => .ok { plan with arguments := word :: rest }

/-- What names stand for if nobody says otherwise. -/
def usualValues : List (String × Value) :=
  [("FS", .text " "), ("OFS", .text " "), ("RS", .text "\n"), ("ORS", .text "\n"),
    ("SUBSEP", .text "\x1c"), ("CONVFMT", .text "%.6g"), ("OFMT", .text "%.6g"),
    ("NR", .number 0.0), ("FNR", .number 0.0), ("RSTART", .number 0.0),
    ("RLENGTH", .number (-1.0))]

/-- Lets names stand for what is known at first. -/
def Plan.prepare (plan : Plan) (arguments : List String) : Act Unit := do
  usualValues.forM fun (name, v) => Act.setGlobal name v
  let time := (← Act.inShell get).machine.files.time / Date.second
  modify fun m => { m with seed := time.natAbs, previousSeed := .number (Float.ofInt time) }
  let words := "awk" :: arguments
  Act.setGlobal "ARGC" (.ofNat words.length)
  let argv ← Act.tableOf "ARGV"
  Act.setTable argv <| words.zipIdx.foldl
    (fun (t : Table) (word, i) => t.put (.number i) (.read word)) {}
  let s ← Act.inShell get
  let environ ← Act.tableOf "ENVIRON"
  let known := s.bindings.reverse.filter fun (name, _) => s.exported.contains name
  Act.setTable environ <| known.foldl
    (fun (t : Table) (name, value) => t.put (.text name) (.read ((value.content?).getD ""))) {}
  if let some separator := plan.separator then Act.setGlobal "FS" (.text separator)
  plan.values.forM fun (name, v) => Act.setValue name v

/-- Runs a program on records. -/
def run (start : Script.Start) (words : List String) : Script ExitStatus := do
  let refuse (text : String) : Script ExitStatus := do
    Script.warn ("awk: " ++ text ++ "\n")
    return .exited 2
  match Plan.read (words.length + 1) words {} with
  | .error text => refuse text
  | .ok plan =>
    let sources ← plan.files.mapM fun path => do
      if path = "-" ∨ path = "/dev/stdin" then
        let bytes ← Script.available 0
        Script.consume 0 bytes.length
        return (path, Except.ok bytes)
      else return (path, (← get).machine.files.contents path)
    match sources.find? fun (_, found) => !found.isOk with
    | some (path, .error fault) =>
      refuse ("cannot open \"" ++ path ++ "\" (" ++ Tool.reason fault ++ ")")
    | _ =>
      let texts := sources.map fun (_, found) => Octets.text (found.toOption.getD [])
      let (text, arguments) := match plan.files, plan.arguments with
        | [], [] => ("", [])
        | [], text :: arguments => (text, arguments)
        | _, arguments => ("\n".intercalate texts, arguments)
      match Program.read text with
      | .error text => refuse text
      | .ok program =>
        let act : Act Unit := do
          plan.prepare arguments
          tryCatch Act.whole fun _ => return ()
          Act.finish
        let (_, memory) ← (ExceptT.run act).run { program, start }
        return .exited memory.status

end BoardDebug.Build.Shell.Record
