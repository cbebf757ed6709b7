import BoardDebug.Build.Shell.State
import BoardDebug.Build.Tool.Condition

namespace BoardDebug.Build.Shell

/-- A text in quotes, as a shell writes it so that it can be read again. -/
def quotedFor (dialect : Dialect) (text : String) : String :=
  match dialect with
  | .bash => "'" ++ "'\\''".intercalate (text.splitOn "'") ++ "'"
  | .sh => String.ofList (go (text.length + 1) text.toList)
where
  go : Nat → List Char → List Char
    | 0, _ => []
    | fuel + 1, text =>
      let plain := text.takeWhile (· ≠ '\x27')
      let rest := text.drop plain.length
      let quotes := rest.takeWhile (· = '\x27')
      let first := '\x27' :: plain ++ ['\x27']
      if quotes.isEmpty then first
      else
        let behind := rest.drop quotes.length
        first ++ '"' :: quotes ++ '"' :: (if behind.isEmpty then [] else go fuel behind)

namespace Script

/-- The number that a word spells, or a refusal. -/
def number (word : String) : Script Nat := do
  let isBash := (← get).isBash
  match Condition.integer word with
  | .ok n =>
    if 0 ≤ n ∧ n < 0x80000000 then return n.toNat
    else if isBash then return (n.emod 0x100000000).toNat
    else refuse ("Illegal number: " ++ word) 2
  | .error text => refuse (if isBash then word ++ ": numeric argument required" else text) 2

/-- The first argument as a number, if there is one. -/
def number? (words : List String) : Script (Option Nat) := do
  match words with
  | word :: _ => return some (← number word)
  | [] => return none

/-- The signals that only one of the languages knows: those that stand for failures and ends of
functions, and with the letters in front that all names may have. -/
def signalNumber? (isBash : Bool) (spelling : String) : Option Nat :=
  let upper := spelling.toUpper
  if !isBash then Signal.number? spelling
  else if upper = "ERR" then some 65
  else if upper = "DEBUG" then some 66
  else if upper = "RETURN" then some 67
  else Signal.number? (if upper.startsWith "SIG" then (upper.drop 3).toString else spelling)

/-- The name of a signal in a list of traps. -/
def trapName (isBash : Bool) (number : Nat) : String :=
  match isBash, number with
  | true, 65 => "ERR"
  | true, 66 => "DEBUG"
  | true, 67 => "RETURN"
  | true, 0 => "EXIT"
  | true, n => "SIG" ++ Signal.nameOf n
  | false, 16 => "16"
  | false, n => Signal.nameOf n

/-- Writes the scripts that have been set for signals. -/
def tellTraps (only : List Nat) : Script Unit := do
  let s ← get
  let shown := (s.traps.filter fun (n, _) => only.isEmpty || only.contains n).mergeSort
    fun a b => a.1 ≤ b.1
  let lines := shown.map fun (n, text) =>
    "trap -- " ++ quotedFor s.dialect text ++ " " ++ trapName s.isBash n ++ "\n"
  let _ ← write 1 (Octets.bytes (String.join lines))
  setStatus 0

/-- Sets scripts for signals, or takes them away. -/
def trap (words : List String) : Script Unit := do
  let isBash := (← get).isBash
  match words with
  | "--" :: words => go isBash words
  | "-p" :: words =>
    if isBash then tellTraps (words.filterMap (signalNumber? true))
    else refuse "Illegal option -p" 2
  | "-l" :: _ => if isBash then setStatus 0 else refuse "Illegal option -l" 2
  | word :: _ =>
    if word.startsWith "-" ∧ 1 < word.length then
      if isBash then note (word ++ ": invalid option") 2
      else refuse ("Illegal option -" ++ ((word.drop 1).take 1).toString) 2
    else go isBash words
  | [] => tellTraps []
where
  go (isBash : Bool) (words : List String) : Script Unit := do
    match words with
    | [] => tellTraps []
    | first :: signals =>
      let resets := signals.isEmpty || (!isBash && (signalNumber? false first).isSome) ||
        (Text.digits? 10 first.toList).isSome
      if resets then each isBash "-" words else each isBash first signals
  each (isBash : Bool) (text : String) : List String → Script Unit
    | [] => setStatus 0
    | signal :: rest => do
      match signalNumber? isBash signal with
      | some number =>
        modify fun s =>
          let others := s.traps.filter fun (n, _) => n ≠ number
          { s with traps := if text = "-" then others else (number, text) :: others }
        each isBash text rest
      | none =>
        if isBash then
          complain (signal ++ ": invalid signal specification")
          each isBash text rest
        else warn ("trap: " ++ signal ++ ": bad trap\n")
        setStatus 1

end Script

end BoardDebug.Build.Shell
