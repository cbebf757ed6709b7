import BoardDebug.Build.Tool.Usage

namespace BoardDebug.Build.Tool

/-- Refuses words that are no options. -/
def withoutOperands (tool : String) (usage : Usage) : Work Unit := do
  if let some extra := usage.operands.head? then
    misuse tool ("extra operand " ++ quoted extra) 1

/-- Writes a text that no option changes. -/
def sayAlways (tool text : String) (arguments : List String) : Work Unit := do
  let usage ← (⟨tool, "", [], false, 1⟩ : Manual).usage arguments
  withoutOperands tool usage
  Work.say (text ++ "\n")

/-- The only user there is. -/
def owner : String := "root"

/-- Complains that there is no such user, if there is none. -/
def isUser (tool name : String) : Work Bool := do
  if name = owner ∨ name = "0" then return true
  else
    Work.complain (tool ++ ": " ++ quoted name ++ ": no such user")
    return false

/-- Writes the numbers and names of users. -/
def identify (arguments : List String) : Work Unit := do
  let manual : Manual := ⟨"id", "agnruzGZ",
    [("context", .nothing, 'Z'), ("group", .nothing, 'g'), ("groups", .nothing, 'G'),
      ("name", .nothing, 'n'), ("real", .nothing, 'r'), ("user", .nothing, 'u'),
      ("zero", .nothing, 'z')], false, 1⟩
  let usage ← manual.usage arguments
  let refuse (text : String) : Work Unit := do
    Work.complain ("id: " ++ text)
    Work.stop
  let chosen := ['u', 'g', 'G'].filter usage.has
  if usage.has 'Z' then refuse "--context (-Z) works only on an SELinux-enabled kernel"
  if 1 < chosen.length then refuse "cannot print \"only\" of more than one choice"
  if chosen.isEmpty ∧ usage.hasAny "nr" then
    refuse "cannot print only names or real IDs in default format"
  if chosen.isEmpty ∧ usage.has 'z' then refuse "option --zero not permitted in default format"
  let all := "uid=0(root) gid=0(root) groups=0(root)"
  let text := if chosen.isEmpty then all else if usage.has 'n' then owner else "0"
  (if usage.operands.isEmpty then [owner] else usage.operands).forM fun name => do
    if ← isUser "id" name then Work.say (text ++ (if usage.has 'z' then "\x00" else "\n"))

def whoami : List String → Work Unit :=
  sayAlways "whoami" owner

def arch : List String → Work Unit :=
  sayAlways "arch" "x86_64"

/-- Writes the groups of users. -/
def groups (arguments : List String) : Work Unit := do
  let usage ← (⟨"groups", "", [], false, 1⟩ : Manual).usage arguments
  if usage.operands.isEmpty then Work.say (owner ++ "\n")
  else usage.operands.forM fun name => do
    if ← isUser "groups" name then Work.say (name ++ " : " ++ owner ++ "\n")

/-- Complains that nobody has logged in. -/
def logname (arguments : List String) : Work Unit := do
  let usage ← (⟨"logname", "", [], false, 1⟩ : Manual).usage arguments
  withoutOperands "logname" usage
  Work.complain "logname: no login name"

/-- Tells that nobody sits in front of what is there to be read. -/
def tty (arguments : List String) : Work Unit := do
  let manual : Manual :=
    ⟨"tty", "s", [("quiet", .nothing, 's'), ("silent", .nothing, 's')], false, 2⟩
  let usage ← manual.usage arguments
  if let some extra := usage.operands.head? then
    misuse "tty" ("extra operand " ++ quoted extra) 2
  if !usage.has 's' then Work.say "not a tty\n"
  Work.setStatus 1

/-- What is known of the system, by the letters that ask for it. -/
def systemNames : List (Char × String) :=
  [('s', "Linux"), ('n', "localhost"), ('r', "6.1.0"), ('v', "#1 SMP"), ('m', "x86_64"),
    ('p', "unknown"), ('i', "unknown"), ('o', "GNU/Linux")]

/-- Writes what is known of the system. -/
def uname (arguments : List String) : Work Unit := do
  let manual : Manual := ⟨"uname", "asnrvmpio",
    [("all", .nothing, 'a'), ("kernel-name", .nothing, 's'), ("nodename", .nothing, 'n'),
      ("kernel-release", .nothing, 'r'), ("kernel-version", .nothing, 'v'),
      ("machine", .nothing, 'm'), ("processor", .nothing, 'p'),
      ("hardware-platform", .nothing, 'i'), ("operating-system", .nothing, 'o')], false, 1⟩
  let usage ← manual.usage arguments
  withoutOperands "uname" usage
  let isAsked (letter : Char) (name : String) : Bool :=
    if usage.has 'a' then name != "unknown"
    else usage.has letter || (usage.given.isEmpty && letter == 's')
  let names := (systemNames.filter fun (letter, name) => isAsked letter name).map (·.2)
  Work.say (" ".intercalate names ++ "\n")

end BoardDebug.Build.Tool
