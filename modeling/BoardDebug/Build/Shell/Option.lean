import BoardDebug.Build.Shell.State

namespace BoardDebug.Build.Shell.Script

/-- The options that have names, with their letters. -/
def optionNames : Dialect → List (String × Option Char)
  | .sh =>
    [("errexit", some 'e'), ("noglob", some 'f'), ("ignoreeof", some 'I'),
      ("interactive", some 'i'), ("monitor", some 'm'), ("noexec", some 'n'), ("stdin", some 's'),
      ("xtrace", some 'x'), ("verbose", some 'v'), ("vi", some 'V'), ("emacs", some 'E'),
      ("noclobber", some 'C'), ("allexport", some 'a'), ("notify", some 'b'),
      ("nounset", some 'u'), ("privileged", some 'p'), ("nolog", none), ("debug", none)]
  | .bash =>
    [("allexport", some 'a'), ("braceexpand", some 'B'), ("emacs", none), ("errexit", some 'e'),
      ("errtrace", some 'E'), ("functrace", some 'T'), ("hashall", some 'h'),
      ("histexpand", some 'H'), ("history", none), ("ignoreeof", none),
      ("interactive-comments", none), ("keyword", some 'k'), ("monitor", some 'm'),
      ("noclobber", some 'C'), ("noexec", some 'n'), ("noglob", some 'f'), ("nolog", none),
      ("notify", some 'b'), ("nounset", some 'u'), ("onecmd", some 't'), ("physical", some 'P'),
      ("pipefail", none), ("posix", none), ("privileged", some 'p'), ("verbose", some 'v'),
      ("vi", none), ("xtrace", some 'x')]

/-- The options of a shell that have no letters. -/
def shellFeatures : List String :=
  ["autocd", "assoc_expand_once", "cdable_vars", "cdspell", "checkhash", "checkjobs",
    "checkwinsize", "cmdhist", "compat31", "compat32", "compat40", "compat41", "compat42",
    "compat43", "compat44", "complete_fullquote", "direxpand", "dirspell", "dotglob", "execfail",
    "expand_aliases", "extdebug", "extglob", "extquote", "failglob", "force_fignore",
    "globasciiranges", "globskipdots", "globstar", "gnu_errfmt", "histappend", "histreedit",
    "histverify", "hostcomplete", "huponexit", "inherit_errexit", "interactive_comments",
    "lastpipe", "lithist", "localvar_inherit", "localvar_unset", "login_shell", "mailwarn",
    "no_empty_cmd_completion", "nocaseglob", "nocasematch", "noexpand_translation", "nullglob",
    "patsub_replacement", "progcomp", "progcomp_alias", "promptvars", "restricted_shell",
    "shift_verbose", "sourcepath", "varredir_close", "xpg_echo"]

/-- Those of them that are on at first. -/
def firstFeatures : List String :=
  ["checkwinsize", "cmdhist", "complete_fullquote", "extquote", "force_fignore",
    "globasciiranges", "globskipdots", "hostcomplete", "interactive_comments",
    "patsub_replacement", "progcomp", "promptvars", "sourcepath"]

def setOption (isOn : Bool) (letter : Char) : Script Unit :=
  modify fun s =>
    let others := s.options.filter (· ≠ letter)
    { s with options := if isOn then letter :: others else others }

def setFeature (isOn : Bool) (name : String) : Script Unit :=
  modify fun s =>
    let others := s.features.filter (· ≠ name)
    { s with features := if isOn then name :: others else others }

/-- Whether an option is on that has a name. -/
def isOptionOn (s : State) (name : String) (letter : Option Char) : Bool :=
  match letter with
  | some letter => s.has letter || s.isBash && (letter == 'B' || letter == 'h')
  | none => s.features.contains name || s.isBash && name == "interactive-comments"

/-- The long options of a shell that starts. -/
def longOptions : List String :=
  ["debug", "debugger", "dump-po-strings", "dump-strings", "help", "init-file", "login",
    "noediting", "noprofile", "norc", "posix", "pretty-print", "rcfile", "restricted", "verbose",
    "version"]

/-- Refuses to start with an option that is not known. -/
def refuseStart {α : Type} (option : String) : Script α := do
  let name := (← get).name
  let start := name ++ " [GNU long option] [option] "
  warn (name ++ ": " ++ option ++ ": invalid option\n" ++
    "Usage:\t" ++ start ++ "...\n\t" ++ start ++ "script-file ...\nGNU long options:\n" ++
    String.join (longOptions.map fun word => "\t--" ++ word ++ "\n") ++
    "Shell options:\n\t-ilrsD or -c command or -O shopt_option\t\t(invocation only)\n" ++
    "\t-abefhkmnptuvxBCEHPT or -o option\n")
  throw (.exited 2)

/-- Sets an option by its letter. A shell that starts knows more of them. -/
def setLetter (atStart isOn : Bool) (letter : Char) : Script Unit := do
  let s ← get
  let isKnown := (optionNames s.dialect).any fun (_, l) => l == some letter
  let isExtra := atStart && ['c', 'l', 's', 'i'].contains letter
  if letter = 'o' ∨ (letter = 'O' ∧ s.isBash) then return ()
  else if isKnown ∨ isExtra then setOption isOn letter
  else if s.isBash then
    let sign := if isOn then "-" else "+"
    if atStart then refuseStart (sign ++ String.singleton letter)
    note (sign ++ String.singleton letter ++ ": invalid option") 2
    warn "set: usage: set [-abefhkmnptuvxBCEHPT] [-o option-name] [--] [-] [arg ...]\n"
    throw (.refused 2)
  else refuse ("Illegal option -" ++ String.singleton letter) 2

def setNamed (atStart isOn : Bool) (name : String) : Script Unit := do
  let s ← get
  match look name (optionNames s.dialect) with
  | some (some letter) => setOption isOn letter
  | some none => setFeature isOn name
  | none =>
    if s.isBash then
      let start := if atStart then s.name ++ ": " else ""
      refuse (start ++ name ++ ": invalid option name") 2
    else refuse ("Illegal option -o " ++ name) 2

/-- Writes which options are on, or how they are set. -/
def tellOptions (isOn : Bool) : Script Unit := do
  let s ← get
  let isBash := s.isBash
  let lines := (optionNames s.dialect).map fun (name, letter) =>
    let isSet := isOptionOn s name letter
    if isOn then
      let width := if isBash then 15 else 16
      let filled := name ++ String.ofList (List.replicate (width - name.length) ' ')
      filled ++ (if isBash then "\t" else "") ++ (if isSet then "on\n" else "off\n")
    else "set " ++ (if isSet then "-o " else "+o ") ++ name ++ "\n"
  let title := if isOn && !isBash then "Current option settings\n" else ""
  let _ ← write 1 (Octets.bytes (title ++ String.join lines))

/-- Sets options. The first `named` words are names of options to be set as the last one was; the
result is the arguments behind them all, if there are new ones. -/
def options (atStart : Bool) : (named : Nat) → (isOn : Bool) → List String →
    Script (Option (List String))
  | 0, _, [] => return none
  | _, isOn, [] => do
    tellOptions isOn
    return none
  | named + 1, isOn, name :: rest => do
    setNamed atStart isOn name
    options atStart named isOn rest
  | 0, _, word :: rest => do
    match word.toList with
    | ['-'] =>
      setOption false 'x'
      setOption false 'v'
      return if rest.isEmpty then none else some rest
    | ['-', '-'] => return some rest
    | '-' :: '-' :: name =>
      if atStart ∧ (← get).isBash then
        let name := String.ofList name
        if !longOptions.contains name then refuseStart ("--" ++ name)
        setFeature true name
        options atStart 0 true rest
      else
        setLetter atStart true '-'
        return none
    | '-' :: letters =>
      letters.forM (setLetter atStart true)
      options atStart (letters.count 'o') true rest
    | '+' :: letters =>
      letters.forM (setLetter atStart false)
      options atStart (letters.count 'o') false rest
    | _ => return some (word :: rest)

end BoardDebug.Build.Shell.Script
