namespace BoardDebug.CommandLine

/-- Why a command line cannot be understood. -/
inductive UsageError where
  | unknownArgument
  /-- A value is missing or empty. -/
  | invalidValue
  /-- A value has the wrong form. -/
  | valueValidation
  /-- An option that may be given once is given twice. -/
  | argumentConflict
  | tooManyValues
  /-- Help was asked for. -/
  | displayHelp
deriving DecidableEq

def UsageError.name : UsageError → String
  | unknownArgument => "UnknownArgument"
  | invalidValue => "InvalidValue"
  | valueValidation => "ValueValidation"
  | argumentConflict => "ArgumentConflict"
  | tooManyValues => "TooManyValues"
  | displayHelp => "DisplayHelp"

/-- How many values an option has. -/
inductive Arity where
  | none
  | one
  /-- All arguments that follow, whatever they look like. The option may be given again, and its
  values are put behind the earlier ones. -/
  | rest
deriving DecidableEq

/-- An option of a command whose arguments are collected in `σ`. -/
structure Flag (σ : Type) where
  name : String
  arity : Arity
  /-- Takes the values in. -/
  accept : List String → σ → Except UsageError σ

/-- Where reading a command line stands. -/
structure Reading (σ : Type) where
  collected : σ
  /-- The options whose values have been taken in. -/
  given : List String
  /-- An option and its values so far; they are looked at when the next option comes. -/
  open? : Option (Flag σ × List String)

namespace Reading

variable {σ : Type}

/-- Takes an option with its values in. -/
def close (flag : Flag σ) (values : List String) (r : Reading σ) :
    Except UsageError (Reading σ) :=
  if flag.arity ≠ .none ∧ values.isEmpty then .error .invalidValue
  else if flag.arity ≠ .rest ∧ r.given.contains flag.name then .error .argumentConflict
  else
    (flag.accept values r.collected).map fun collected =>
      ⟨collected, flag.name :: r.given, none⟩

/-- Takes the open option in. -/
def settle (r : Reading σ) : Except UsageError (Reading σ) :=
  match r.open? with
  | some (flag, values) => r.close flag values
  | none => .ok r

/-- Whether the open option takes everything that comes. -/
def isGreedy (r : Reading σ) : Bool :=
  match r.open? with
  | some (flag, _) => flag.arity == .rest
  | none => false

/-- Whether the open option still waits for a value. -/
def isHungry (r : Reading σ) : Bool :=
  match r.open? with
  | some (flag, values) => flag.arity == .rest || values.isEmpty
  | none => false

def addValue (r : Reading σ) (value : String) : Reading σ :=
  { r with open? := r.open?.map fun (flag, values) => (flag, values ++ [value]) }

/-- The name of an option and the value attached to it. -/
def split (argument : List Char) : String × Option String :=
  match argument.span (· ≠ '=') with
  | (name, _ :: value) => (String.ofList name, some (String.ofList value))
  | (name, []) => (String.ofList name, none)

/-- Takes an option in that is spelled out. -/
def long (flags : List (Flag σ)) (r : Reading σ) (argument : List Char) :
    Except UsageError (Reading σ) :=
  let (name, attached) := split argument
  match flags.find? (·.name == name) with
  | none =>
    if name = "help" then
      match attached with
      | some _ => .error .tooManyValues
      | none => do
        let _ ← r.settle
        .error .displayHelp
    else .error .unknownArgument
  | some flag =>
    match flag.arity, attached with
    | .none, some _ => .error .tooManyValues
    | .none, none => do
      let r ← r.settle
      r.close flag []
    | _, some value => do
      let r ← r.settle
      r.close flag [value]
    | _, none => do
      let r ← r.settle
      return { r with open? := some (flag, []) }

/-- Takes an option of one letter in. -/
def short (r : Reading σ) (letters : List Char) : Except UsageError (Reading σ) :=
  match letters with
  | 'h' :: _ => do
    let _ ← r.settle
    .error .displayHelp
  | _ => .error .unknownArgument

/-- Takes the arguments in. -/
def run (flags : List (Flag σ)) (r : Reading σ) : List String → Except UsageError (Reading σ)
  | [] => r.settle
  | argument :: rest =>
    if r.isGreedy then (r.addValue argument).run flags rest
    else
      match argument.toList with
      | '-' :: '-' :: [] => if rest.isEmpty then r.settle else .error .unknownArgument
      | '-' :: '-' :: option => do
        let r ← r.long flags option
        r.run flags rest
      | '-' :: c :: letters => do
        let r ← r.short (c :: letters)
        r.run flags rest
      | _ =>
        if r.isHungry then (r.addValue argument).run flags rest else .error .unknownArgument

end Reading

/-- Reads the arguments of a command that starts from `blank`. -/
def parse {σ : Type} (flags : List (Flag σ)) (blank : σ) (arguments : List String) :
    Except UsageError σ :=
  (Reading.run flags ⟨blank, [], none⟩ arguments).map (·.collected)

end BoardDebug.CommandLine
