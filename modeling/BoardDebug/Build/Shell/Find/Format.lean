import BoardDebug.Build.Shell.Find.Test

namespace BoardDebug.Build.Shell.Find

/-- What stands behind a percent sign in a format: letters that need one more, or one letter. -/
def fieldOf (letters : List Char) (width : String → String) : Option Report :=
  let text (report : Report) : Option Report := some fun files found => width (report files found)
  let file (letter : Char) : Option Report :=
    text fun files found => Tool.statusField files found.path found.place found.node letter
  match letters with
  | ['%'] => some fun _ _ => "%"
  | ['p'] => text fun _ found => found.path
  | ['f'] => text fun _ found => found.name
  | ['h'] => text fun _ found => found.parent
  | ['P'] => text fun _ found =>
    let rest := (found.path.drop found.start.length).toString
    if rest.startsWith "/" then (rest.drop 1).toString else rest
  | ['H'] => text fun _ found => found.start
  | ['d'] => text fun _ found => toString found.depth
  | ['l'] => text fun _ found => found.target?.getD ""
  | ['y'] => text fun _ found => String.singleton (kindOf found.node.body)
  | ['Y'] => text fun files found =>
    (found.followed? files).elim "N" fun node => String.singleton (kindOf node.body)
  | ['m'] => file 'a'
  | ['M'] => file 'A'
  | ['s'] => file 's'
  | ['n'] => file 'h'
  | ['i'] => file 'i'
  | ['u'] => file 'U'
  | ['g'] => file 'G'
  | ['U'] => file 'u'
  | ['G'] => file 'g'
  | ['b'] => file 'b'
  | ['k'] => text fun _ found => toString ((Tool.sizeOf found.node.body + 4095) / 4096 * 4)
  | [kind, '@'] =>
    if ['A', 'C', 'T'].contains kind then
      text fun _ found => Date.write found.node.time "%s.%N0".toList
    else none
  | [kind, letter] =>
    if ['A', 'C', 'T'].contains kind then
      text fun _ found => Date.field found.node.time letter
    else none
  | [kind] =>
    if ['a', 'c', 't'].contains kind then
      text fun _ found => Date.write found.node.time "%a %b %e %T.%N0 %Y".toList
    else none
  | _ => none

/-- Brings a text to a width, to the left if a dash says so, and to a length. -/
def fitted (flags : List Char) (width : Nat) (most : Option Nat) (text : String) : String :=
  let text := (most.map fun n => (text.take n).toString).getD text
  let filler := String.ofList (List.replicate (width - text.length) ' ')
  if flags.contains '-' then text ++ filler else filler ++ text

/-- The control character that a letter spells behind a backslash. -/
def control? (c : Char) : Option Char :=
  match c with
  | 'a' => some '\x07'
  | 'b' => some '\x08'
  | 'f' => some '\x0c'
  | 'n' => some '\n'
  | 'r' => some '\r'
  | 't' => some '\t'
  | 'v' => some '\x0b'
  | '\\' => some '\\'
  | _ => none

/-- The reports that a format asks for, one after the other, and warnings about it. -/
def reports : Nat → List Char → Except String (List Report × List String)
  | 0, _ => .ok ([], [])
  | _, [] => .ok ([], [])
  | fuel + 1, c :: rest => do
    let plain (text : String) (rest : List Char) : Except String (List Report × List String) :=
      (reports fuel rest).map fun (others, warnings) => ((fun _ _ => text) :: others, warnings)
    match c, rest with
    | '\\', [] => return ([fun _ _ => "\\"], ["escape \x60\\' followed by nothing at all"])
    | '\\', 'c' :: _ => return ([], [])
    | '\\', c :: rest =>
      let digits := ((c :: rest).take 3).takeWhile fun c => (Text.digit? 8 c).isSome
      let byte? := (Text.digits? 8 digits).map fun n => Char.ofNat (n % 256)
      match control? c, byte? with
      | some c, _ => plain (String.singleton c) rest
      | none, some byte => plain (String.singleton byte) ((c :: rest).drop digits.length)
      | none, none =>
        let (others, warnings) ← plain ("\\" ++ String.singleton c) rest
        return (others, ("unrecognized escape \x60\\" ++ String.singleton c ++ "'") :: warnings)
    | '%', rest =>
      let (flags, behind) := rest.span fun c => ['-', '+', ' ', '#', '0'].contains c
      let (width, behind) := behind.span Char.isDigit
      let (most, behind) := match behind with
        | '.' :: behind =>
          let (digits, behind) := behind.span Char.isDigit
          (some ((Text.digits? 10 digits).getD 0), behind)
        | behind => (none, behind)
      let count := if behind.head?.any ['A', 'C', 'T'].contains then 2 else 1
      let letters := behind.take count
      if letters.isEmpty then throw "error: % at end of format string"
      match fieldOf letters (fitted flags ((Text.digits? 10 width).getD 0) most) with
      | some report =>
        let (others, warnings) ← reports fuel (behind.drop count)
        return (report :: others, warnings)
      | none =>
        let spelled := String.ofList ('%' :: letters)
        let (others, warnings) ← plain spelled (behind.drop count)
        return (others, ("unrecognized format directive \x60" ++ spelled ++ "'") :: warnings)
    | c, rest => plain (String.singleton c) rest

end BoardDebug.Build.Shell.Find
