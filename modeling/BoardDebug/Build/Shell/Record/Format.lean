import BoardDebug.Build.Shell.Record.Memory

namespace BoardDebug.Build.Shell.Record

/-- What a directive writes for a value; none if it is not known. -/
def directed (format : String) (flags : List Char) (width : Nat) (precision : Option Nat)
    (kind : Char) (v : Value) : Option (List Char) :=
  let x := v.toNumber
  match kind with
  | 'c' =>
    let chars := match v with
      | .number x => [Char.ofNat ((truncated? x).getD 0).natAbs]
      | v => (v.toText format).toList.take 1
    some (Printf.fill flags width (chars.map fun c => .ofNat (c.toNat % 256)))
  | 's' =>
    let text := (v.toText format).toList
    some (Printf.fill flags width ((precision.map text.take).getD text))
  | kind =>
    if kind = 'd' ∨ kind = 'i' then
      some (Printf.integer flags width precision kind (signedWord x))
    else if ['o', 'x', 'X', 'u'].contains kind then
      some (Printf.integer flags width precision kind (unsignedWord x))
    else if ['e', 'E', 'f', 'F', 'g', 'G'].contains kind then
      some (realText flags width precision kind x)
    else none

/-- Why a format cannot be filled in. -/
inductive FormatFault where
  | tooFew
  /-- A directive is not known, the number of which is given. -/
  | unknown (number : Nat)

/-- What a format says with values in place of its directives, from the one with a number on. What
comes before a fault is kept. -/
def formatted (format : String) : Nat → (number : Nat) → List Char → List Value →
    List Char × Option FormatFault
  | 0, _, _, _ => ([], none)
  | _, _, [], _ => ([], none)
  | fuel + 1, number, '%' :: '%' :: rest, values =>
    let (text, fault) := formatted format fuel number rest values
    ('%' :: text, fault)
  | fuel + 1, number, '%' :: rest, values =>
    match Printf.directive true rest with
    | (none, _) => ('%' :: rest, none)
    | (some d, rest) =>
      let asked (size : Printf.Size) (values : List Value) : Option Int × List Value × Bool :=
        match size, values with
        | .none, values => (none, values, true)
        | .given n, values => (some n, values, true)
        | .asked, v :: values => (truncated? v.toNumber, values, true)
        | .asked, [] => (none, [], false)
      let (width, values, isWide) := asked d.width values
      let (precision, values, isPrecise) := asked d.precision values
      match values, isWide && isPrecise with
      | v :: values, true =>
        let flags := if width.any (· < 0) then '-' :: d.flags else d.flags
        let size := (precision.filter (0 ≤ ·)).map Int.toNat
        match directed format flags (width.getD 0).natAbs size d.kind v with
        | none => ([], some (.unknown number))
        | some written =>
          let (text, fault) := formatted format fuel (number + 1) rest values
          (written ++ text, fault)
      | _, _ => ([], some .tooFew)
  | fuel + 1, number, c :: rest, values =>
    let (text, fault) := formatted format fuel number rest values
    (c :: text, fault)

namespace Act

/-- What a format says; `give` gets what comes before a fault. -/
def format (name : String) (give : List Char → Act Unit) (format : String) (values : List Value) :
    Act (List Char) := do
  let conversion ← globalText "CONVFMT"
  match formatted conversion (format.length + 1) 1 format.toList values with
  | (text, none) => return text
  | (text, some fault) =>
    give text
    let call := name ++ "(\"" ++ format ++ "\")"
    match fault with
    | .tooFew => fail ("not enough arguments passed to " ++ call)
    | .unknown number =>
      fail ("improper conversion(number " ++ toString number ++ ") in " ++ call)

end Act

end BoardDebug.Build.Shell.Record
