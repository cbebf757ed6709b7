import BoardDebug.Build.CharClass
import BoardDebug.Build.Escapes
import BoardDebug.Build.Tool.Usage

namespace BoardDebug.Build.Tool

/-- A part of a set of characters. -/
inductive SetPart where
  | char (c : Char)
  | range (first last : Char)
  | named (name : String)
  /-- A character again and again, as often as is said, or as often as is needed. -/
  | repeated (c : Char) (count : Option Nat)

namespace SetPart

/-- The character that comes next, which may be spelled with a backslash. -/
def char? : List Char → Option (Char × List Char)
  | '\\' :: c :: rest =>
    if (Escapes.octalDigit? c).isSome then some (Escapes.octal (c :: rest))
    else some ((Escapes.control? c).getD c, rest)
  | c :: rest => some (c, rest)
  | [] => none

/-- The parts that a text spells. -/
def ofText : Nat → List Char → Except String (List SetPart)
  | 0, _ => .ok []
  | _, [] => .ok []
  | fuel + 1, text => do
    match text with
    | '[' :: ':' :: rest =>
      let name := rest.takeWhile (· ≠ ':')
      match rest.drop name.length with
      | ':' :: ']' :: behind =>
        let name := String.ofList name
        if (CharRanges.ofClass? name).isNone then
          throw ("invalid character class " ++ quoted name)
        return .named name :: (← ofText fuel behind)
      | _ => plain fuel text
    | '[' :: '=' :: c :: '=' :: ']' :: behind => return .char c :: (← ofText fuel behind)
    | '[' :: rest =>
      match char? rest with
      | some (c, '*' :: behind) =>
        let digits := behind.takeWhile Char.isDigit
        match behind.drop digits.length with
        | ']' :: behind =>
          let base := if digits.head? = some '0' then 8 else 10
          let count := (Text.digits? base digits).filter (0 < ·)
          return .repeated c count :: (← ofText fuel behind)
        | _ => plain fuel text
      | _ => plain fuel text
    | text => plain fuel text
where
  plain (fuel : Nat) (text : List Char) : Except String (List SetPart) := do
    match char? text with
    | none => return []
    | some (first, '-' :: rest) =>
      match char? rest with
      | some (last, behind) =>
        if last < first then
          let shown := String.ofList (text.take (text.length - behind.length))
          throw ("range-endpoints of " ++ quoted shown ++
            " are in reverse collating sequence order")
        return .range first last :: (← ofText fuel behind)
      | none => return .char first :: .char '-' :: []
    | some (c, rest) => return .char c :: (← ofText fuel rest)

def bytesIn (first last : Nat) : List Char :=
  (List.range (last + 1 - first)).map fun n => .ofNat (first + n)

/-- The characters of a part; `needed` is how many a part stands for that fills up. -/
def chars (needed : Nat) : SetPart → List Char
  | char c => [c]
  | range first last => bytesIn first.toNat last.toNat
  | named name =>
    let ranges := (CharRanges.ofClass? name).getD []
    (bytesIn 0 255).filter ranges.contains
  | repeated c count => List.replicate (count.getD needed) c

def isFiller : SetPart → Bool
  | repeated _ none => true
  | _ => false

/-- The characters of a set; one that fills up makes it as long as is needed. -/
def expand (length : Nat) (parts : List SetPart) : List Char :=
  let fixed := (parts.filter (!·.isFiller)).foldl (fun n part => n + (part.chars 0).length) 0
  parts.flatMap (·.chars (length - fixed))

end SetPart

/-- A text in which runs of the same character are one, if it is in a set. -/
def squeeze (isIn : Char → Bool) : List Char → List Char
  | [] => []
  | c :: rest =>
    match squeeze isIn rest with
    | d :: others => if c = d ∧ isIn c then d :: others else c :: d :: others
    | [] => [c]

/-- Puts characters in place of others, or takes them out. -/
def tr (arguments : List String) : Work Unit := do
  let manual : Manual := ⟨"tr", "cCdst",
    [("complement", .nothing, 'c'), ("delete", .nothing, 'd'),
      ("squeeze-repeats", .nothing, 's'), ("truncate-set1", .nothing, 't')], true, 1⟩
  let usage ← manual.usage arguments
  let deletes := usage.has 'd'
  let squeezes := usage.has 's'
  let hint (text note : String) : Work Unit := do
    Work.complain ("tr: " ++ text)
    if note ≠ "" then Work.write true (Octets.bytes (note ++ "\n"))
    Work.write true (Octets.bytes "Try 'tr --help' for more information.\n")
    Work.stop
  let least := if deletes = squeezes then 2 else 1
  let most := if deletes ∧ !squeezes then 1 else 2
  match usage.operands with
  | [] => hint "missing operand" ""
  | words =>
    if words.length < least then
      hint ("missing operand after " ++ quoted (words.getLastD ""))
        (if deletes then "Two strings must be given when both deleting and squeezing repeats."
          else "Two strings must be given when translating.")
    else if most < words.length then
      hint ("extra operand " ++ quoted (words[most]?.getD ""))
        (if most = 1 then
          "Only one string may be given when deleting without squeezing repeats." else "")
  let read (text : String) : Work (List SetPart) := do
    match SetPart.ofText (text.length + 1) text.toList with
    | .ok parts => return parts
    | .error fault =>
      Work.complain ("tr: " ++ fault)
      Work.stop
  let refuse (text : String) : Work Unit := do
    Work.complain ("tr: " ++ text)
    Work.stop
  let first ← read (usage.operands.headD "")
  let second ← usage.operands[1]?.mapM read
  if first.any (·.isFiller) then
    refuse "the [c*] repeat construct may not appear in string1"
  let isNamed := usage.hasAny "cC"
  let inFirst := SetPart.expand 0 first
  let set := if isNamed then (SetPart.bytesIn 0 255).filter (!inFirst.contains ·) else inFirst
  let other := second.map (SetPart.expand set.length)
  let translates := !deletes && second.isSome
  if translates ∧ other = some [] ∧ !usage.has 't' then
    refuse "when not truncating set1, string2 must be non-empty"
  let isCase (part : SetPart) : Bool := match part with
    | .named name => name == "lower" || name == "upper"
    | _ => false
  let starts (parts : List SetPart) : List Nat :=
    (List.range parts.length).filterMap fun i =>
      if (parts[i]?.any isCase) then some (SetPart.expand 0 (parts.take i)).length else none
  if translates ∧ !isNamed ∧ !((starts (second.getD [])).all (starts first).contains) then
    refuse "misaligned [:upper:] and/or [:lower:] construct"
  let text := Octets.ofBytes (← Work.takeInputOr fun fault => "tr: read error: " ++ reason fault)
  let other := other.getD []
  let padded := other ++ List.replicate (set.length - other.length) (other.getLastD ' ')
  let pairs := (set.zip (if usage.has 't' then other else padded)).reverse
  let turn (c : Char) : Char := ((pairs.find? fun (a, _) => a = c).map (·.2)).getD c
  let result :=
    if deletes then
      let kept := text.filter (!set.contains ·)
      if squeezes then squeeze other.contains kept else kept
    else if translates then
      let turned := text.map turn
      if squeezes then squeeze other.contains turned else turned
    else squeeze set.contains text
  Work.print (Octets.toBytes result)

end BoardDebug.Build.Tool
