import BoardDebug.Text.Number

namespace BoardDebug.Build.Date

/-- The number of days from the first day of 1970 to a day. -/
def days (year : Int) (month day : Nat) : Int :=
  let y := if month ≤ 2 then year - 1 else year
  let era := y.fdiv 400
  let yearOfEra := y - era * 400
  let dayOfYear : Int := (153 * ((month + 9) % 12) + 2) / 5 + day - 1
  let dayOfEra := yearOfEra * 365 + yearOfEra.fdiv 4 - yearOfEra.fdiv 100 + dayOfYear
  era * 146097 + dayOfEra - 719468

/-- The year, the month and the day that come some days after the first day of 1970. -/
def civil (days : Int) : Int × Nat × Nat :=
  let z := days + 719468
  let era := z.fdiv 146097
  let dayOfEra := (z - era * 146097).toNat
  let yearOfEra := (dayOfEra - dayOfEra / 1460 + dayOfEra / 36524 - dayOfEra / 146096) / 365
  let dayOfYear := dayOfEra - (365 * yearOfEra + yearOfEra / 4 - yearOfEra / 100)
  let monthIndex := (5 * dayOfYear + 2) / 153
  let day := dayOfYear - (153 * monthIndex + 2) / 5 + 1
  let month := if monthIndex < 10 then monthIndex + 3 else monthIndex - 9
  let year : Int := yearOfEra + era * 400
  (if month ≤ 2 then year + 1 else year, month, day)

/-- A second in nanoseconds, in which times are counted. -/
def second : Int := 1000000000

/-- A moment, in nanoseconds. -/
def moment (year : Int) (month day hour minute second : Nat) : Option Int :=
  if 1 ≤ month ∧ month ≤ 12 ∧ 1 ≤ day ∧ day ≤ 31 ∧ hour < 24 ∧ minute < 60 ∧ second < 61 then
    some ((((days year month day * 24 + hour) * 60 + minute) * 60 + second) * Date.second)
  else none

/-- A number of seconds, perhaps with a fraction. -/
def seconds? (text : List Char) : Option Int := do
  let (whole, fraction) := text.span (· ≠ '.')
  let isNegative := whole.head? = some '-'
  let n ← Text.digits? 10 (Text.dropSign whole)
  let part ← match fraction with
    | [] => some 0
    | _ :: digits => Text.digits? 10 ((digits ++ List.replicate 9 '0').take 9)
  let time : Int := n * second + part
  return if isNegative then -time else time

def naturals? (separator : Char) (text : List Char) : Option (List Nat) :=
  (text.splitOn separator).mapM (Text.digits? 10)

/-- A time of the day, in seconds. -/
def clock? (text : List Char) : Option Nat := do
  let text := if text.getLast? = some 'Z' then text.dropLast else text
  match ← naturals? ':' (text.takeWhile (· ≠ '.')) with
  | [hour, minute] => if hour < 24 ∧ minute < 60 then some (hour * 3600 + minute * 60) else none
  | [hour, minute, s] =>
    if hour < 24 ∧ minute < 60 ∧ s < 61 then some (hour * 3600 + minute * 60 + s) else none
  | _ => none

def day? (text : List Char) : Option Int := do
  match ← naturals? '-' text with
  | [year, month, day] => moment year month day 0 0 0
  | [n] =>
    if text.length = 8 then moment (n / 10000) (n / 100 % 100) (n % 100) 0 0 0 else none
  | _ => none

/-- The seconds in a unit of time. -/
def unit? (word : String) : Option Int :=
  let word := if word.endsWith "s" ∧ word ≠ "s" then (word.dropEnd 1).toString else word
  match word with
  | "sec" => some 1
  | "second" => some 1
  | "min" => some 60
  | "minute" => some 60
  | "hour" => some 3600
  | "day" => some 86400
  | "week" => some 604800
  | "fortnight" => some 1209600
  | "month" => some 2592000
  | "year" => some 31536000
  | _ => none

/-- The moment that words describe, starting from one. -/
def words? (now : Int) : List String → Option Int
  | [] => some now
  | word :: rest =>
    if word = "now" ∨ word = "today" ∨ word = "UTC" ∨ word = "Z" then words? now rest
    else if word = "yesterday" then words? (now - 86400 * second) rest
    else if word = "tomorrow" then words? (now + 86400 * second) rest
    else
      match day? word.toList, clock? word.toList with
      | some day, _ => words? day rest
      | none, some clock =>
        words? ((now.fdiv (86400 * second) * 86400 + clock) * second) rest
      | none, none =>
        match seconds? word.toList, rest with
        | some n, name :: "ago" :: rest =>
          (unit? name).bind fun unit => words? (now - n * unit) rest
        | some n, name :: rest => (unit? name).bind fun unit => words? (now + n * unit) rest
        | _, _ => none

/-- The moment that a text describes. -/
def read? (now : Int) (text : String) : Option Int :=
  match text.toList with
  | '@' :: rest => seconds? rest
  | chars =>
    let chars := match chars with
      | _ :: _ => chars.map fun c => if c = 'T' then ' ' else c
      | [] => []
    let words := ((String.ofList chars).splitOn " ").filter (· ≠ "")
    if words.isEmpty then some (now.fdiv (86400 * second) * 86400 * second) else words? now words

/-- The moment in a text such as `202601311200.59`. -/
def stamp? (now : Int) (text : String) : Option Int := do
  let (digits, behind) := text.toList.span (· ≠ '.')
  let n ← Text.digits? 10 digits
  let s ← match behind with
    | [] => some 0
    | _ :: s => Text.digits? 10 s
  let (thisYear, _) := civil (now.fdiv (86400 * second))
  let year : Int ← match digits.length with
    | 8 => some thisYear
    | 10 => some (if n / 100000000 < 69 then 2000 + n / 100000000 else 1900 + n / 100000000)
    | 12 => some (n / 100000000)
    | _ => none
  moment year (n / 1000000 % 100) (n / 10000 % 100) (n / 100 % 100) (n % 100) s

def two (n : Nat) : String :=
  String.ofList (Text.zeroFill 2 (Nat.toDigits 10 n))

def weekdays : List String :=
  ["Sunday", "Monday", "Tuesday", "Wednesday", "Thursday", "Friday", "Saturday"]

def months : List String :=
  ["January", "February", "March", "April", "May", "June", "July", "August", "September",
    "October", "November", "December"]

/-- What a letter of a format stands for at a moment, in universal time. -/
def field (time : Int) (letter : Char) : String :=
  let total := time.fdiv second
  let day := total.fdiv 86400
  let clock := (total - day * 86400).toNat
  let (year, month, date) := civil day
  let hour := clock / 3600
  let weekday := ((day + 4).emod 7).toNat
  let dayOfYear := (day - days year 1 1).toNat + 1
  let short (names : List String) (n : Nat) := ((names[n]?.getD "").take 3).toString
  let ymd := toString year ++ "-" ++ two month ++ "-" ++ two date
  let hms := two hour ++ ":" ++ two (clock / 60 % 60) ++ ":" ++ two (clock % 60)
  match letter with
  | 'Y' => toString year
  | 'm' => two month
  | 'd' => two date
  | 'e' => (if date < 10 then " " else "") ++ toString date
  | 'H' => two hour
  | 'I' => two ((hour + 11) % 12 + 1)
  | 'M' => two (clock / 60 % 60)
  | 'S' => two (clock % 60)
  | 'p' => if hour < 12 then "AM" else "PM"
  | 'y' => two (year.emod 100).toNat
  | 'j' => String.ofList (Text.zeroFill 3 (Nat.toDigits 10 dayOfYear))
  | 'a' => short weekdays weekday
  | 'A' => weekdays[weekday]?.getD ""
  | 'b' => short months (month - 1)
  | 'h' => short months (month - 1)
  | 'B' => months[month - 1]?.getD ""
  | 'u' => toString (if weekday = 0 then 7 else weekday)
  | 'w' => toString weekday
  | 's' => toString total
  | 'N' => String.ofList (Text.zeroFill 9 (Nat.toDigits 10 (time.emod second).toNat))
  | 'F' => ymd
  | 'T' => hms
  | 'R' => two hour ++ ":" ++ two (clock / 60 % 60)
  | 'D' => two month ++ "/" ++ two date ++ "/" ++ two (year.emod 100).toNat
  | 'Z' => "UTC"
  | 'z' => "+0000"
  | 'n' => "\n"
  | 't' => "\t"
  | '%' => "%"
  | other => "%" ++ String.singleton other

/-- A moment as a format says. -/
def write (time : Int) : List Char → String
  | '%' :: letter :: rest => field time letter ++ write time rest
  | c :: rest => String.singleton c ++ write time rest
  | [] => ""

end BoardDebug.Build.Date
