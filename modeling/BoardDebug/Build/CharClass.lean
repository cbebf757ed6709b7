namespace BoardDebug.Build

/-- A set of characters, by the first and the last ones of ranges. -/
abbrev CharRanges := List (Char × Char)

namespace CharRanges

def contains (ranges : CharRanges) (c : Char) : Bool :=
  ranges.any fun (low, high) => low ≤ c && c ≤ high

def lower : CharRanges := [('a', 'z')]

def upper : CharRanges := [('A', 'Z')]

def digit : CharRanges := [('0', '9')]

def punct : CharRanges := [('!', '/'), (':', '@'), ('[', '\x60'), ('\x7b', '~')]

/-- The characters of a class with a name. -/
def ofClass? (name : String) : Option CharRanges :=
  match name with
  | "lower" => some lower
  | "upper" => some upper
  | "alpha" => some (lower ++ upper)
  | "digit" => some digit
  | "alnum" => some (lower ++ upper ++ digit)
  | "punct" => some punct
  | "space" => some [(' ', ' '), ('\t', '\r')]
  | "blank" => some [(' ', ' '), ('\t', '\t')]
  | "cntrl" => some [('\x00', '\x1f'), ('\x7f', '\x7f')]
  | "graph" => some [('!', '~')]
  | "print" => some [(' ', '~')]
  | "xdigit" => some (digit ++ [('a', 'f'), ('A', 'F')])
  | _ => none

/-- The letters, digits and underscores that make up words. -/
def word : CharRanges :=
  lower ++ upper ++ digit ++ [('_', '_')]

end CharRanges

end BoardDebug.Build

namespace BoardDebug.Build.Blank

def isSpace (c : Char) : Bool :=
  c == ' ' || '\t' ≤ c && c ≤ '\r'

/-- A text without the blanks at its two ends. -/
def trim (text : List Char) : List Char :=
  ((text.dropWhile isSpace).reverse.dropWhile isSpace).reverse

end BoardDebug.Build.Blank
