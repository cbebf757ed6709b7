namespace BoardDebug.Sorted

variable {κ υ : Type} [LT κ] [DecidableLT κ] [DecidableEq κ]

/-- Puts a pair into a list that increases in its keys; the pair replaces one of the same key. -/
def insert (key : κ) (value : υ) : List (κ × υ) → List (κ × υ)
  | [] => [(key, value)]
  | (k, v) :: rest =>
    if key < k then (key, value) :: (k, v) :: rest
    else if key = k then (key, value) :: rest
    else (k, v) :: insert key value rest

/-- The pairs in increasing order of their keys; of two with one key the later stays. -/
def ofList (pairs : List (κ × υ)) : List (κ × υ) :=
  pairs.foldl (fun sorted pair => insert pair.1 pair.2 sorted) []

def find? (key : κ) (pairs : List (κ × υ)) : Option υ :=
  (pairs.find? fun pair => decide (pair.1 = key)).map (·.2)

end BoardDebug.Sorted
