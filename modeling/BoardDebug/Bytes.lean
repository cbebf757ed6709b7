import BoardDebug.Text.Show

namespace BoardDebug

/-- What is wrong with something a device sent. -/
inductive Malformed where
  /-- A word was to be read at `offset`, at or past the end. -/
  | pastEnd (offset : Nat)
  /-- Only `left` bytes of a word are there. -/
  | cutOff (left : Nat)
  /-- The bytes are no whole number of words. -/
  | ragged (length : Nat)
  /-- A reply has no room for its own header. -/
  | headless (length : Nat)
  /-- A packet holds fewer bytes than its header announces. -/
  | shortPacket (announced held : Nat)
  /-- The globals area came back with another number of words. -/
  | globalCount (asked : UInt32) (got : Nat)
  /-- A block of memory came back with another number of words. -/
  | wordCount (asked address : UInt32) (got : Nat)
  /-- Anything else, in words. -/
  | described (reason : String)
deriving DecidableEq, Repr

namespace Malformed

def message : Malformed → String
  | pastEnd offset => s!"bad offset {offset}"
  | cutOff left => s!"type is too big (4) for {left}"
  | ragged length => s!"expected a multiple of 4 bytes, got {length}"
  | headless length => s!"reply of {length} bytes is shorter than its header"
  | shortPacket announced held =>
    s!"packet announces {announced} bytes but the report holds {held}"
  | globalCount asked got => s!"asked for {asked} global words, got {got}"
  | wordCount asked address got =>
    s!"asked for {asked} words at {Text.hex8 address}, got {got}"
  | described reason => reason

end Malformed

abbrev Bytes := List UInt8

namespace Word

/-- The four bytes of a word, least significant first. -/
def bytes (word : UInt32) : Bytes :=
  [.ofNat word.toNat, .ofNat (word.toNat / 256), .ofNat (word.toNat / 65536),
    .ofNat (word.toNat / 16777216)]

/-- The word with these bytes, `a` the least significant. -/
def ofBytes (a b c d : UInt8) : UInt32 :=
  .ofNat (a.toNat + 256 * b.toNat + 65536 * c.toNat + 16777216 * d.toNat)

theorem ofNat_toNat (n : Nat) : (UInt8.ofNat n).toNat = n % 256 := by
  simp

@[simp] theorem length_bytes (word : UInt32) : (bytes word).length = 4 := rfl

theorem ofBytes_bytes (word : UInt32) :
    ofBytes (.ofNat word.toNat) (.ofNat (word.toNat / 256)) (.ofNat (word.toNat / 65536))
      (.ofNat (word.toNat / 16777216)) = word := by
  apply UInt32.toNat_inj.1
  have := word.toNat_lt
  simp only [ofBytes, ofNat_toNat, UInt32.toNat_ofNat']
  omega

theorem bytes_ofBytes (a b c d : UInt8) : bytes (ofBytes a b c d) = [a, b, c, d] := by
  have := a.toNat_lt
  have := b.toNat_lt
  have := c.toNat_lt
  have := d.toNat_lt
  simp only [bytes, ofBytes, UInt32.toNat_ofNat', List.cons.injEq, and_true]
  refine ⟨?_, ?_, ?_, ?_⟩ <;> apply UInt8.toNat_inj.1 <;> rw [ofNat_toNat] <;> omega

end Word

/-- Words one after the other, each least significant byte first. -/
def wordBytes (words : List UInt32) : Bytes :=
  words.flatMap Word.bytes

/-- The words that make up `bytes`, if those are a whole number of words. -/
def words? : Bytes → Option (List UInt32)
  | [] => some []
  | a :: b :: c :: d :: rest => (words? rest).map (Word.ofBytes a b c d :: ·)
  | _ => none

/-- The words that make up `bytes`. -/
def readWords (bytes : Bytes) : Except Malformed (List UInt32) :=
  match words? bytes with
  | some words => .ok words
  | none => .error (.ragged bytes.length)

/-- The word that starts at byte `offset`; what follows it does not matter. -/
def wordFrom (bytes : Bytes) (offset : Nat) : Except Malformed UInt32 :=
  match bytes.drop offset with
  | a :: b :: c :: d :: _ => .ok (Word.ofBytes a b c d)
  | [] => .error (.pastEnd offset)
  | left => .error (.cutOff left.length)

/-- The word with number `index`. -/
def wordAt (bytes : Bytes) (index : Nat) : Except Malformed UInt32 :=
  wordFrom bytes (4 * index)

/-- At most `count` pieces of a list, each with `size` elements if there are so many left. -/
def pieces {α : Type} (size : Nat) : Nat → List α → List (List α)
  | 0, _ => []
  | _ + 1, [] => []
  | count + 1, list => list.take size :: pieces size count (list.drop size)

/-- A list cut into pieces of `size` elements; the last one may be shorter. -/
def chunks {α : Type} (size : Nat) (list : List α) : List (List α) :=
  pieces size list.length list

end BoardDebug
