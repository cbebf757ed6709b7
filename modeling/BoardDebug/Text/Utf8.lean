import BoardDebug.Bytes

namespace BoardDebug.Utf8

/-- What a byte text starts with. -/
inductive Head where
  | char (c : Char) (rest : Bytes)
  /-- The longest start of a character that cannot be completed. -/
  | broken (rest : Bytes)

/-- Whether the second byte may follow a first byte: no overlong form, no surrogate, nothing past
the last code point. -/
def secondFits (first second : UInt8) : Bool :=
  match first with
  | 0xe0 => 0xa0 ≤ second && second ≤ 0xbf
  | 0xed => 0x80 ≤ second && second ≤ 0x9f
  | 0xf0 => 0x90 ≤ second && second ≤ 0xbf
  | 0xf4 => 0x80 ≤ second && second ≤ 0x8f
  | _ => 0x80 ≤ second && second ≤ 0xbf

def continues (byte : UInt8) : Bool :=
  0x80 ≤ byte && byte ≤ 0xbf

/-- The number of bytes of a character that starts with this byte. -/
def width (first : UInt8) : Nat :=
  if first < 0x80 then 1
  else if 0xc2 ≤ first && first ≤ 0xdf then 2
  else if 0xe0 ≤ first && first ≤ 0xef then 3
  else if 0xf0 ≤ first && first ≤ 0xf4 then 4
  else 0

/-- The low six bits of a continuation byte. -/
def low (byte : UInt8) : Nat :=
  byte.toNat - 0x80

/-- Takes one character, or the bytes that cannot be one, off the front. -/
def head (first : UInt8) (rest : Bytes) : Head :=
  match width first, rest with
  | 1, _ => .char (.ofNat first.toNat) rest
  | 2, b :: rest =>
    if secondFits first b then .char (.ofNat ((first.toNat - 0xc0) * 64 + low b)) rest
    else .broken (b :: rest)
  | 3, b :: rest =>
    if secondFits first b then
      match rest with
      | c :: rest =>
        if continues c then
          .char (.ofNat (((first.toNat - 0xe0) * 64 + low b) * 64 + low c)) rest
        else .broken (c :: rest)
      | [] => .broken []
    else .broken (b :: rest)
  | 4, b :: rest =>
    if secondFits first b then
      match rest with
      | c :: rest =>
        if continues c then
          match rest with
          | d :: rest =>
            if continues d then
              .char (.ofNat ((((first.toNat - 0xf0) * 64 + low b) * 64 + low c) * 64 + low d)) rest
            else .broken (d :: rest)
          | [] => .broken []
        else .broken (c :: rest)
      | [] => .broken []
    else .broken (b :: rest)
  | _, _ => .broken rest

/-- What is left after the first character is shorter. -/
def Head.rest : Head → Bytes
  | .char _ rest => rest
  | .broken rest => rest

theorem length_rest_head (first : UInt8) (rest : Bytes) :
    (head first rest).rest.length ≤ rest.length := by
  unfold head
  split <;> (repeat' split) <;> simp only [Head.rest, List.length_cons] <;> omega

/-- The characters of a byte text, if it is well formed. -/
def decode? (bytes : Bytes) : Option (List Char) :=
  match bytes with
  | [] => some []
  | first :: rest =>
    match _h : head first rest with
    | .char c left => (decode? left).map (c :: ·)
    | .broken _ => none
termination_by bytes.length
decreasing_by
  have := length_rest_head first rest
  simp only [_h, Head.rest] at this
  simp only [List.length_cons]
  omega

/-- The characters of a byte text, each broken start of a character read as U+FFFD. -/
def decodeLossy (bytes : Bytes) : List Char :=
  match bytes with
  | [] => []
  | first :: rest =>
    match _h : head first rest with
    | .char c left => c :: decodeLossy left
    | .broken left => '\uFFFD' :: decodeLossy left
termination_by bytes.length
decreasing_by
  all_goals
    have := length_rest_head first rest
    simp only [_h, Head.rest] at this
    simp only [List.length_cons]
    omega

/-- The bytes of a text. -/
def encode (text : List Char) : Bytes :=
  text.flatMap String.utf8EncodeChar

end BoardDebug.Utf8

namespace BoardDebug.Octets

/-- The text in which each character stands for one of some bytes. -/
def ofBytes (bytes : Bytes) : List Char :=
  bytes.map fun byte => .ofNat byte.toNat

/-- The bytes that the characters of a text stand for. -/
def toBytes (text : List Char) : Bytes :=
  text.map fun c => .ofNat c.toNat

theorem toNat_ofNat (byte : UInt8) : (Char.ofNat byte.toNat).toNat = byte.toNat := by
  have valid : Nat.isValidChar byte.toNat := by
    have hlt := byte.toNat_lt
    exact .inl (by omega)
  rw [Char.ofNat, dif_pos valid]
  rfl

theorem toBytes_ofBytes (bytes : Bytes) : toBytes (ofBytes bytes) = bytes := by
  simp [toBytes, ofBytes, Function.comp_def, toNat_ofNat]

/-- The text in which each byte of another one has a character of its own. -/
def spell (text : String) : String :=
  String.ofList (ofBytes (Utf8.encode text.toList))

/-- The text in which bytes have characters of their own, as a string. -/
def text (bytes : Bytes) : String :=
  String.ofList (ofBytes bytes)

/-- The bytes of a string in which each of them has a character of its own. -/
def bytes (text : String) : Bytes :=
  toBytes text.toList

end BoardDebug.Octets
