import BoardDebug.Build.Tool.Base

namespace BoardDebug.Build.Digest

open Tool (Base)

/-- The bytes of a number, of which there are so many, the highest first. -/
def highFirst (count n : Nat) : Bytes :=
  (Base.parts 8 count n).map UInt8.ofNat

/-- Bytes with a bit behind them, zeros, and their number of bits, which fill blocks. -/
def padded (block : Nat) (isLowFirst : Bool) (bytes : Bytes) : Bytes :=
  let tail := block / 8
  let zeros := (2 * block - 1 - tail - bytes.length % block) % block
  let size := highFirst tail (8 * bytes.length)
  bytes ++ 0x80 :: List.replicate zeros 0 ++ (if isLowFirst then size.reverse else size)

/-- The words that bytes make up, each with its highest byte first, or its lowest. -/
def words (w : Nat) (isLowFirst : Bool) (bytes : Bytes) : List (BitVec w) :=
  (Base.groups (w / 8) bytes.length bytes).map fun group =>
    .ofNat w (Base.joined 8 ((if isLowFirst then group.reverse else group).map UInt8.toNat))

def wordBytes {w : Nat} (isLowFirst : Bool) (words : List (BitVec w)) : Bytes :=
  words.flatMap fun word =>
    let bytes := highFirst (w / 8) word.toNat
    if isLowFirst then bytes.reverse else bytes

/-- The blocks of a message, as words. -/
def blocks (w : Nat) (isLowFirst : Bool) (bytes : Bytes) : List (Array (BitVec w)) :=
  let filled := padded (2 * w) isLowFirst bytes
  (Base.groups 16 filled.length (words w isLowFirst filled)).map List.toArray

/-- The words of a state after the words of another have been added to them. -/
def added {w : Nat} (state others : List (BitVec w)) : List (BitVec w) :=
  state.zipWith (· + ·) others

/-- The largest number whose `k`-th power is at most `n`, below a power of two. -/
def root (k n : Nat) : (bits : Nat) → Nat
  | 0 => 0
  | bits + 1 =>
    let high := root k (n / Nat.pow 2 k) bits * 2
    if Nat.pow (high + 1) k ≤ n then high + 1 else high

/-- Smaller numbers than this have no divisors but those that are found by trying. -/
def isPrime (n : Nat) : Bool :=
  2 ≤ n && (List.range n).all fun d => d < 2 || n < d * d || n % d != 0

def primes : List Nat :=
  (List.range 410).filter isPrime

/-- The first 64 bits of the fractions of the `k`-th roots of primes. -/
def fractions (k : Nat) : List Nat :=
  primes.map fun p => root k (p * Nat.pow 2 (64 * k)) 70 % Nat.pow 2 64

def cubeFractions : Array Nat :=
  (fractions 3).toArray

def squareFractions : List Nat :=
  fractions 2

/-- The constants that are added in turn. -/
def sineWords : Array (BitVec 32) :=
  #[0xd76aa478, 0xe8c7b756, 0x242070db, 0xc1bdceee, 0xf57c0faf, 0x4787c62a, 0xa8304613,
    0xfd469501, 0x698098d8, 0x8b44f7af, 0xffff5bb1, 0x895cd7be, 0x6b901122, 0xfd987193,
    0xa679438e, 0x49b40821, 0xf61e2562, 0xc040b340, 0x265e5a51, 0xe9b6c7aa, 0xd62f105d,
    0x02441453, 0xd8a1e681, 0xe7d3fbc8, 0x21e1cde6, 0xc33707d6, 0xf4d50d87, 0x455a14ed,
    0xa9e3e905, 0xfcefa3f8, 0x676f02d9, 0x8d2a4c8a, 0xfffa3942, 0x8771f681, 0x6d9d6122,
    0xfde5380c, 0xa4beea44, 0x4bdecfa9, 0xf6bb4b60, 0xbebfbc70, 0x289b7ec6, 0xeaa127fa,
    0xd4ef3085, 0x04881d05, 0xd9d4d039, 0xe6db99e5, 0x1fa27cf8, 0xc4ac5665, 0xf4292244,
    0x432aff97, 0xab9423a7, 0xfc93a039, 0x655b59c3, 0x8f0ccc92, 0xffeff47d, 0x85845dd1,
    0x6fa87e4f, 0xfe2ce6e0, 0xa3014314, 0x4e0811a1, 0xf7537e82, 0xbd3af235, 0x2ad7d2bb,
    0xeb86d391]

/-- How far words are turned in the four parts of a round. -/
def md5Turns : List (List Nat) :=
  [[7, 12, 17, 22], [5, 9, 14, 20], [4, 11, 16, 23], [6, 10, 15, 21]]

def md5Step (block : Array (BitVec 32)) (state : List (BitVec 32)) (i : Nat) : List (BitVec 32) :=
  match state with
  | [a, b, c, d] =>
    let (mixed, place) := match i / 16 with
      | 0 => ((b &&& c) ||| (~~~b &&& d), i)
      | 1 => ((d &&& b) ||| (~~~d &&& c), 5 * i + 1)
      | 2 => (b ^^^ c ^^^ d, 3 * i + 5)
      | _ => (c ^^^ (b ||| ~~~d), 7 * i)
    let turn := (md5Turns.getD (i / 16) []).getD (i % 4) 0
    let sum := a + mixed + sineWords.getD i 0 + block.getD (place % 16) 0
    [d, b + sum.rotateLeft turn, b, c]
  | state => state

def md5 (bytes : Bytes) : Bytes :=
  let start : List (BitVec 32) := [0x67452301, 0xefcdab89, 0x98badcfe, 0x10325476]
  wordBytes true ((blocks 32 true bytes).foldl
    (fun state block => added state ((List.range 64).foldl (md5Step block) state)) start)

/-- A block with words behind it that come out of those before. -/
def extended {w : Nat} (count : Nat) (next : Array (BitVec w) → Nat → BitVec w)
    (block : Array (BitVec w)) : Array (BitVec w) :=
  (List.range (count - block.size)).foldl (fun words _ => words.push (next words words.size)) block

def sha1Step (words : Array (BitVec 32)) (state : List (BitVec 32)) (i : Nat) :
    List (BitVec 32) :=
  match state with
  | [a, b, c, d, e] =>
    let (mixed, constant) : BitVec 32 × BitVec 32 := match i / 20 with
      | 0 => ((b &&& c) ||| (~~~b &&& d), 0x5a827999)
      | 1 => (b ^^^ c ^^^ d, 0x6ed9eba1)
      | 2 => ((b &&& c) ||| (b &&& d) ||| (c &&& d), 0x8f1bbcdc)
      | _ => (b ^^^ c ^^^ d, 0xca62c1d6)
    [a.rotateLeft 5 + mixed + e + constant + words.getD i 0, a, b.rotateLeft 30, c, d]
  | state => state

def sha1 (bytes : Bytes) : Bytes :=
  let start : List (BitVec 32) := [0x67452301, 0xefcdab89, 0x98badcfe, 0x10325476, 0xc3d2e1f0]
  let next (words : Array (BitVec 32)) (i : Nat) : BitVec 32 :=
    (words.getD (i - 3) 0 ^^^ words.getD (i - 8) 0 ^^^ words.getD (i - 14) 0 ^^^
      words.getD (i - 16) 0).rotateLeft 1
  wordBytes false ((blocks 32 false bytes).foldl
    (fun state block =>
      added state ((List.range 80).foldl (sha1Step (extended 80 next block)) state))
    start)

/-- The turns of words that are mixed with each other, in one width. -/
structure Turns where
  width : Nat
  rounds : Nat
  first : Nat × Nat × Nat
  second : Nat × Nat × Nat
  /-- The last of these three shifts bits out. -/
  before : Nat × Nat × Nat
  after : Nat × Nat × Nat

def turned {w : Nat} (turns : Nat × Nat × Nat) (word : BitVec w) : BitVec w :=
  word.rotateRight turns.1 ^^^ word.rotateRight turns.2.1 ^^^ word.rotateRight turns.2.2

def shifted {w : Nat} (turns : Nat × Nat × Nat) (word : BitVec w) : BitVec w :=
  word.rotateRight turns.1 ^^^ word.rotateRight turns.2.1 ^^^ word >>> turns.2.2

namespace Turns

def narrow : Turns :=
  ⟨32, 64, (2, 13, 22), (6, 11, 25), (7, 18, 3), (17, 19, 10)⟩

def wide : Turns :=
  ⟨64, 80, (28, 34, 39), (14, 18, 41), (1, 8, 7), (19, 61, 6)⟩

def step (turns : Turns) (words : Array (BitVec turns.width)) (state : List (BitVec turns.width))
    (i : Nat) : List (BitVec turns.width) :=
  match state with
  | [a, b, c, d, e, f, g, h] =>
    let constant : BitVec turns.width :=
      .ofNat _ (cubeFractions.getD i 0 / Nat.pow 2 (64 - turns.width))
    let one := h + turned turns.second e + ((e &&& f) ^^^ (~~~e &&& g)) + constant +
      words.getD i 0
    let two := turned turns.first a + ((a &&& b) ^^^ (a &&& c) ^^^ (b &&& c))
    [one + two, a, b, c, d + one, e, f, g]
  | state => state

def next (turns : Turns) (words : Array (BitVec turns.width)) (i : Nat) : BitVec turns.width :=
  shifted turns.after (words.getD (i - 2) 0) + words.getD (i - 7) 0 +
    shifted turns.before (words.getD (i - 15) 0) + words.getD (i - 16) 0

/-- The digest of bytes, from a state on. -/
def digest (turns : Turns) (start : List Nat) (bytes : Bytes) : Bytes :=
  wordBytes false ((blocks turns.width false bytes).foldl
    (fun state block =>
      let words := extended turns.rounds turns.next block
      added state ((List.range turns.rounds).foldl (turns.step words) state))
    (start.map (.ofNat _)))

end Turns

def sha224 (bytes : Bytes) : Bytes :=
  (Turns.narrow.digest ((squareFractions.drop 8).take 8) bytes).take 28

def sha256 (bytes : Bytes) : Bytes :=
  Turns.narrow.digest ((squareFractions.take 8).map (· / Nat.pow 2 32)) bytes

def sha384 (bytes : Bytes) : Bytes :=
  (Turns.wide.digest ((squareFractions.drop 8).take 8) bytes).take 48

def sha512 (bytes : Bytes) : Bytes :=
  Turns.wide.digest (squareFractions.take 8) bytes

/-- A remainder after one more byte. -/
def crcStep (remainder : BitVec 32) (byte : Nat) : BitVec 32 :=
  (List.range 8).foldl
    (fun r _ => if r.msb then r <<< 1 ^^^ 0x04c11db7 else r <<< 1)
    (remainder ^^^ BitVec.ofNat 32 byte <<< 24)

/-- The bytes of a number, the lowest first, without zeros at the end. -/
def lowFirst : Nat → Nat → List Nat
  | 0, _ => []
  | fuel + 1, n => if n = 0 then [] else n % 256 :: lowFirst fuel (n / 256)

/-- The remainder of bytes with their number behind them. -/
def crc (bytes : Bytes) : Nat :=
  let all := bytes.map UInt8.toNat ++ lowFirst bytes.length bytes.length
  (~~~ all.foldl crcStep 0).toNat

/-- A sum of 16 bits that is turned before each byte. -/
def turningSum (bytes : Bytes) : Nat :=
  (bytes.foldl (fun sum byte => sum.rotateRight 1 + .ofNat 16 byte.toNat) (0 : BitVec 16)).toNat

/-- The sum of bytes, folded into 16 bits. -/
def foldedSum (bytes : Bytes) : Nat :=
  let sum := bytes.foldl (fun sum byte => (sum + byte.toNat) % 4294967296) 0
  let folded := sum % 65536 + sum / 65536
  folded % 65536 + folded / 65536

end BoardDebug.Build.Digest
