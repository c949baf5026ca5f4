/-!
# Digests

The hash functions of the `States.Hash` intrinsic over lists of bytes: MD5, SHA-1 and three members
of the SHA-2 family. A message is padded to whole blocks, cut into words, and folded block by block
into the chaining value. The SHA-2 functions share one definition over the width of their words;
their constants are the leading fraction bits of square and cube roots of the first primes.
-/

namespace Workflow.Digest

/-- Splits a list into pieces of a positive size. -/
def pieces {α : Type} (size : Nat) : (fuel : Nat) → List α → List (List α)
  | 0, _ => []
  | _ + 1, [] => []
  | fuel + 1, items => items.take size :: pieces size fuel (items.drop size)

/-- The bytes of a number, highest first. -/
def bigEndian : (count : Nat) → Nat → List UInt8
  | 0, _ => []
  | count + 1, value => bigEndian count (value / 256) ++ [value.toUInt8]

/-- The bytes of a number, lowest first. -/
def littleEndian (count value : Nat) : List UInt8 := (bigEndian count value).reverse

/-- The number of bytes given highest first. -/
def ofBigEndian (bytes : List UInt8) : Nat :=
  bytes.foldl (fun value byte => value * 256 + byte.toNat) 0

/-- The number of bytes given lowest first. -/
def ofLittleEndian (bytes : List UInt8) : Nat := ofBigEndian bytes.reverse

/-- A message with a one bit, zeros, and its length in bits, filling whole blocks. -/
def padded (block lengthBytes : Nat) (encode : Nat → Nat → List UInt8) (message : List UInt8) :
    List UInt8 :=
  let used := message.length + 1 + lengthBytes
  message ++ (0x80 :: List.replicate ((block - used % block) % block) 0) ++
    encode lengthBytes (8 * message.length)

/-- The blocks of a padded message as words. -/
def wordBlocks (w block : Nat) (decode : List UInt8 → Nat) (message : List UInt8) :
    List (List (BitVec w)) :=
  (pieces block message.length message).map fun piece =>
    (pieces (w / 8) piece.length piece).map fun bytes => BitVec.ofNat w (decode bytes)

/-! ## MD5 -/

/-- Leading bits of the sines of the first integers. -/
def sines : List (BitVec 32) :=
  [0xd76aa478, 0xe8c7b756, 0x242070db, 0xc1bdceee, 0xf57c0faf, 0x4787c62a, 0xa8304613, 0xfd469501,
   0x698098d8, 0x8b44f7af, 0xffff5bb1, 0x895cd7be, 0x6b901122, 0xfd987193, 0xa679438e, 0x49b40821,
   0xf61e2562, 0xc040b340, 0x265e5a51, 0xe9b6c7aa, 0xd62f105d, 0x02441453, 0xd8a1e681, 0xe7d3fbc8,
   0x21e1cde6, 0xc33707d6, 0xf4d50d87, 0x455a14ed, 0xa9e3e905, 0xfcefa3f8, 0x676f02d9, 0x8d2a4c8a,
   0xfffa3942, 0x8771f681, 0x6d9d6122, 0xfde5380c, 0xa4beea44, 0x4bdecfa9, 0xf6bb4b60, 0xbebfbc70,
   0x289b7ec6, 0xeaa127fa, 0xd4ef3085, 0x04881d05, 0xd9d4d039, 0xe6db99e5, 0x1fa27cf8, 0xc4ac5665,
   0xf4292244, 0x432aff97, 0xab9423a7, 0xfc93a039, 0x655b59c3, 0x8f0ccc92, 0xffeff47d, 0x85845dd1,
   0x6fa87e4f, 0xfe2ce6e0, 0xa3014314, 0x4e0811a1, 0xf7537e82, 0xbd3af235, 0x2ad7d2bb, 0xeb86d391]

/-- Rotations of the four rounds of MD5. -/
def md5Rotation (step : Nat) : Nat :=
  let row := match step / 16 with
    | 0 => [7, 12, 17, 22]
    | 1 => [5, 9, 14, 20]
    | 2 => [4, 11, 16, 23]
    | _ => [6, 10, 15, 21]
  row.getD (step % 4) 0

/-- Four words of state. -/
structure Md5State where
  a : BitVec 32
  b : BitVec 32
  c : BitVec 32
  d : BitVec 32

def md5Step (words : List (BitVec 32)) (state : Md5State) (step : Nat × BitVec 32) : Md5State :=
  let ⟨a, b, c, d⟩ := state
  let (index, sine) := step
  let (mixed, word) := match index / 16 with
    | 0 => ((b &&& c) ||| (~~~b &&& d), index)
    | 1 => ((d &&& b) ||| (~~~d &&& c), (5 * index + 1) % 16)
    | 2 => (b ^^^ c ^^^ d, (3 * index + 5) % 16)
    | _ => (c ^^^ (b ||| ~~~d), 7 * index % 16)
  let sum := mixed + a + sine + words.getD word 0
  ⟨d, b + sum.rotateLeft (md5Rotation index), b, c⟩

/-- Folds one block into the state. -/
def md5Block (state : Md5State) (words : List (BitVec 32)) : Md5State :=
  let steps := (List.range 64).zip sines
  let mixed := steps.foldl (md5Step words) state
  ⟨state.a + mixed.a, state.b + mixed.b, state.c + mixed.c, state.d + mixed.d⟩

def md5 (message : List UInt8) : List UInt8 :=
  let blocks := wordBlocks 32 64 ofLittleEndian (padded 64 8 littleEndian message)
  let final := blocks.foldl md5Block ⟨0x67452301, 0xefcdab89, 0x98badcfe, 0x10325476⟩
  [final.a, final.b, final.c, final.d].flatMap fun word => littleEndian 4 word.toNat

/-! ## SHA-1 -/

/-- Extends the words of a block, newest first, to the wanted number. -/
def sha1Schedule : (count : Nat) → List (BitVec 32) → List (BitVec 32)
  | 0, newest => newest
  | count + 1, newest =>
    let word := newest.getD 2 0 ^^^ newest.getD 7 0 ^^^ newest.getD 13 0 ^^^ newest.getD 15 0
    sha1Schedule count (word.rotateLeft 1 :: newest)

/-- Five words of state. -/
structure Sha1State where
  a : BitVec 32
  b : BitVec 32
  c : BitVec 32
  d : BitVec 32
  e : BitVec 32

def sha1Step (state : Sha1State) (step : Nat × BitVec 32) : Sha1State :=
  let ⟨a, b, c, d, e⟩ := state
  let (index, word) := step
  let (mixed, constant) : BitVec 32 × BitVec 32 := match index / 20 with
    | 0 => ((b &&& c) ||| (~~~b &&& d), 0x5a827999)
    | 1 => (b ^^^ c ^^^ d, 0x6ed9eba1)
    | 2 => ((b &&& c) ||| (b &&& d) ||| (c &&& d), 0x8f1bbcdc)
    | _ => (b ^^^ c ^^^ d, 0xca62c1d6)
  ⟨a.rotateLeft 5 + mixed + e + constant + word, a, b.rotateLeft 30, c, d⟩

/-- Folds one block into the state. -/
def sha1Block (state : Sha1State) (words : List (BitVec 32)) : Sha1State :=
  let schedule := (sha1Schedule 64 words.reverse).reverse
  let mixed := ((List.range 80).zip schedule).foldl sha1Step state
  ⟨state.a + mixed.a, state.b + mixed.b, state.c + mixed.c, state.d + mixed.d, state.e + mixed.e⟩

def sha1 (message : List UInt8) : List UInt8 :=
  let blocks := wordBlocks 32 64 ofBigEndian (padded 64 8 bigEndian message)
  let final := blocks.foldl sha1Block
    ⟨0x67452301, 0xefcdab89, 0x98badcfe, 0x10325476, 0xc3d2e1f0⟩
  [final.a, final.b, final.c, final.d, final.e].flatMap fun word => bigEndian 4 word.toNat

/-! ## SHA-2 -/

/-- The first primes. -/
def primes : List Nat :=
  (List.range 410).filter fun n => 2 ≤ n ∧ (List.range n).all fun d => d < 2 || n % d ≠ 0

/-- The largest number whose power is at most `value`, searched bit by bit from `bit` down. -/
def rootFrom (power value : Nat) : (bit : Nat) → (root : Nat) → Nat
  | 0, root => if Nat.pow (root + 1) power ≤ value then root + 1 else root
  | bit + 1, root =>
    let raised := root + (1 <<< (bit + 1))
    rootFrom power value bit (if Nat.pow raised power ≤ value then raised else root)

/-- The first 64 bits of the fraction of a root. -/
def rootFraction (power prime : Nat) : Nat :=
  rootFrom power (prime <<< (64 * power)) 69 0 % (1 <<< 64)

/-- Fractions of the cube roots of the first eighty primes. -/
def cubeRoots : List Nat := (primes.take 80).map (rootFraction 3)

/-- Fractions of the square roots of the first sixteen primes. -/
def squareRoots : List Nat := (primes.take 16).map (rootFraction 2)

/-- What distinguishes the members of the family: the width of words, the constants and the
rotations. -/
structure Sha2 (w : Nat) where
  constants : List (BitVec w)
  start : List (BitVec w)
  bigA : Nat × Nat × Nat
  bigE : Nat × Nat × Nat
  smallOld : Nat × Nat × Nat
  smallNew : Nat × Nat × Nat

def sha256Kind : Sha2 32 where
  constants := (cubeRoots.take 64).map fun bits => BitVec.ofNat 32 (bits >>> 32)
  start := (squareRoots.take 8).map fun bits => BitVec.ofNat 32 (bits >>> 32)
  bigA := (2, 13, 22)
  bigE := (6, 11, 25)
  smallOld := (7, 18, 3)
  smallNew := (17, 19, 10)

def sha512Kind : Sha2 64 where
  constants := cubeRoots.map (BitVec.ofNat 64)
  start := (squareRoots.take 8).map (BitVec.ofNat 64)
  bigA := (28, 34, 39)
  bigE := (14, 18, 41)
  smallOld := (1, 8, 7)
  smallNew := (19, 61, 6)

/-- SHA-384, which is SHA-512 from another start, cut short. -/
def sha384Kind : Sha2 64 :=
  { sha512Kind with start := (squareRoots.drop 8).map (BitVec.ofNat 64) }

namespace Sha2

variable {w : Nat}

/-- The sum of three rotations. -/
def rotations (amounts : Nat × Nat × Nat) (word : BitVec w) : BitVec w :=
  word.rotateRight amounts.1 ^^^ word.rotateRight amounts.2.1 ^^^ word.rotateRight amounts.2.2

/-- The sum of two rotations and a shift. -/
def shifts (amounts : Nat × Nat × Nat) (word : BitVec w) : BitVec w :=
  word.rotateRight amounts.1 ^^^ word.rotateRight amounts.2.1 ^^^ (word >>> amounts.2.2)

/-- Extends the words of a block, newest first, to the wanted number. -/
def schedule (kind : Sha2 w) : (count : Nat) → List (BitVec w) → List (BitVec w)
  | 0, newest => newest
  | count + 1, newest =>
    let word := shifts kind.smallNew (newest.getD 1 0) + newest.getD 6 0 +
      shifts kind.smallOld (newest.getD 14 0) + newest.getD 15 0
    schedule kind count (word :: newest)

/-- One step on the eight words of state. -/
def step (kind : Sha2 w) (state : List (BitVec w)) (input : BitVec w × BitVec w) :
    List (BitVec w) :=
  match state with
  | [a, b, c, d, e, f, g, h] =>
    let chosen := (e &&& f) ^^^ (~~~e &&& g)
    let majority := (a &&& b) ^^^ (a &&& c) ^^^ (b &&& c)
    let first := h + rotations kind.bigE e + chosen + input.1 + input.2
    let second := rotations kind.bigA a + majority
    [first + second, a, b, c, d + first, e, f, g]
  | other => other

def foldBlock (kind : Sha2 w) (state words : List (BitVec w)) : List (BitVec w) :=
  let extended := (schedule kind (kind.constants.length - 16) words.reverse).reverse
  let mixed := (kind.constants.zip extended).foldl (step kind) state
  state.zipWith (· + ·) mixed

def digest (kind : Sha2 w) (message : List UInt8) : List UInt8 :=
  let block := 2 * w
  let blocks := wordBlocks w block ofBigEndian (padded block (w / 4) bigEndian message)
  (blocks.foldl (foldBlock kind) kind.start).flatMap fun word => bigEndian (w / 8) word.toNat

end Sha2

def sha256 (message : List UInt8) : List UInt8 := sha256Kind.digest message

def sha384 (message : List UInt8) : List UInt8 := (sha384Kind.digest message).take 48

def sha512 (message : List UInt8) : List UInt8 := sha512Kind.digest message

end Workflow.Digest
