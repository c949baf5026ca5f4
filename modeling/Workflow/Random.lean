/-!
# Random sources

Two generators of reproducible 64-bit draws: a counter whose values are mixed, and a ChaCha key
stream of twelve rounds. Bytes, fractions and bounded integers are all made from the draws, so a
source is nothing but its state and every draw returns the next state.
-/

namespace Workflow.Random

/-- How many different words of 64 bits there are. -/
def wordCount : Nat := 18446744073709551616

/-! ## The mixing generator -/

/-- The step of the counter. -/
def goldenStep : UInt64 := 0x9E3779B97F4A7C15

/-- Mixes the bits of a counter value. -/
def mix (value : UInt64) : UInt64 :=
  let first := (value ^^^ (value >>> 30)) * 0xBF58476D1CE4E5B9
  let second := (first ^^^ (first >>> 27)) * 0x94D049BB133111EB
  second ^^^ (second >>> 31)

/-! ## The key stream -/

/-- A key stream and the number of words taken from it. -/
structure KeyStream where
  key : List UInt32
  taken : Nat
deriving DecidableEq, Inhabited

def rotateLeft (word : UInt32) (count : UInt32) : UInt32 :=
  (word <<< count) ||| (word >>> ((32 - count) % 32))

def rotateRight (word : UInt32) (count : UInt32) : UInt32 :=
  if count = 0 then word else (word >>> count) ||| (word <<< (32 - count))

/-- Eight key words from a 64-bit seed, each from a permuted state of a linear generator. -/
def expandSeed : (count : Nat) → UInt64 → List UInt32
  | 0, _ => []
  | count + 1, state =>
    let next := state * 6364136223846793005 + 11634580027462260723
    let shifted := (((next >>> 18) ^^^ next) >>> 27).toUInt32
    rotateRight shifted (next >>> 59).toUInt32 :: expandSeed count next

/-- The key stream of a 64-bit seed. -/
def KeyStream.ofSeed (seed : UInt64) : KeyStream := ⟨expandSeed 8 seed, 0⟩

/-- The sixteen words of a block. -/
abbrev Words := Array UInt32

/-- Stirs four words of a block. -/
def quarter (a b c d : Nat) (words : Words) : Words :=
  let wa := words.getD a 0
  let wb := words.getD b 0
  let wc := words.getD c 0
  let wd := words.getD d 0
  let wa := wa + wb
  let wd := rotateLeft (wd ^^^ wa) 16
  let wc := wc + wd
  let wb := rotateLeft (wb ^^^ wc) 12
  let wa := wa + wb
  let wd := rotateLeft (wd ^^^ wa) 8
  let wc := wc + wd
  let wb := rotateLeft (wb ^^^ wc) 7
  (((words.setIfInBounds a wa).setIfInBounds b wb).setIfInBounds c wc).setIfInBounds d wd

/-- A round over the columns followed by a round over the diagonals. -/
def doubleRound (words : Words) : Words :=
  let columns := [(0, 4, 8, 12), (1, 5, 9, 13), (2, 6, 10, 14), (3, 7, 11, 15)]
  let diagonals := [(0, 5, 10, 15), (1, 6, 11, 12), (2, 7, 8, 13), (3, 4, 9, 14)]
  (columns ++ diagonals).foldl (fun words (a, b, c, d) => quarter a b c d words) words

/-- Applies a function a number of times. -/
def iterate {α : Type} (f : α → α) : Nat → α → α
  | 0, value => value
  | count + 1, value => iterate f count (f value)

/-- The block of a key stream with a given number. -/
def block (key : List UInt32) (number : Nat) : Words :=
  let counter := number.toUInt64
  let start : Words :=
    (([0x61707865, 0x3320646e, 0x79622d32, 0x6b206574] : List UInt32) ++ key ++
      [counter.toUInt32, (counter >>> 32).toUInt32, 0, 0]).toArray
  (iterate doubleRound 6 start).zipWith (· + ·) start

/-- Takes the next word of a key stream. -/
def KeyStream.next (stream : KeyStream) : UInt32 × KeyStream :=
  ((block stream.key (stream.taken / 16)).getD (stream.taken % 16) 0,
    { stream with taken := stream.taken + 1 })

/-! ## Sources -/

/-- A state of one of the two generators. -/
inductive Source where
  | counter (value : UInt64)
  | stream (keyed : KeyStream)
deriving DecidableEq, Inhabited

namespace Source

/-- A key stream source. -/
def ofSeed (seed : UInt64) : Source := .stream (.ofSeed seed)

/-- Draws 64 bits. -/
def next : Source → UInt64 × Source
  | .counter value => (mix (value + goldenStep), .counter (value + goldenStep))
  | .stream keyed =>
    let (low, keyed) := keyed.next
    let (high, keyed) := keyed.next
    (low.toUInt64 ||| (high.toUInt64 <<< 32), .stream keyed)

/-- The bytes of a number, lowest first. -/
def bytesOf : (count : Nat) → Nat → List UInt8
  | 0, _ => []
  | count + 1, value => value.toUInt8 :: bytesOf count (value / 256)

/-- Draws bytes, a whole word at a time; what is left of the last word is lost. -/
def words : (count : Nat) → Source → List UInt8 × Source
  | 0, source => ([], source)
  | count + 1, .counter value =>
    let (bytes, source) := words count (.counter (value + goldenStep))
    (bytesOf 8 (mix (value + goldenStep)).toNat ++ bytes, source)
  | count + 1, .stream keyed =>
    let (word, keyed) := keyed.next
    let (bytes, source) := words count (.stream keyed)
    (bytesOf 4 word.toNat ++ bytes, source)

/-- Draws a number of bytes. -/
def bytes (count : Nat) (source : Source) : List UInt8 × Source :=
  let width := match source with
    | .counter _ => 8
    | .stream _ => 4
  let (drawn, source) := words ((count + width - 1) / width) source
  (drawn.take count, source)

/-- Turns 64 drawn bits into a fraction of one. -/
def fractionOf (draw : UInt64) : Float := (draw >>> 11).toFloat / 9007199254740992.0

def fraction (source : Source) : Float × Source :=
  let (draw, source) := source.next
  (fractionOf draw, source)

/-- The number of leading zero bits of a 64-bit number. -/
def leadingZeros (value : Nat) : Nat := if value = 0 then 64 else 63 - Nat.log2 value

/-- Draws until the low half of draw times range falls below the largest multiple of the range. -/
def below : (fuel : Nat) → (range : Nat) → Source → Nat × Source
  | 0, _, source => (0, source)
  | fuel + 1, range, source =>
    let (draw, source) := source.next
    let product := draw.toNat * range
    let zone := range <<< leadingZeros range - 1
    if product % wordCount ≤ zone then (product / wordCount, source) else below fuel range source

/-- Draws evenly from the integers below a range. -/
def uniform (range : Nat) (source : Source) : Nat × Source := below 1000 range source

end Source

end Workflow.Random
