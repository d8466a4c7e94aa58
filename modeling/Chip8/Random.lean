/-! A repeatable source of random bytes.

    A source has a 256-bit key, which may be any or one that a seed is stretched to. The key and a
    block counter fill a 4 by 4 state of words, which twelve ChaCha rounds of additions, exclusive
    ors and rotations scramble into a block of sixteen output words. The `n`-th random byte is the
    low byte of the `n`-th word of the blocks taken in order, so the bytes of a key are a function
    of their position; drawing reads this function at the position reached and moves on by one. -/

namespace Chip8

/-- A source of random bytes: the eight words of its key, and how many bytes it has given. -/
structure Random where
  key : Vector UInt32 8
  drawn : Nat
  deriving DecidableEq

namespace Random

/-- Sixteen words. -/
abbrev Block := Vector UInt32 16

/-- Rotate a word to the left. -/
def rotateLeft (w : UInt32) (bits : UInt32) : UInt32 := w <<< bits ||| w >>> (32 - bits)

/-- Rotate a word to the right. -/
def rotateRight (w : UInt32) (bits : UInt32) : UInt32 := w >>> bits ||| w <<< (32 - bits)

/-! ### From the seed to the key -/

/-- The step between two states of the generator that stretches a seed. -/
def stretch (s : UInt64) : UInt64 := s * 6364136223846793005 + 11634580027462260723

/-- The word that a state of that generator gives out. -/
def keyWord (s : UInt64) : UInt32 :=
  rotateRight (((s >>> 18 ^^^ s) >>> 27).toUInt32) (s >>> 59).toUInt32

/-- The first `count` words after the state `s`. -/
def keyWords : Nat → UInt64 → List UInt32
  | 0, _ => []
  | count + 1, s => keyWord (stretch s) :: keyWords count (stretch s)

/-- The key that a seed is stretched to. -/
def keyOf (seed : UInt64) : Vector UInt32 8 :=
  let words := keyWords 8 seed
  Vector.ofFn fun k => words[k.val]?.getD 0

/-! ### From the key to the words -/

/-- Mix the words at four places. -/
def quarterRound (a b c d : Fin 16) (w : Block) : Block :=
  let w := w.set a (w[a] + w[b])
  let w := w.set d (rotateLeft (w[d] ^^^ w[a]) 16)
  let w := w.set c (w[c] + w[d])
  let w := w.set b (rotateLeft (w[b] ^^^ w[c]) 12)
  let w := w.set a (w[a] + w[b])
  let w := w.set d (rotateLeft (w[d] ^^^ w[a]) 8)
  let w := w.set c (w[c] + w[d])
  w.set b (rotateLeft (w[b] ^^^ w[c]) 7)

/-- Mix the four columns. -/
def columnRound (w : Block) : Block :=
  quarterRound 3 7 11 15 <| quarterRound 2 6 10 14 <| quarterRound 1 5 9 13 <|
    quarterRound 0 4 8 12 w

/-- Mix the four diagonals. -/
def diagonalRound (w : Block) : Block :=
  quarterRound 3 4 9 14 <| quarterRound 2 7 8 13 <| quarterRound 1 6 11 12 <|
    quarterRound 0 5 10 15 w

/-- Pairs of a column round and a diagonal round. -/
def rounds : Nat → Block → Block
  | 0, w => w
  | pairs + 1, w => rounds pairs (diagonalRound (columnRound w))

/-- The constant words, which spell `expand 32-byte k`. -/
def constants : List UInt32 := [0x61707865, 0x3320646e, 0x79622d32, 0x6b206574]

/-- The state before the rounds: the constants, the key, the block counter, two zeros. -/
def initialBlock (key : Vector UInt32 8) (counter : UInt64) : Block :=
  let words := constants ++ key.toList ++ [counter.toUInt32, (counter >>> 32).toUInt32, 0, 0]
  Vector.ofFn fun k => words[k.val]?.getD 0

/-- The output block of a counter: the state after twelve rounds added to the state before. -/
def block (key : Vector UInt32 8) (counter : UInt64) : Block :=
  let start := initialBlock key counter
  Vector.zipWith (· + ·) (rounds 6 start) start

/-- The first block of a seed begins with the bytes that the generator is known to give for it. -/
example : ((block (keyOf 42) 0).toList.take 6).map (·.toUInt8) =
    [0xa2, 0x63, 0x7d, 0x13, 0xd1, 0x71] := by
  decide +kernel

/-- The word at a position of the stream. -/
def wordAt (key : Vector UInt32 8) (position : Nat) : UInt32 :=
  (block key (.ofNat (position / 16)))[position % 16]

/-- The byte at a position of the stream. -/
def byteAt (key : Vector UInt32 8) (position : Nat) : UInt8 := (wordAt key position).toUInt8

/-! ### Drawing -/

/-- The source of a seed, at the start of its stream. -/
def ofSeed (seed : UInt64) : Random := ⟨keyOf seed, 0⟩

/-- The next byte, and the source after it. -/
def next (r : Random) : UInt8 × Random := (byteAt r.key r.drawn, { r with drawn := r.drawn + 1 })

end Random

end Chip8
