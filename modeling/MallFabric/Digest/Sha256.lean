import MallFabric.Text.Hex

/-!
# SHA-256

The digest of a byte sequence as 32 bytes.  The sequence is padded to whole
blocks of 64 bytes, and each block mixes its 64 scheduled words into a state
of eight words.
-/

namespace MallFabric.Sha256

/-- The state between blocks. -/
structure State where
  a : UInt32
  b : UInt32
  c : UInt32
  d : UInt32
  e : UInt32
  f : UInt32
  g : UInt32
  h : UInt32
deriving DecidableEq, Repr, Inhabited

/-- The fractional parts of the square roots of the first eight primes. -/
def start : State :=
  ⟨0x6a09e667, 0xbb67ae85, 0x3c6ef372, 0xa54ff53a,
    0x510e527f, 0x9b05688c, 0x1f83d9ab, 0x5be0cd19⟩

/-- The fractional parts of the cube roots of the first 64 primes. -/
def roundConstants : List UInt32 := [
  0x428a2f98, 0x71374491, 0xb5c0fbcf, 0xe9b5dba5, 0x3956c25b, 0x59f111f1,
  0x923f82a4, 0xab1c5ed5, 0xd807aa98, 0x12835b01, 0x243185be, 0x550c7dc3,
  0x72be5d74, 0x80deb1fe, 0x9bdc06a7, 0xc19bf174, 0xe49b69c1, 0xefbe4786,
  0x0fc19dc6, 0x240ca1cc, 0x2de92c6f, 0x4a7484aa, 0x5cb0a9dc, 0x76f988da,
  0x983e5152, 0xa831c66d, 0xb00327c8, 0xbf597fc7, 0xc6e00bf3, 0xd5a79147,
  0x06ca6351, 0x14292967, 0x27b70a85, 0x2e1b2138, 0x4d2c6dfc, 0x53380d13,
  0x650a7354, 0x766a0abb, 0x81c2c92e, 0x92722c85, 0xa2bfe8a1, 0xa81a664b,
  0xc24b8b70, 0xc76c51a3, 0xd192e819, 0xd6990624, 0xf40e3585, 0x106aa070,
  0x19a4c116, 0x1e376c08, 0x2748774c, 0x34b0bcb5, 0x391c0cb3, 0x4ed8aa4a,
  0x5b9cca4f, 0x682e6ff3, 0x748f82ee, 0x78a5636f, 0x84c87814, 0x8cc70208,
  0x90befffa, 0xa4506ceb, 0xbef9a3f7, 0xc67178f2]

def rotateRight (word : UInt32) (count : UInt32) : UInt32 :=
  (word >>> count) ||| (word <<< (32 - count))

def choose (x y z : UInt32) : UInt32 := (x &&& y) ^^^ ((~~~x) &&& z)

def majority (x y z : UInt32) : UInt32 := (x &&& y) ^^^ (x &&& z) ^^^ (y &&& z)

def largeSigma0 (x : UInt32) : UInt32 :=
  rotateRight x 2 ^^^ rotateRight x 13 ^^^ rotateRight x 22

def largeSigma1 (x : UInt32) : UInt32 :=
  rotateRight x 6 ^^^ rotateRight x 11 ^^^ rotateRight x 25

def smallSigma0 (x : UInt32) : UInt32 :=
  rotateRight x 7 ^^^ rotateRight x 18 ^^^ (x >>> 3)

def smallSigma1 (x : UInt32) : UInt32 :=
  rotateRight x 17 ^^^ rotateRight x 19 ^^^ (x >>> 10)

/-- One round. -/
def round (state : State) (constantAndWord : UInt32 × UInt32) : State :=
  let first := state.h + largeSigma1 state.e + choose state.e state.f state.g
    + constantAndWord.1 + constantAndWord.2
  let second := largeSigma0 state.a + majority state.a state.b state.c
  ⟨first + second, state.a, state.b, state.c, state.d + first, state.e, state.f, state.g⟩

/-- The words of a block, four bytes each with the most significant first, put
in front of `reversed` in reverse order. -/
def wordsAfter (reversed : List UInt32) : Bytes -> List UInt32
  | a :: b :: c :: d :: rest =>
      wordsAfter
        (((a.toUInt32 <<< 24) ||| (b.toUInt32 <<< 16) ||| (c.toUInt32 <<< 8) ||| d.toUInt32)
          :: reversed) rest
  | _ => reversed

/-- Extend a schedule, kept newest word first, by `count` words. -/
def extend : (count : Nat) -> List UInt32 -> List UInt32
  | 0, schedule => schedule
  | count + 1, schedule =>
      let word := smallSigma1 (schedule.getD 1 0) + schedule.getD 6 0
        + smallSigma0 (schedule.getD 14 0) + schedule.getD 15 0
      extend count (word :: schedule)

/-- The 64 words that a block contributes. -/
def schedule (block : Bytes) : List UInt32 :=
  (extend 48 (wordsAfter [] block)).reverse

def add (left right : State) : State :=
  ⟨left.a + right.a, left.b + right.b, left.c + right.c, left.d + right.d,
    left.e + right.e, left.f + right.f, left.g + right.g, left.h + right.h⟩

/-- Mix one block into the state. -/
def compress (state : State) (block : Bytes) : State :=
  add state ((roundConstants.zip (schedule block)).foldl round state)

/-- The big-endian bytes of a number, `count` of them. -/
def bigEndian (count number : Nat) : Bytes :=
  (List.range count).map fun place => UInt8.ofNat (number >>> (8 * (count - 1 - place)))

/-- What follows a message of `length` bytes to fill its last block: a set bit,
zeros, and the length in bits. -/
def padding (length : Nat) : Bytes :=
  0x80 :: List.replicate ((119 - length % 64) % 64) 0 ++ bigEndian 8 (8 * length)

/-- Mix in a sequence block by block, at most `fuel` of them. -/
def absorb (state : State) : (fuel : Nat) -> Bytes -> State
  | 0, _ => state
  | fuel + 1, bytes =>
      if bytes = [] then state else absorb (compress state (bytes.take 64)) fuel (bytes.drop 64)

def State.bytes (state : State) : Bytes :=
  [state.a, state.b, state.c, state.d, state.e, state.f, state.g, state.h].flatMap
    fun word => bigEndian 4 word.toNat

/-- The digest of a byte sequence. -/
def digest (bytes : Bytes) : Bytes :=
  let padded := bytes ++ padding bytes.length
  (absorb start (padded.length / 64) padded).bytes

end MallFabric.Sha256
