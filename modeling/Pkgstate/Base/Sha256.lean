import Pkgstate.Base.Bytes

/-!
# SHA-256

The hash function behind every identity, on natural numbers below `2 ^ 32`, so
that digests of concrete records can be computed where a proof needs them.
-/

namespace Sha256

open Wire

/-- `2 ^ 32`: words are 32 bits wide. -/
def wordSize : Nat := 4294967296

/-! ## Words -/

/-- A word twice in a row: the low word of its shift to the right is the word's
rotation. -/
def doubled (word : Nat) : Nat := word * (wordSize + 1)

def bigSigma0 (word : Nat) : Nat :=
  (doubled word >>> 2 ^^^ doubled word >>> 13 ^^^ doubled word >>> 22) % wordSize

def bigSigma1 (word : Nat) : Nat :=
  (doubled word >>> 6 ^^^ doubled word >>> 11 ^^^ doubled word >>> 25) % wordSize

def smallSigma0 (word : Nat) : Nat :=
  (doubled word >>> 7 ^^^ doubled word >>> 18 ^^^ word >>> 3) % wordSize

def smallSigma1 (word : Nat) : Nat :=
  (doubled word >>> 17 ^^^ doubled word >>> 19 ^^^ word >>> 10) % wordSize

/-- The bits of `y` where `x` has a one, and of `z` where it has a zero. -/
def choose (x y z : Nat) : Nat := (x &&& (y ^^^ z)) ^^^ z

/-- The bits that two of the three words have. -/
def majority (x y z : Nat) : Nat := (x &&& y) ||| ((x ||| y) &&& z)

/-- The round constants. -/
def roundConstants : List Nat :=
  [0x428a2f98, 0x71374491, 0xb5c0fbcf, 0xe9b5dba5, 0x3956c25b, 0x59f111f1, 0x923f82a4, 0xab1c5ed5,
    0xd807aa98, 0x12835b01, 0x243185be, 0x550c7dc3, 0x72be5d74, 0x80deb1fe, 0x9bdc06a7, 0xc19bf174,
    0xe49b69c1, 0xefbe4786, 0x0fc19dc6, 0x240ca1cc, 0x2de92c6f, 0x4a7484aa, 0x5cb0a9dc, 0x76f988da,
    0x983e5152, 0xa831c66d, 0xb00327c8, 0xbf597fc7, 0xc6e00bf3, 0xd5a79147, 0x06ca6351, 0x14292967,
    0x27b70a85, 0x2e1b2138, 0x4d2c6dfc, 0x53380d13, 0x650a7354, 0x766a0abb, 0x81c2c92e, 0x92722c85,
    0xa2bfe8a1, 0xa81a664b, 0xc24b8b70, 0xc76c51a3, 0xd192e819, 0xd6990624, 0xf40e3585, 0x106aa070,
    0x19a4c116, 0x1e376c08, 0x2748774c, 0x34b0bcb5, 0x391c0cb3, 0x4ed8aa4a, 0x5b9cca4f, 0x682e6ff3,
    0x748f82ee, 0x78a5636f, 0x84c87814, 0x8cc70208, 0x90befffa, 0xa4506ceb, 0xbef9a3f7, 0xc67178f2]

/-! ## Compression -/

/-- The eight words between two blocks. -/
structure State where
  a : Nat
  b : Nat
  c : Nat
  d : Nat
  e : Nat
  f : Nat
  g : Nat
  h : Nat
deriving DecidableEq

def initialState : State where
  a := 0x6a09e667
  b := 0xbb67ae85
  c := 0x3c6ef372
  d := 0xa54ff53a
  e := 0x510e527f
  f := 0x9b05688c
  g := 0x1f83d9ab
  h := 0x5be0cd19

/-- The word at an index, zero past the end. -/
def wordAt : List Nat → Nat → Nat
  | [], _ => 0
  | word :: _, 0 => word
  | _ :: words, index + 1 => wordAt words index

/-- The word that follows, by the latest sixteen, latest first. -/
def nextWord (latest : List Nat) : Nat :=
  (smallSigma1 (wordAt latest 1) + wordAt latest 6 + smallSigma0 (wordAt latest 14) +
    wordAt latest 15) % wordSize

/-- The message schedule, latest word first. -/
def extend : (count : Nat) → (latest : List Nat) → List Nat
  | 0, latest => latest
  | count + 1, latest => extend count (nextWord latest :: latest)

/-- One round. -/
def round : State → (constant word : Nat) → State
  | ⟨a, b, c, d, e, f, g, h⟩, constant, word =>
      let first := h + bigSigma1 e + choose e f g + constant + word
      let second := bigSigma0 a + majority a b c
      ⟨(first + second) % wordSize, a, b, c, (d + first) % wordSize, e, f, g⟩

/-- The rounds of one block. -/
def rounds (state : State) (words : List Nat) : State :=
  (roundConstants.zip words).foldl (fun state step => round state step.1 step.2) state

/-- One block of sixteen words. -/
def compress (state : State) (block : List Nat) : State :=
  let final := rounds state (extend 48 block.reverse).reverse
  { a := (state.a + final.a) % wordSize
    b := (state.b + final.b) % wordSize
    c := (state.c + final.c) % wordSize
    d := (state.d + final.d) % wordSize
    e := (state.e + final.e) % wordSize
    f := (state.f + final.f) % wordSize
    g := (state.g + final.g) % wordSize
    h := (state.h + final.h) % wordSize }

/-! ## Messages -/

/-- The zero bytes between the closing bit and the length. -/
def paddingZeros (length : Nat) : Nat := (119 - length % 64) % 64

/-- A message with its closing bit and its length in bits. -/
def pad (message : Bytes) : Bytes :=
  message ++ 0x80 :: List.replicate (paddingZeros message.length) 0 ++
    bigEndian 8 (8 * message.length)

/-- The big-endian words of a byte string. -/
def words : Bytes → List Nat
  | a :: b :: c :: d :: rest =>
      (a.toNat * 16777216 + b.toNat * 65536 + c.toNat * 256 + d.toNat) :: words rest
  | _ => []

/-- The blocks of sixteen words, as many as `fuel` allows. -/
def blocks : (fuel : Nat) → List Nat → List (List Nat)
  | 0, _ => []
  | fuel + 1, words => words.take 16 :: blocks fuel (words.drop 16)

/-- The state after the last block. -/
def finalState (message : Bytes) : State :=
  let padded := pad message
  (blocks (padded.length / 64) (words padded)).foldl compress initialState

/-- The digest of a message. -/
def hash (message : Bytes) : Vector UInt8 32 :=
  let state := finalState message
  ⟨([state.a, state.b, state.c, state.d, state.e, state.f, state.g, state.h].flatMap
    (bigEndian 4)).toArray, by simp⟩

end Sha256
