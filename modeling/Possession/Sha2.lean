import Possession.Bytes

/-!
# The SHA-2 hash functions

The three functions are one construction over words of 32 or 64 bits; `Variant` holds what differs.
The constants of the 32-bit variant are the upper halves of those of the 64-bit ones.
-/

namespace Possession.Sha2

/-- The amounts of a mixing function: two rotations and a third one that is a rotation in the
round and a shift in the schedule. -/
structure Mix where
  first : Nat
  second : Nat
  /-- The last rotation or shift. -/
  third : Nat

structure State (w : Nat) where
  a : BitVec w
  b : BitVec w
  c : BitVec w
  d : BitVec w
  e : BitVec w
  f : BitVec w
  g : BitVec w
  h : BitVec w

/-- What distinguishes the members of the family. -/
structure Variant (w : Nat) where
  /-- The hash before the first block. -/
  initial : State w
  /-- One constant a round. -/
  constants : List (BitVec w)
  /-- Mixes the first word of the state. -/
  stateA : Mix
  /-- Mixes the fifth word of the state. -/
  stateE : Mix
  /-- Mixes the second word of the window. -/
  scheduleEarly : Mix
  /-- Mixes the fifteenth word of the window. -/
  scheduleLate : Mix
  /-- The number of bytes of the digest. -/
  digestLength : Nat

/-! ## Compression -/

/-- The sum of three rotations, without carries. -/
def Mix.rotations {w : Nat} (mix : Mix) (x : BitVec w) : BitVec w :=
  x.rotateRight mix.first ^^^ x.rotateRight mix.second ^^^ x.rotateRight mix.third

/-- The sum of two rotations and a shift, without carries. -/
def Mix.rotationsAndShift {w : Nat} (mix : Mix) (x : BitVec w) : BitVec w :=
  x.rotateRight mix.first ^^^ x.rotateRight mix.second ^^^ (x >>> mix.third)

def State.add {w : Nat} (s t : State w) : State w :=
  ⟨s.a + t.a, s.b + t.b, s.c + t.c, s.d + t.d, s.e + t.e, s.f + t.f, s.g + t.g, s.h + t.h⟩

def State.words {w : Nat} (s : State w) : List (BitVec w) :=
  [s.a, s.b, s.c, s.d, s.e, s.f, s.g, s.h]

/-- One round with a word of the schedule and a constant. -/
def Variant.round {w : Nat} (v : Variant w) (s : State w) (word constant : BitVec w) : State w :=
  let choice := (s.e &&& s.f) ^^^ (~~~s.e &&& s.g)
  let majority := (s.a &&& s.b) ^^^ (s.a &&& s.c) ^^^ (s.b &&& s.c)
  let t := s.h + v.stateE.rotations s.e + choice + constant + word
  ⟨t + v.stateA.rotations s.a + majority, s.a, s.b, s.c, s.d + t, s.e, s.f, s.g⟩

/-- The next word of the schedule after a window of sixteen. -/
def Variant.nextWord {w : Nat} (v : Variant w) (window : List (BitVec w)) : BitVec w :=
  let word := fun i => window.getD i 0
  v.scheduleLate.rotationsAndShift (word 14) + word 9 + v.scheduleEarly.rotationsAndShift (word 1) +
    word 0

/-- The rounds with the given constants; the window holds the next sixteen words. -/
def Variant.rounds {w : Nat} (v : Variant w) :
    List (BitVec w) → State w → List (BitVec w) → State w
  | [], s, _ => s
  | constant :: constants, s, window =>
    v.rounds constants (v.round s (window.headD 0) constant) (window.tail ++ [v.nextWord window])

/-- The hash after one more block of sixteen words. -/
def Variant.compress {w : Nat} (v : Variant w) (s : State w) (block : List (BitVec w)) : State w :=
  s.add (v.rounds v.constants s block)

/-! ## Padding and hashing -/

def blockLength (w : Nat) : Nat := 2 * w

/-- What follows the message: a one bit, zeros up to whole blocks, and the length in bits as two
words. -/
def padding (w count : Nat) : Bytes :=
  let block := blockLength w
  let used := (count + 1 + w / 4) % block
  0x80 :: List.replicate ((block - used) % block) 0 ++ Bytes.ofNat (w / 4) (8 * count)

/-- Lists of `size` elements each, as many as `count` says. -/
def chunks {α : Type} (size : Nat) : (count : Nat) → List α → List (List α)
  | 0, _ => []
  | count + 1, items => items.take size :: chunks size count (items.drop size)

def blockWords (w : Nat) (block : Bytes) : List (BitVec w) :=
  (chunks (w / 8) 16 block).map fun bytes => BitVec.ofNat w (Bytes.toNat bytes)

def Variant.hash {w : Nat} (v : Variant w) (message : Bytes) : Bytes :=
  let padded := message ++ padding w message.length
  let blocks := chunks (blockLength w) (padded.length / blockLength w) padded
  let final := blocks.foldl (fun s block => v.compress s (blockWords w block)) v.initial
  (final.words.flatMap fun word => Bytes.ofNat (w / 8) word.toNat).take v.digestLength

/-- A digest has the length that its variant names, as far as eight words reach. -/
theorem Variant.length_hash {w : Nat} (v : Variant w) (message : Bytes)
    (h : v.digestLength ≤ 8 * (w / 8)) : (v.hash message).length = v.digestLength := by
  have hwords (s : State w) :
      (s.words.flatMap fun word => Bytes.ofNat (w / 8) word.toNat).length = 8 * (w / 8) := by
    simp only [State.words, List.flatMap_cons, List.flatMap_nil, List.length_append,
      List.length_nil, Bytes.length_ofNat]
    omega
  rw [hash, List.length_take, hwords, Nat.min_eq_left h]

/-! ## The three variants -/

/-- The leading bits of the cube roots of the first eighty primes. -/
def roundConstants : List (BitVec 64) :=
  [
    0x428a2f98d728ae22, 0x7137449123ef65cd, 0xb5c0fbcfec4d3b2f, 0xe9b5dba58189dbbc,
    0x3956c25bf348b538, 0x59f111f1b605d019, 0x923f82a4af194f9b, 0xab1c5ed5da6d8118,
    0xd807aa98a3030242, 0x12835b0145706fbe, 0x243185be4ee4b28c, 0x550c7dc3d5ffb4e2,
    0x72be5d74f27b896f, 0x80deb1fe3b1696b1, 0x9bdc06a725c71235, 0xc19bf174cf692694,
    0xe49b69c19ef14ad2, 0xefbe4786384f25e3, 0x0fc19dc68b8cd5b5, 0x240ca1cc77ac9c65,
    0x2de92c6f592b0275, 0x4a7484aa6ea6e483, 0x5cb0a9dcbd41fbd4, 0x76f988da831153b5,
    0x983e5152ee66dfab, 0xa831c66d2db43210, 0xb00327c898fb213f, 0xbf597fc7beef0ee4,
    0xc6e00bf33da88fc2, 0xd5a79147930aa725, 0x06ca6351e003826f, 0x142929670a0e6e70,
    0x27b70a8546d22ffc, 0x2e1b21385c26c926, 0x4d2c6dfc5ac42aed, 0x53380d139d95b3df,
    0x650a73548baf63de, 0x766a0abb3c77b2a8, 0x81c2c92e47edaee6, 0x92722c851482353b,
    0xa2bfe8a14cf10364, 0xa81a664bbc423001, 0xc24b8b70d0f89791, 0xc76c51a30654be30,
    0xd192e819d6ef5218, 0xd69906245565a910, 0xf40e35855771202a, 0x106aa07032bbd1b8,
    0x19a4c116b8d2d0c8, 0x1e376c085141ab53, 0x2748774cdf8eeb99, 0x34b0bcb5e19b48a8,
    0x391c0cb3c5c95a63, 0x4ed8aa4ae3418acb, 0x5b9cca4f7763e373, 0x682e6ff3d6b2b8a3,
    0x748f82ee5defb2fc, 0x78a5636f43172f60, 0x84c87814a1f0ab72, 0x8cc702081a6439ec,
    0x90befffa23631e28, 0xa4506cebde82bde9, 0xbef9a3f7b2c67915, 0xc67178f2e372532b,
    0xca273eceea26619c, 0xd186b8c721c0c207, 0xeada7dd6cde0eb1e, 0xf57d4f7fee6ed178,
    0x06f067aa72176fba, 0x0a637dc5a2c898a6, 0x113f9804bef90dae, 0x1b710b35131c471b,
    0x28db77f523047d84, 0x32caab7b40c72493, 0x3c9ebe0a15c9bebc, 0x431d67c49c100d4c,
    0x4cc5d4becb3e42b6, 0x597f299cfc657e2a, 0x5fcb6fab3ad6faec, 0x6c44198c4a475817]

/-- The leading bits of the square roots of the first eight primes. -/
def lowerRoots : State 64 :=
  ⟨
    0x6a09e667f3bcc908, 0xbb67ae8584caa73b, 0x3c6ef372fe94f82b, 0xa54ff53a5f1d36f1,
    0x510e527fade682d1, 0x9b05688c2b3e6c1f, 0x1f83d9abfb41bd6b, 0x5be0cd19137e2179⟩

/-- The leading bits of the square roots of the ninth to the sixteenth prime. -/
def upperRoots : State 64 :=
  ⟨
    0xcbbb9d5dc1059ed8, 0x629a292a367cd507, 0x9159015a3070dd17, 0x152fecd8f70e5939,
    0x67332667ffc00b31, 0x8eb44a8768581511, 0xdb0c2e0d64f98fa7, 0x47b5481dbefa4fa4⟩

def upperHalf (word : BitVec 64) : BitVec 32 := word.extractLsb' 32 32

def State.upperHalves (s : State 64) : State 32 :=
  ⟨upperHalf s.a, upperHalf s.b, upperHalf s.c, upperHalf s.d, upperHalf s.e, upperHalf s.f,
    upperHalf s.g, upperHalf s.h⟩

/-- Sixty-four rounds on words of 32 bits. -/
def sha256 : Variant 32 where
  initial := lowerRoots.upperHalves
  constants := (roundConstants.take 64).map upperHalf
  stateA := ⟨2, 13, 22⟩
  stateE := ⟨6, 11, 25⟩
  scheduleEarly := ⟨7, 18, 3⟩
  scheduleLate := ⟨17, 19, 10⟩
  digestLength := 32

/-- Eighty rounds on words of 64 bits. -/
def sha512 : Variant 64 where
  initial := lowerRoots
  constants := roundConstants
  stateA := ⟨28, 34, 39⟩
  stateE := ⟨14, 18, 41⟩
  scheduleEarly := ⟨1, 8, 7⟩
  scheduleLate := ⟨19, 61, 6⟩
  digestLength := 64

/-- The 64-bit variant from other initial words, with the last two words of the digest left out. -/
def sha384 : Variant 64 := { sha512 with initial := upperRoots, digestLength := 48 }

end Possession.Sha2
