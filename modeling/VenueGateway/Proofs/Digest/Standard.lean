import Mathlib.Analysis.SpecialFunctions.Pow.Real
import Mathlib.Data.Nat.ModEq
import Mathlib.Data.Nat.Nth
import Mathlib.Data.Nat.Prime.Defs
import VenueGateway.Proofs.Digest.Bits

/-!
SHA-256 (FIPS 180-4) and keyed digests (RFC 2104) in the words of their standards. A message is a
string of bits; the words of the schedule and the working variables are numbered, each defined by
those before it; the constants are the roots of primes that they are said to be. Nothing here is
meant to be run: it is what the digests that run are compared with.
-/

namespace VenueGateway.Digest.Standard

section Functions

variable (x y z : BitVec 32)

def choice : BitVec 32 := (x &&& y) ^^^ (~~~x &&& z)
def majority : BitVec 32 := (x &&& y) ^^^ (x &&& z) ^^^ (y &&& z)
def upperSigma0 : BitVec 32 := x.rotateRight 2 ^^^ x.rotateRight 13 ^^^ x.rotateRight 22
def upperSigma1 : BitVec 32 := x.rotateRight 6 ^^^ x.rotateRight 11 ^^^ x.rotateRight 25
def lowerSigma0 : BitVec 32 := x.rotateRight 7 ^^^ x.rotateRight 18 ^^^ x >>> 3
def lowerSigma1 : BitVec 32 := x.rotateRight 17 ^^^ x.rotateRight 19 ^^^ x >>> 10

end Functions

/-- The first thirty-two bits of the fractional part of a root of a prime, where two is the prime
numbered nought. -/
noncomputable def rootBits (degree t : Nat) : BitVec 32 :=
  BitVec.ofNat 32 ⌊Int.fract ((Nat.nth Nat.Prime t : ℝ) ^ (1 / degree : ℝ)) * 2 ^ 32⌋₊

section Padding

theorem exists_fill (length : Nat) : ∃ k, length + 1 + k ≡ 448 [MOD 512] := by
  refine ⟨(512 + 447 - length % 512) % 512, ?_⟩
  unfold Nat.ModEq
  omega

/-- The least number of zeros that leaves room for a length of sixty-four bits in the last block. -/
def fill (length : Nat) : Nat := Nat.find (exists_fill length)

/-- A message with its end mark, its fill and its length, which is to be below two to the
sixty-fourth. -/
def padded (message : List Bool) : List Bool :=
  message ++
    true :: (List.replicate (fill message.length) false ++ bitsOf (BitVec.ofNat 64 message.length))

end Padding

/-- A word of a block of a padded message; blocks and their words are numbered from nought. -/
def blockWord (message : List Bool) (i t : Nat) : BitVec 32 := wordAt 32 message (512 * i + 32 * t)

/-- A word of the schedule of a block. -/
def scheduled (block : Nat → BitVec 32) (t : Nat) : BitVec 32 :=
  if t < 16 then block t
  else
    lowerSigma1 (scheduled block (t - 2)) + scheduled block (t - 7) +
      lowerSigma0 (scheduled block (t - 15)) +
      scheduled block (t - 16)
termination_by t
decreasing_by all_goals omega

/-- The eight words of a hash value, and the working variables. -/
@[ext]
structure Hash where
  a : BitVec 32
  b : BitVec 32
  c : BitVec 32
  d : BitVec 32
  e : BitVec 32
  f : BitVec 32
  g : BitVec 32
  h : BitVec 32

namespace Hash

noncomputable def initial : Hash :=
  ⟨rootBits 2 0, rootBits 2 1, rootBits 2 2, rootBits 2 3, rootBits 2 4, rootBits 2 5,
    rootBits 2 6, rootBits 2 7⟩

def add (x y : Hash) : Hash :=
  ⟨x.a + y.a, x.b + y.b, x.c + y.c, x.d + y.d, x.e + y.e, x.f + y.f, x.g + y.g, x.h + y.h⟩

def bits (x : Hash) : List Bool :=
  bitsOf x.a ++ bitsOf x.b ++ bitsOf x.c ++ bitsOf x.d ++ bitsOf x.e ++ bitsOf x.f ++
    bitsOf x.g ++ bitsOf x.h

def round (x : Hash) (k w : BitVec 32) : Hash :=
  let t1 := x.h + upperSigma1 x.e + choice x.e x.f x.g + k + w
  let t2 := upperSigma0 x.a + majority x.a x.b x.c
  ⟨t1 + t2, x.a, x.b, x.c, x.d + t1, x.e, x.f, x.g⟩

noncomputable def rounds (x : Hash) (block : Nat → BitVec 32) : Nat → Hash
  | 0 => x
  | t + 1 => (rounds x block t).round (rootBits 3 t) (scheduled block t)

/-- The hash value after a number of blocks of a padded message. -/
noncomputable def after (message : List Bool) : Nat → Hash
  | 0 => initial
  | i + 1 => ((after message i).rounds (blockWord message i) 64).add (after message i)

end Hash

noncomputable def digest (message : List Bool) : List Bool :=
  (Hash.after (padded message) ((padded message).length / 512)).bits

noncomputable def sha256 (message : List UInt8) :
    List UInt8 := bytesOfBits (digest (bitsOfBytes message))

/-- The keyed digest over a digest of bytes whose blocks have a given length. -/
def hmac (hash : List UInt8 → List UInt8) (blockLength : Nat) (key message : List UInt8) :
    List UInt8 :=
  let key := if blockLength < key.length then hash key else key
  let key := key ++ List.replicate (blockLength - key.length) 0
  let inner := List.zipWith (· ^^^ ·) key (List.replicate blockLength 0x36)
  let outer := List.zipWith (· ^^^ ·) key (List.replicate blockLength 0x5c)
  hash (outer ++ hash (inner ++ message))

end VenueGateway.Digest.Standard
