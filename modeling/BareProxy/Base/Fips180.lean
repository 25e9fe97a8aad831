import BareProxy.Base.Chunks
import BareProxy.Base.Endian
import Mathlib.Data.Nat.NthRoot.Defs

/-!
# The hash and the MAC of the standards

SHA-256 as FIPS 180-4 defines it, on a message that is given at once, and HMAC as RFC 2104 defines it over any hash.
The constants are computed from the roots that the standard takes them from.
-/

namespace BareProxy.Fips180

def blockSize : Nat := 64

/-! ### Words -/

/-- `ROTR`. -/
def rotr (count : Nat) (x : UInt32) : UInt32 := ⟨x.toBitVec.rotateRight count⟩

def ch (x y z : UInt32) : UInt32 := (x &&& y) ^^^ (~~~x &&& z)

def maj (x y z : UInt32) : UInt32 := (x &&& y) ^^^ (x &&& z) ^^^ (y &&& z)

def capitalSigma0 (x : UInt32) : UInt32 := rotr 2 x ^^^ rotr 13 x ^^^ rotr 22 x

def capitalSigma1 (x : UInt32) : UInt32 := rotr 6 x ^^^ rotr 11 x ^^^ rotr 25 x

def sigma0 (x : UInt32) : UInt32 := rotr 7 x ^^^ rotr 18 x ^^^ x >>> 3

def sigma1 (x : UInt32) : UInt32 := rotr 17 x ^^^ rotr 19 x ^^^ x >>> 10

/-! ### Constants -/

/-- The first sixty-four primes. -/
def primes : List Nat := (List.range 312).filter fun n => 2 ≤ n ∧ ∀ d ∈ List.range n, 2 ≤ d → n % d ≠ 0

/-- The first 32 bits of the fractional part of a root. -/
def rootFraction (degree n : Nat) : UInt32 := UInt32.ofNat (Nat.nthRoot degree (n * 2 ^ (32 * degree)))

def roundConstant (t : Nat) : UInt32 := rootFraction 3 (primes.getD t 0)

def initialHash : Vector UInt32 8 := Vector.ofFn fun i => rootFraction 2 (primes.getD i.val 0)

/-! ### The digest -/

/-- Word `t` of the message schedule of a block. -/
def schedule (block : Bytes) (t : Nat) : UInt32 :=
  if t < 16 then UInt32.ofNat (ofBe ((block.drop (4 * t)).take 4))
  else sigma1 (schedule block (t - 2)) + schedule block (t - 7) + sigma0 (schedule block (t - 15)) +
    schedule block (t - 16)

/-- The working variables `a` to `h` after round `t`. -/
def round (block : Bytes) (v : Vector UInt32 8) (t : Nat) : Vector UInt32 8 :=
  let t1 := v.get 7 + capitalSigma1 (v.get 4) + ch (v.get 4) (v.get 5) (v.get 6) + roundConstant t + schedule block t
  let t2 := capitalSigma0 (v.get 0) + maj (v.get 0) (v.get 1) (v.get 2)
  #v[t1 + t2, v.get 0, v.get 1, v.get 2, v.get 3 + t1, v.get 4, v.get 5, v.get 6]

def compress (hash : Vector UInt32 8) (block : Bytes) : Vector UInt32 8 :=
  let v := (List.range 64).foldl (round block) hash
  Vector.ofFn fun i => hash[i] + v[i]

/-- A one bit, the fewest zeros that fill the last block, and the length in bits. -/
def pad (message : Bytes) : Bytes :=
  message ++ [0x80] ++ List.replicate ((55 + blockSize - message.length % blockSize) % blockSize) 0 ++
    beBytes 8 (8 * message.length)

def digest (message : Bytes) : Bytes :=
  ((chunks blockSize (pad message)).foldl compress initialHash).toList.flatMap fun word => beBytes 4 word.toNat

/-! ### HMAC -/

/-- The key, hashed when it is longer than a block, filled up with zeros to a block. -/
def hmacKey (hash : Bytes → Bytes) (blockSize : Nat) (key : Bytes) : Bytes :=
  let key := if blockSize < key.length then hash key else key
  key ++ List.replicate (blockSize - key.length) 0

def hmac (hash : Bytes → Bytes) (blockSize : Nat) (key text : Bytes) : Bytes :=
  hash ((hmacKey hash blockSize key).map (· ^^^ 0x5c) ++ hash ((hmacKey hash blockSize key).map (· ^^^ 0x36) ++ text))

end BareProxy.Fips180
