import VenueGateway.Digest.Sha256

/-!
Keyed digests (RFC 2104) over SHA-256. A key longer than a block is replaced by its digest, and a
shorter one is filled with zeros.
-/

namespace VenueGateway.Digest

def blockLength : Nat := 64

/-- A key of exactly one block. -/
def blockKey (key : List UInt8) : List UInt8 :=
  let key := if key.length ≤ blockLength then key else sha256 key
  key ++ List.replicate (blockLength - key.length) 0

def hmac (key message : List UInt8) : List UInt8 :=
  let key := blockKey key
  sha256 (key.map (· ^^^ 0x5c) ++ sha256 (key.map (· ^^^ 0x36) ++ message))

end VenueGateway.Digest
