import VenueGateway.Digest.Hmac
import VenueGateway.Proofs.Digest.Sha256

/-!
The keyed digest that runs is the one of the standard. A key of any length becomes one of exactly a
block, which is combined with a pad of the same length byte by byte.
-/

namespace VenueGateway.Digest

theorem length_sha256 (message : List UInt8) : (sha256 message).length = 32 := by
  simp [sha256, Chain.words, bytesOfWord]

/-- A key fits into a block, itself or by its digest. -/
theorem length_blockKey (key : List UInt8) : (blockKey key).length = blockLength := by
  have hfits : (if key.length ≤ blockLength then key else sha256 key).length ≤ blockLength := by
    split
    · next h => exact h
    · rw [length_sha256]
      decide
  rw [blockKey, List.length_append, List.length_replicate]
  exact Nat.add_sub_cancel' hfits

/-- A pad is one byte, over and over. -/
theorem zipWith_pad {key : List UInt8} (h : key.length = blockLength) (pad : UInt8) :
    List.zipWith (· ^^^ ·) key (List.replicate blockLength pad) = key.map (· ^^^ pad) := by
  rw [← h, ← List.map_const', List.zipWith_map_right, List.zipWith_self]

/-- The keyed digest of bytes is the one of the standard. -/
theorem hmac_eq_standard (key message : List UInt8) :
    hmac key message = Standard.hmac Standard.sha256 blockLength key message := by
  have hsha : Standard.sha256 = sha256 := funext fun m => (sha256_eq_standard m).symm
  have hkey : (let key := if blockLength < key.length then sha256 key else key
      key ++ List.replicate (blockLength - key.length) 0) = blockKey key := by
    simp only [blockKey, ← Nat.not_lt, ite_not]
  rw [hsha, Standard.hmac]
  simp only at hkey ⊢
  rw [hkey, zipWith_pad (length_blockKey key), zipWith_pad (length_blockKey key), hmac]

end VenueGateway.Digest
