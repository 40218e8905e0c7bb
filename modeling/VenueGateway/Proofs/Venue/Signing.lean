import VenueGateway.Proofs.Digest.Hmac
import VenueGateway.Proofs.Text.Numerals
import VenueGateway.Venue.Credentials

/-!
What credentials sign with. The signature spells the keyed digest of nonce, user number and key in
hexadecimal, and the one that stands after several secrets is that of the last secret that can sign;
nothing else is touched.
-/

namespace VenueGateway

namespace Text

open Digest

def hexDigits : List Char := "0123456789abcdef".toList

def digitOfHalf (x : BitVec 4) : Char := hexDigits.getD x.toNat '0'

def hexOfBits (bits : List Bool) : String :=
  String.ofList ((List.range (bits.length / 4)).map fun i => digitOfHalf (wordAt 4 bits (4 * i)))

theorem length_hexOfBits (bits : List Bool) : (hexOfBits bits).length = bits.length / 4 := by
  rw [hexOfBits, String.length_ofList, List.length_map, List.length_range]

theorem digitOfHalf_mem (x : BitVec 4) : digitOfHalf x ∈ hexDigits := by
  have hlt : x.toNat < hexDigits.length := x.isLt
  rw [digitOfHalf, List.getD_eq_getElem _ _ hlt]
  exact List.getElem_mem hlt

theorem mem_hexDigits {bits : List Bool} {ch : Char} (h : ch ∈ (hexOfBits bits).toList) :
    ch ∈ hexDigits := by
  rw [hexOfBits, String.toList_ofList] at h
  obtain ⟨i, -, rfl⟩ := List.mem_map.mp h
  exact digitOfHalf_mem _

theorem hexOfBits_flatMap (halves : List (BitVec 4)) :
    hexOfBits (halves.flatMap fun x => bitsOf x) = String.ofList (halves.map digitOfHalf) := by
  have hcut := congrArg (List.map digitOfHalf) (map_wordAt_flatMap id halves)
  rw [List.map_map, List.map_id] at hcut
  rw [hexOfBits, length_flatMap_bitsOf, Nat.mul_div_cancel_left _ (by decide)]
  exact congrArg String.ofList hcut

def halves (bytes : List UInt8) : List (BitVec 4) :=
  bytes.flatMap fun b => [BitVec.ofNat 4 (b.toNat / 16), BitVec.ofNat 4 (b.toNat % 16)]

theorem bitsOf_byte (b : UInt8) :
    bitsOf b.toBitVec = bitsOf (BitVec.ofNat 4 (b.toNat / 16)) ++
      bitsOf (BitVec.ofNat 4 (b.toNat % 16)) := by
  have hb := b.toNat_lt
  have hbyte : b.toBitVec = BitVec.ofNat 4 (b.toNat / 16) ++ BitVec.ofNat 4 (b.toNat % 16) := by
    refine BitVec.eq_of_toNat_eq (Eq.symm ((toNat_append _ _).trans ?_))
    rw [BitVec.toNat_ofNat, BitVec.toNat_ofNat, Nat.shiftLeft_eq, UInt8.toNat_toBitVec]
    omega
  rw [hbyte, bitsOf_append]

theorem bitsOfBytes_eq_halves (bytes : List UInt8) :
    bitsOfBytes bytes = (halves bytes).flatMap fun x => bitsOf x := by
  rw [bitsOfBytes, halves, List.flatMap_assoc]
  refine List.flatMap_congr fun b _ => ?_
  rw [bitsOf_byte, List.flatMap_cons, List.flatMap_singleton]

theorem map_digitOfHalf (bytes : List UInt8) :
    (halves bytes).map digitOfHalf = bytes.flatMap hexOfByte := by
  have hdigit : ∀ n < 16, digitOfHalf (BitVec.ofNat 4 n) = Nat.digitChar n := by decide
  rw [halves, List.map_flatMap]
  refine List.flatMap_congr fun b _ => ?_
  have hb := b.toNat_lt
  rw [List.map_cons, List.map_singleton, hdigit _ (by omega), hdigit _ (by omega), hexOfByte]

/-- Two digits for each byte are one for every four bits. -/
theorem hex_eq_hexOfBits (bytes : List UInt8) : hex bytes = hexOfBits (bitsOfBytes bytes) := by
  rw [bitsOfBytes_eq_halves, hexOfBits_flatMap, map_digitOfHalf, hex]

end Text

namespace Credentials

open Digest

/-- The signature under a secret as the venue defines it: the keyed digest of nonce, user number and
key. -/
noncomputable def standardSignature (c : Credentials) (secret : String) : String :=
  Text.hexOfBits (bitsOfBytes (Standard.hmac Standard.sha256 64 secret.toUTF8.toList
    (c.nonce ++ toString c.userId.toInt ++ c.apiKey).toUTF8.toList))

theorem signatureUnder_eq (c : Credentials) (secret : String) :
    c.signatureUnder secret = c.standardSignature secret := by
  rw [signatureUnder, signedMessage, hmac_eq_standard, Text.hex_eq_hexOfBits,
    Text.ofInt64_eq_toString]
  rfl

theorem sign_empty (c : Credentials) : c.sign "" = .error .emptySecret := if_pos rfl

theorem sign_of_ne {secret : String} (h : secret ≠ "") (c : Credentials) :
    c.sign secret = .ok { c with signature := c.signatureUnder secret } := if_neg h

theorem signAll_append (c : Credentials) (secrets more : List String) :
    c.signAll (secrets ++ more) = (c.signAll secrets).signAll more := List.foldl_append

theorem signAll_empty (c : Credentials) {secrets : List String}
    (h : ∀ secret ∈ secrets, secret = "") :
    c.signAll secrets = c := by
  induction secrets with
  | nil => rfl
  | cons secret secrets ih =>
    obtain rfl := h secret List.mem_cons_self
    exact ih fun s hs => h s (List.mem_cons_of_mem _ hs)

theorem signAll_singleton {secret : String} (h : secret ≠ "") (c : Credentials) :
    c.signAll [secret] = { c with signature := c.signatureUnder secret } := by
  rw [signAll, List.foldl_cons, sign_of_ne h]
  rfl

/-- Nothing but the signature is ever written. -/
theorem signAll_eq (c : Credentials) (secrets : List String) :
    c.signAll secrets = { c with signature := (c.signAll secrets).signature } := by
  induction secrets using List.reverseRecOn with
  | nil => rfl
  | append_singleton secrets secret ih =>
    rw [signAll_append]
    by_cases h : secret = ""
    · rwa [signAll_empty _ (by simpa using h)]
    · rw [signAll_singleton h, ih]

theorem length_standardSignature (c : Credentials) (secret : String) :
    (c.standardSignature secret).length = 64 := by
  rw [standardSignature, Text.length_hexOfBits, length_bitsOfBytes]
  have hhmac :=
    hmac_eq_standard secret.toUTF8.toList (c.nonce ++ toString c.userId.toInt ++
    c.apiKey).toUTF8.toList
  rw [blockLength] at hhmac
  rw [← hhmac, hmac, length_sha256]

/-- What repeated signing leaves of credentials. -/
structure SignedInTurn (c : Credentials) (secrets : List String) : Prop where
  /-- An empty secret is refused, whatever was signed before, and changes nothing. -/
  refused : (c.signAll secrets).sign "" = .error .emptySecret ∧ c.signAll (secrets ++ [""]) =
    c.signAll secrets
  /-- Any other is accepted. -/
  accepted : ∀ secret, secret ≠ "" → (c.signAll secrets).sign secret =
    .ok (c.signAll (secrets ++ [secret]))
  untouched : c.signAll secrets = { c with signature := (c.signAll secrets).signature }
  unsigned : (∀ secret ∈ secrets, secret = "") → (c.signAll secrets).signature = c.signature
  /-- The signature is the one under the last secret that is not empty. -/
  signed : ∀ before secret after, secrets = before ++ secret :: after → secret ≠ "" →
    (∀ s ∈ after, s = "") →
    (c.signAll secrets).signature = c.standardSignature secret

/-- By induction on the secrets, the last of which that signs leaves its mark. -/
theorem signedInTurn (c : Credentials) (secrets : List String) : SignedInTurn c secrets where
  refused := by
    refine ⟨sign_empty _, ?_⟩
    rw [signAll_append]
    exact signAll_empty _ (by simp)
  accepted secret h := by
    rw [sign_of_ne h, signAll_append, signAll_singleton h]
  untouched := signAll_eq c secrets
  unsigned h := by rw [signAll_empty c h]
  signed := by
    rintro before secret after rfl hsecret hafter
    -- The identity is still that of the beginning, whatever was signed before.
    have hidentity : (c.signAll before).signatureUnder secret = c.signatureUnder secret := by
      rw [signAll_eq]
      rfl
    rw [← List.singleton_append, signAll_append, signAll_append, signAll_singleton hsecret,
      signAll_empty _ hafter, hidentity, signatureUnder_eq]

/-- Whatever secrets are tried one after another, the identity and the last of them that is not
empty decide. The signature under a secret has sixty-four characters, all of them digits of
lower-case hexadecimal. -/
theorem signed_by_last (c : Credentials) (secrets : List String) :
    SignedInTurn c secrets ∧ ∀ secret, (c.standardSignature secret).length = 64 ∧
      ∀ ch ∈ (c.standardSignature secret).toList, ch ∈ Text.hexDigits :=
  ⟨signedInTurn c secrets,
    fun secret => ⟨length_standardSignature c secret, fun _ => Text.mem_hexDigits⟩⟩

end Credentials

end VenueGateway
