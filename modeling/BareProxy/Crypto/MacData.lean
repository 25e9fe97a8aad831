import BareProxy.Base.LittleEndian
import BareProxy.Base.Words
import BareProxy.Crypto.Aead

/-!
# What the tag authenticates

Header and ciphertext are filled up with zeros to whole blocks, which alone would let bytes move from the one to the
other. The two lengths at the end say where each of them stops, so that equal data has one reading.
-/

namespace BareProxy.Crypto

/-- `chacha20_poly1305_mac_data` with the conversions of the lengths. -/
def chacha20Poly1305MacDataChecked (aad ciphertext : Bytes) : Option Bytes := do
  let aadLen ← u64TryFrom aad.length
  let ciphertextLen ← u64TryFrom ciphertext.length
  return aad ++ pad16 aad.length ++ ciphertext ++ pad16 ciphertext.length ++ leBytes 8 aadLen.toNat ++
    leBytes 8 ciphertextLen.toNat

theorem chacha20Poly1305MacDataChecked_eq {aad ciphertext : Bytes} (haad : aad.length < 2 ^ 64)
    (hciphertext : ciphertext.length < 2 ^ 64) :
    chacha20Poly1305MacDataChecked aad ciphertext = some (chacha20Poly1305MacData aad ciphertext) := by
  rw [chacha20Poly1305MacDataChecked, u64TryFrom_eq haad, u64TryFrom_eq hciphertext, Option.bind_eq_bind,
    Option.bind_some, Option.bind_some, UInt64.toNat_ofNat_of_lt' haad, UInt64.toNat_ofNat_of_lt' hciphertext]
  rfl

/-- Padded input is whole blocks. -/
theorem dvd_length_pad16 (inputLength : Nat) : poly1305BlockSize ∣ inputLength + (pad16 inputLength).length := by
  apply Nat.dvd_of_mod_eq_zero
  rw [pad16, poly1305BlockSize]
  split
  · rw [List.length_replicate]
    omega
  · rename_i hwhole
    rw [List.length_nil]
    omega

theorem dvd_length_macData (aad ciphertext : Bytes) :
    poly1305BlockSize ∣ (chacha20Poly1305MacData aad ciphertext).length := by
  have hlength : (chacha20Poly1305MacData aad ciphertext).length =
      (aad.length + (pad16 aad.length).length) + (ciphertext.length + (pad16 ciphertext.length).length) +
        poly1305BlockSize := by
    simp only [chacha20Poly1305MacData, List.length_append, length_leBytes, poly1305BlockSize]
    omega
  rw [hlength]
  exact ((dvd_length_pad16 _).add (dvd_length_pad16 _)).add dvd_rfl

/-- The lengths are read off the last block, and with them everything before it. -/
theorem chacha20Poly1305MacData_injective {aad ciphertext aad' ciphertext' : Bytes} (haad : aad.length < 2 ^ 64)
    (hciphertext : ciphertext.length < 2 ^ 64) (haad' : aad'.length < 2 ^ 64) (hciphertext' : ciphertext'.length < 2 ^ 64)
    (h : chacha20Poly1305MacData aad ciphertext = chacha20Poly1305MacData aad' ciphertext') :
    aad = aad' ∧ ciphertext = ciphertext' := by
  obtain ⟨h, hciphertextLen⟩ := List.append_inj' h (by rw [length_leBytes, length_leBytes])
  obtain ⟨h, haadLen⟩ := List.append_inj' h (by rw [length_leBytes, length_leBytes])
  have haadLength : aad.length = aad'.length := leBytes_injective haad haad' haadLen
  have hciphertextLength : ciphertext.length = ciphertext'.length :=
    leBytes_injective hciphertext hciphertext' hciphertextLen
  -- with the lengths the padding is the same, and the pieces are cut off one by one
  rw [haadLength, hciphertextLength] at h
  have hfront := List.append_cancel_right h
  obtain ⟨hpadded, hbody⟩ := List.append_inj' hfront hciphertextLength
  exact ⟨List.append_cancel_right hpadded, hbody⟩

/-- What is authenticated is whole blocks, and it determines the header and the ciphertext. -/
theorem chacha20Poly1305MacData_unique :
    (∀ aad ciphertext, poly1305BlockSize ∣ (chacha20Poly1305MacData aad ciphertext).length) ∧
    ∀ aad ciphertext aad' ciphertext' : Bytes, aad.length < 2 ^ 64 → ciphertext.length < 2 ^ 64 →
      aad'.length < 2 ^ 64 → ciphertext'.length < 2 ^ 64 →
      chacha20Poly1305MacDataChecked aad ciphertext = some (chacha20Poly1305MacData aad ciphertext) ∧
      (chacha20Poly1305MacData aad ciphertext = chacha20Poly1305MacData aad' ciphertext' →
        aad = aad' ∧ ciphertext = ciphertext') := by
  refine ⟨dvd_length_macData, ?_⟩
  intro aad ciphertext aad' ciphertext' haad hciphertext haad' hciphertext'
  exact ⟨chacha20Poly1305MacDataChecked_eq haad hciphertext,
    chacha20Poly1305MacData_injective haad hciphertext haad' hciphertext'⟩

/-- A zero that moves from the padding into the header, where it leaves the blocks before the last one as they are. -/
theorem chacha20Poly1305MacData_unique_padding :
    chacha20Poly1305MacData [1] [2] ≠ chacha20Poly1305MacData [1, 0] [2] := by
  intro h
  have hunique := chacha20Poly1305MacData_unique.2 [1] [2] [1, 0] [2] (by decide) (by decide) (by decide) (by decide)
  exact absurd (hunique.2 h).1 (by decide)

end BareProxy.Crypto
