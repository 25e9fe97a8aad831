import BareProxy.Base.Indexing
import BareProxy.Der.Base128

/-!
# Object identifiers

Identifiers with different arcs have different encodings: the high bit of a byte says whether the digits of an arc go
on, and the digits say the arc. `der_object_identifier` is embedded a second time with the words, the checked sums and
the buffer of the source.
-/

namespace BareProxy.Der

/-- An identifier that is encoded has two arcs at least, the first of them at most two. -/
theorem derObjectIdentifier_ok {arcs : List Nat} {encoded : Bytes} (h : derObjectIdentifier arcs = .ok encoded) :
    ∃ first second more, arcs = first :: second :: more ∧ (first < 2 ∧ second ≤ 39 ∨ first = 2 ∧ second + 80 ≤ u64Max) ∧
      encoded = derWrap derTagObjectIdentifier
        (((if first < 2 then first * 40 + second else second + 80) :: more).flatMap base128) := by
  match arcs, h with
  | first :: second :: more, h =>
      rw [derObjectIdentifier] at h
      split at h
      · cases h
      · rename_i hshape
        split at h
        · cases h
        · rename_i hlarge
          cases h
          exact ⟨first, second, more, rfl, by omega, rfl⟩

/-- Different arcs, different bytes. -/
theorem derObjectIdentifier_injective {arcs arcs' : List Nat} {encoded : Bytes} (harcs : ∀ arc ∈ arcs, arc ≤ u64Max)
    (harcs' : ∀ arc ∈ arcs', arc ≤ u64Max) (h : derObjectIdentifier arcs = .ok encoded)
    (h' : derObjectIdentifier arcs' = .ok encoded) : arcs = arcs' := by
  have hwide : u64Max < 128 ^ 10 := by decide
  obtain ⟨first, second, more, rfl, hfirst, rfl⟩ := derObjectIdentifier_ok h
  obtain ⟨first', second', more', rfl, hfirst', hsame⟩ := derObjectIdentifier_ok h'
  have hcontent := derWrap_injective _ hsame
  have hmore (first second : Nat) (hfirst : first < 2 ∧ second ≤ 39 ∨ first = 2 ∧ second + 80 ≤ u64Max) (more : List Nat)
      (harcs : ∀ arc ∈ first :: second :: more, arc ≤ u64Max) :
      ∀ arc ∈ (if first < 2 then first * 40 + second else second + 80) :: more, arc < 128 ^ 10 := by
    intro arc harc
    rcases List.mem_cons.1 harc with rfl | harc
    · split <;> omega
    · exact (harcs arc (List.mem_cons_of_mem _ (List.mem_cons_of_mem _ harc))).trans_lt hwide
  obtain ⟨hnumber, rfl⟩ := List.cons.inj (prefixFree_base128.flatMap_injective (fun value _ => base128_ne_nil value)
    (hmore first second hfirst more harcs) (hmore first' second' hfirst' more' harcs') hcontent)
  have harc : first = first' ∧ second = second' := by
    split at hnumber <;> split at hnumber <;> omega
  rw [harc.1, harc.2]

/-! ### With the words of the source -/

open Indexed

/-- The number that the first two arcs are merged into. -/
def firstSubidentifierChecked (first second : UInt64) : Except (Stop DerError) UInt64 :=
  if first < 2 then okOr .outOfBounds ((checkedMul first 40).bind fun product => checkedAdd product second)
  else lift (okOr .invalidObjectIdentifier (checkedAdd second 80))

def derObjectIdentifierChecked (arcs : List UInt64) : Except (Stop DerError) Bytes :=
  match arcs with
  | first :: second :: more => do
      lift (ensure (¬first > 2) .invalidObjectIdentifier)
      lift (ensure (¬(first < 2 ∧ second > 39)) .invalidObjectIdentifier)
      let firstSubidentifier ← firstSubidentifierChecked first second
      let content ← okOr .outOfBounds (pushBase128 [] firstSubidentifier)
      let content ← okOr .outOfBounds (more.foldlM pushBase128 content)
      return derWrap derTagObjectIdentifier content
  | _ => .error (.error .invalidObjectIdentifier)

theorem firstSubidentifierChecked_small {first second : UInt64} (hfirst : first.toNat < 2) (hsecond : second.toNat ≤ 39) :
    ∃ merged, firstSubidentifierChecked first second = .ok merged ∧ merged.toNat = first.toNat * 40 + second.toNat := by
  have hforty : (40 : UInt64).toNat = 40 := rfl
  have hproduct : first.toNat * (40 : UInt64).toNat < 2 ^ 64 := by
    rw [hforty]
    omega
  have hvalue := toNat_mul_of_product_lt first 40 hproduct
  rw [hforty] at hvalue
  have hsum : (first * 40).toNat + second.toNat < 2 ^ 64 := by omega
  refine ⟨first * 40 + second, ?_, ?_⟩
  · rw [firstSubidentifierChecked, if_pos (UInt64.lt_iff_toNat_lt.2 hfirst), checkedMul_eq hproduct, Option.bind_some,
      checkedAdd_eq hsum, okOr_some]
  · rw [toNat_add_of_sum_lt _ _ hsum, hvalue]

theorem firstSubidentifierChecked_two {first second : UInt64} (hfirst : ¬first.toNat < 2) :
    firstSubidentifierChecked first second =
      if second.toNat + 80 ≤ u64Max then .ok (second + 80) else .error (.error .invalidObjectIdentifier) := by
  have heighty : (80 : UInt64).toNat = 80 := rfl
  rw [firstSubidentifierChecked, if_neg (mt UInt64.lt_iff_toNat_lt.1 hfirst), checkedAdd, heighty, u64Max]
  by_cases hfits : second.toNat + 80 < 2 ^ 64
  · rw [if_pos hfits, if_pos (by omega), okOr_some, lift_ok]
  · rw [if_neg hfits, if_neg (by omega)]
    rfl

theorem foldlM_pushBase128 (arcs : List UInt64) (content : Bytes) :
    arcs.foldlM pushBase128 content = some (content ++ (arcs.map UInt64.toNat).flatMap base128) := by
  induction arcs generalizing content with
  | nil => exact congrArg some (List.append_nil content).symm
  | cons arc arcs ih =>
      rw [List.foldlM_cons, pushBase128_eq, Option.bind_eq_bind, Option.bind_some, ih, List.map_cons, List.flatMap_cons,
        List.append_assoc]

/-- No sum overflows and no index leaves the buffer. -/
theorem derObjectIdentifierChecked_eq (arcs : List UInt64) :
    derObjectIdentifierChecked arcs = lift (derObjectIdentifier (arcs.map UInt64.toNat)) := by
  match arcs with
  | [] => rfl
  | [_] => rfl
  | first :: second :: more =>
      have hlarge : first > 2 ↔ first.toNat > 2 := UInt64.lt_iff_toNat_lt
      have hrange : first < 2 ∧ second > 39 ↔ first.toNat < 2 ∧ second.toNat > 39 :=
        and_congr UInt64.lt_iff_toNat_lt UInt64.lt_iff_toNat_lt
      have hpush (merged : UInt64) :
          (okOr .outOfBounds (pushBase128 [] merged) >>= fun content =>
            okOr .outOfBounds (more.foldlM pushBase128 content) >>= fun content =>
              (pure (derWrap derTagObjectIdentifier content) : Except (Stop DerError) Bytes)) =
            .ok (derWrap derTagObjectIdentifier (base128 merged.toNat ++ (more.map UInt64.toNat).flatMap base128)) := by
        rw [pushBase128_eq, okOr_some, ok_bind, foldlM_pushBase128, okOr_some, ok_bind]
        rfl
      rw [derObjectIdentifierChecked, List.map_cons, List.map_cons, derObjectIdentifier]
      by_cases hthree : first.toNat > 2
      · rw [if_pos (Or.inl hthree), ensure, if_neg (not_not_intro (hlarge.2 hthree))]
        rfl
      rw [ensure_of (mt hlarge.1 hthree), lift_ok, ok_bind]
      by_cases hwide : first.toNat < 2 ∧ second.toNat > 39
      · rw [if_pos (Or.inr hwide), ensure, if_neg (not_not_intro (hrange.2 hwide))]
        rfl
      rw [ensure_of (mt hrange.1 hwide), lift_ok, ok_bind, if_neg (not_or.2 ⟨hthree, hwide⟩)]
      by_cases hfirst : first.toNat < 2
      · have hsecond : second.toNat ≤ 39 := by omega
        obtain ⟨merged, hmerged, hvalue⟩ := firstSubidentifierChecked_small hfirst hsecond
        rw [hmerged, ok_bind, hpush, hvalue, if_neg (by omega), if_pos hfirst, lift_ok]
      · rw [firstSubidentifierChecked_two hfirst]
        by_cases hfits : second.toNat + 80 ≤ u64Max
        · have hsum := toNat_add_of_sum_lt second 80 (by rw [u64Max] at hfits; exact Nat.lt_succ_of_le hfits)
          rw [if_pos hfits, ok_bind, hpush, hsum, if_neg (by omega), if_neg hfirst]
          rfl
        · rw [if_neg hfits, if_pos (by omega)]
          rfl

/-- An encoding stands for one list of arcs, and each arc in it is the shortest string of digits whose high bits show
where it ends; the program is never stopped. -/
theorem derObjectIdentifier_unique :
    (∀ (arcs arcs' : List UInt64) (encoded : Bytes), derObjectIdentifierChecked arcs = .ok encoded →
      derObjectIdentifierChecked arcs' = .ok encoded → arcs = arcs') ∧
    (∀ arcs : List UInt64, derObjectIdentifierChecked arcs ≠ .error .outOfBounds) ∧
    (∀ (output : Bytes) (value : UInt64), ∃ front last,
      pushBase128 output value = some (output ++ (front ++ [last])) ∧ (front ++ [last]).length ≤ 10 ∧
      (∀ byte ∈ front, byte &&& 0x80 ≠ 0) ∧ last &&& 0x80 = 0 ∧ base128Value (front ++ [last]) = value.toNat ∧
      ∀ other : Bytes, other ≠ [] → base128Value other = value.toNat → (front ++ [last]).length ≤ other.length) := by
  refine ⟨?_, ?_, ?_⟩
  · intro arcs arcs' encoded h h'
    rw [derObjectIdentifierChecked_eq, lift, mapErr_eq_ok] at h h'
    have hwords (arcs : List UInt64) : ∀ arc ∈ arcs.map UInt64.toNat, arc ≤ u64Max := by
      intro arc harc
      obtain ⟨word, -, rfl⟩ := List.mem_map.1 harc
      exact Nat.le_of_lt_succ word.toNat_lt
    have hsame := derObjectIdentifier_injective (hwords arcs) (hwords arcs') h h'
    exact List.map_injective_iff.2 (fun _ _ => UInt64.toNat_inj.1) hsame
  · intro arcs
    rw [derObjectIdentifierChecked_eq]
    exact lift_ne_outOfBounds _
  · intro output value
    have hvalue : value.toNat < 128 ^ 10 := value.toNat_lt.trans (by decide)
    obtain ⟨front, last, hbytes, hfront, hlast⟩ := base128_highBits value.toNat
    refine ⟨front, last, hbytes ▸ pushBase128_eq output value, ?_, hfront, hlast, ?_, ?_⟩
    · rw [← hbytes, length_base128]
      exact length_base128Digits_le 10 _
    · rw [← hbytes, base128Value_base128 hvalue]
    · intro other hne hother
      rw [← hbytes, ← hother]
      exact length_base128_le hne

/-- The name of SubjectAltName, read off its encoding. -/
theorem derObjectIdentifier_unique_subjectAltName : oidSubjectAltName.map UInt64.ofNat = [2, 5, 29, 17] :=
  derObjectIdentifier_unique.1 _ _ [0x06, 0x03, 0x55, 0x1d, 0x11] (by decide) (by decide)

end BareProxy.Der
