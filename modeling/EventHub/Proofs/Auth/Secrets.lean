import EventHub.Auth.Credential
import EventHub.Proofs.Text.Utf8
import Mathlib.Data.List.OfFn

/-!
Secrets are compared by their digests, and the comparison goes through all pairs of bytes. What it
gathers on its way has the bits in which the bytes of some pair differ. No later pair takes back
what an earlier one has shown, so it does not matter where the differences are, nor how many.
-/

namespace EventHub

namespace Digest

/-- What the comparison has gathered after some pairs of bytes, beginning with `seen`. -/
def gathered (seen : UInt8) (pairs : List (UInt8 × UInt8)) : UInt8 :=
  pairs.foldl (fun difference pair => difference ||| (pair.1 ^^^ pair.2)) seen

def DiffersIn (bit : Nat) (pair : UInt8 × UInt8) : Prop :=
  pair.1.toNat.testBit bit ≠ pair.2.toNat.testBit bit

/-- Two byte strings are different and have the same digest. -/
def Collide (left right : List UInt8) : Prop :=
  left ≠ right ∧ sha256 left = sha256 right

theorem length_ofText (text : String) : (ofText text).length = 32 :=
  length_sha256 _

def bytesOf (text : String) (place : Fin 32) : UInt8 :=
  (ofText text).get (place.cast (length_ofText text).symm)

/-- The bytes of two digests, place by place. -/
def bytePairs (presented expected : String) (place : Fin 32) : UInt8 × UInt8 :=
  (bytesOf presented place, bytesOf expected place)

variable {presented expected : String} {pair : UInt8 × UInt8}

/-! Bits of a byte. -/

theorem byte_eq_of_testBit {left right : UInt8}
    (same : ∀ bit, left.toNat.testBit bit = right.toNat.testBit bit) : left = right :=
  UInt8.toNat_inj.1 (Nat.eq_of_testBit_eq same)

theorem byte_eq_zero_iff {byte : UInt8} : byte = 0 ↔ ∀ bit, ¬byte.toNat.testBit bit = true := by
  constructor
  · rintro rfl bit
    simp
  · intro clear
    refine byte_eq_of_testBit fun bit => ?_
    rw [Bool.eq_false_of_not_eq_true (clear bit)]
    simp

theorem pair_eq_iff : pair.1 = pair.2 ↔ ∀ bit, ¬DiffersIn bit pair := by
  constructor
  · intro same bit differs
    exact differs (by rw [same])
  · intro agree
    exact byte_eq_of_testBit fun bit => not_not.1 (agree bit)

/-! What is gathered. -/

/-- A pair adds the bits in which its bytes differ, and takes none away. -/
theorem testBit_note (seen : UInt8) (pair : UInt8 × UInt8) (bit : Nat) :
    (seen ||| (pair.1 ^^^ pair.2)).toNat.testBit bit = true ↔
      seen.toNat.testBit bit = true ∨ DiffersIn bit pair := by
  rw [UInt8.toNat_or, UInt8.toNat_xor, Nat.testBit_or, Nat.testBit_xor, Bool.or_eq_true,
    Bool.xor_iff_ne, DiffersIn]

theorem testBit_gathered (seen : UInt8) (pairs : List (UInt8 × UInt8)) (bit : Nat) :
    (gathered seen pairs).toNat.testBit bit = true ↔
      seen.toNat.testBit bit = true ∨ ∃ pair ∈ pairs, DiffersIn bit pair := by
  induction pairs generalizing seen with
  | nil => simp [gathered]
  | cons pair rest ih =>
      -- The rest begins with what the first pair leaves, so the start is general.
      rw [List.exists_mem_cons_iff, ← or_assoc, ← testBit_note, ← ih]
      rfl

theorem testBit_gathered_zero (pairs : List (UInt8 × UInt8)) (bit : Nat) :
    (gathered 0 pairs).toNat.testBit bit = true ↔ ∃ pair ∈ pairs, DiffersIn bit pair := by
  rw [testBit_gathered, or_iff_right (byte_eq_zero_iff.1 rfl bit)]

theorem gathered_eq_zero_iff (pairs : List (UInt8 × UInt8)) :
    gathered 0 pairs = 0 ↔ ∀ pair ∈ pairs, pair.1 = pair.2 := by
  rw [byte_eq_zero_iff]
  constructor
  · intro clear pair member
    refine pair_eq_iff.2 fun bit differs => clear bit ?_
    exact (testBit_gathered_zero pairs bit).2 ⟨pair, member, differs⟩
  · intro same bit shown
    obtain ⟨pair, member, differs⟩ := (testBit_gathered_zero pairs bit).1 shown
    exact pair_eq_iff.1 (same pair member) bit differs

/-! The bytes of digests. -/

theorem ofFn_bytesOf (text : String) : List.ofFn (bytesOf text) = ofText text := by
  rw [← List.ofFn_get (ofText text), List.ofFn_congr (length_ofText text)]
  rfl

theorem ofFn_bytePairs (presented expected : String) :
    List.ofFn (bytePairs presented expected) = (ofText presented).zip (ofText expected) := by
  rw [← ofFn_bytesOf, ← ofFn_bytesOf]
  refine List.ext_getElem ?_ fun place _ _ => ?_ <;> simp [bytePairs]

theorem bytesOf_eq_iff : (∀ place, bytesOf presented place = bytesOf expected place) ↔
    ofText presented = ofText expected := by
  rw [← ofFn_bytesOf, ← ofFn_bytesOf, List.ofFn_inj, funext_iff]

theorem ofText_eq_iff : ofText presented = ofText expected ↔
    presented = expected ∨ Collide (Text.utf8 presented) (Text.utf8 expected) := by
  rw [ofText, ofText, Text.toList_toUTF8, Text.toList_toUTF8, Collide, Ne, Text.utf8_inj]
  constructor
  · intro digests
    by_cases same : presented = expected
    · exact .inl same
    · exact .inr ⟨same, digests⟩
  · rintro (rfl | ⟨-, digests⟩)
    · rfl
    · exact digests

end Digest

variable {presented expected : String}

theorem secretsMatch_iff_gathered : secretsMatch presented expected = true ↔
    Digest.gathered 0 (List.ofFn (Digest.bytePairs presented expected)) = 0 := by
  rw [secretsMatch, Digest.sameDigest, beq_iff_eq, Digest.ofFn_bytePairs, Digest.gathered]

theorem secretsMatch_iff : secretsMatch presented expected = true ↔
    Digest.ofText presented = Digest.ofText expected := by
  rw [secretsMatch_iff_gathered, Digest.gathered_eq_zero_iff, List.forall_mem_ofFn_iff]
  exact Digest.bytesOf_eq_iff

/-- Secrets match if and only if their digests agree in every byte. Of any 32 pairs of bytes,
those that differ are found out, however many there are and wherever they stand. Every secret
matches itself, and two different ones match only if they are a collision. -/
theorem secretsMatch_exactly (presented expected : String) :
    (secretsMatch presented expected = true ↔
      ∀ place, Digest.bytesOf presented place = Digest.bytesOf expected place) ∧
    (secretsMatch presented expected = true ↔
      Digest.gathered 0 (List.ofFn (Digest.bytePairs presented expected)) = 0) ∧
    (∀ pairs : Fin 32 → UInt8 × UInt8,
      (Digest.gathered 0 (List.ofFn pairs) = 0 ↔ ∀ place, (pairs place).1 = (pairs place).2) ∧
      ∀ bit, (Digest.gathered 0 (List.ofFn pairs)).toNat.testBit bit = true ↔
        ∃ place, Digest.DiffersIn bit (pairs place)) ∧
    (secretsMatch presented expected = true ↔ presented = expected ∨
      Digest.Collide (Text.utf8 presented) (Text.utf8 expected)) := by
  refine ⟨?_, secretsMatch_iff_gathered, fun pairs => ⟨?_, fun bit => ?_⟩, ?_⟩
  · rw [secretsMatch_iff, Digest.bytesOf_eq_iff]
  · rw [Digest.gathered_eq_zero_iff, List.forall_mem_ofFn_iff]
  · simp only [Digest.testBit_gathered_zero, List.mem_ofFn, exists_exists_eq_and]
  · rw [secretsMatch_iff, Digest.ofText_eq_iff]

example : secretsMatch "shared-secret-value" "shared-secret-valuE" = false := by
  decide +kernel

end EventHub
