import CitationFusion.Text.Ascii
import CitationFusion.Proofs.Utf8

/-!
# Escapes are read back

Octets may be written as they are, where a class allows it, or as escapes, with digits of either
case. Whoever reads escapes need not know which was done.

* `Writes`, `Writes.decode` : what some octets may be written as, and that it is read back as them.
* `encode_writes` : the encoder writes so, and escapes no more than it has to.
-/

namespace CitationFusion.Percent

open Ascii

/-! ## 1. Reading -/

/-- What some octets may be written as: those of the class `keep` as they are or as an escape, all
    others as an escape. -/
inductive Writes (keep : UInt8 → Bool) : Bytes → Bytes → Prop where
  | nil : Writes keep [] []
  | raw {b : UInt8} {bs es : Bytes} (kept : keep b = true) (rest : Writes keep bs es) :
      Writes keep (b :: bs) (b :: es)
  | escaped {b x y : UInt8} {hi lo : Nat} {bs es : Bytes} (high : hexValue? x = some hi)
      (low : hexValue? y = some lo) (value : hi * 16 + lo = b.toNat) (rest : Writes keep bs es) :
      Writes keep (b :: bs) (0x25 :: x :: y :: es)

variable {keep : UInt8 → Bool} {bs es : Bytes}

/-- An octet that begins no escape stands for itself. -/
theorem decode_raw {a : UInt8} (h : a ≠ 0x25) (es : Bytes) : decode (a :: es) = a :: decode es := by
  match es with
  | [] => rfl
  | [_] => rfl
  | b :: c :: rest =>
    rw [decode, if_neg]
    simpa using h

theorem decode_escaped {b x y : UInt8} {hi lo : Nat} (high : hexValue? x = some hi)
    (low : hexValue? y = some lo) (value : hi * 16 + lo = b.toNat) (es : Bytes) :
    decode (0x25 :: x :: y :: es) = b :: decode es := by
  rw [decode, if_pos (beq_self_eq_true _), high, low]
  simp only [value]
  congr
  exact UInt8.ofNat_toNat

/-- **What some octets are written as is read back as them**, if the sign that begins an escape is
    always escaped. -/
theorem Writes.decode (h : Writes keep bs es) (sign : keep 0x25 = false) : decode es = bs := by
  induction h with
  | nil => rfl
  | @raw b bs es kept _ ih =>
    have hne : b ≠ 0x25 := by
      rintro rfl
      rw [sign] at kept
      cases kept
    rw [decode_raw hne, ih]
  | escaped high low value _ ih => rw [decode_escaped high low value, ih]

/-- Of what is written, every octet is of the class, or belongs to an escape. -/
theorem Writes.mem (h : Writes keep bs es) {b : UInt8} (hb : b ∈ es) :
    keep b = true ∨ b = 0x25 ∨ (hexValue? b).isSome := by
  induction h with
  | nil => cases hb
  | raw kept _ ih =>
    rcases List.mem_cons.1 hb with rfl | hb
    · exact .inl kept
    · exact ih hb
  | escaped high low _ _ ih =>
    simp only [List.mem_cons] at hb
    rcases hb with rfl | rfl | rfl | hb
    · exact .inr (.inl rfl)
    · exact .inr (.inr (by rw [high]; rfl))
    · exact .inr (.inr (by rw [low]; rfl))
    · exact ih hb

/-- Something is written as nothing only if it is nothing. -/
theorem Writes.ne_nil (h : Writes keep bs es) (hne : bs ≠ []) : es ≠ [] := by
  cases h with
  | nil => exact absurd rfl hne
  | raw => exact List.cons_ne_nil _ _
  | escaped => exact List.cons_ne_nil _ _

/-- Every sign in what is written begins an escape, if the sign is always escaped. -/
theorem Writes.escapes (h : Writes keep bs es) (sign : keep 0x25 = false) {u v : Bytes}
    (hes : es = u ++ 0x25 :: v) :
    ∃ x y rest, v = x :: y :: rest ∧ (hexValue? x).isSome ∧ (hexValue? y).isSome := by
  have no_digit : hexValue? 0x25 = none := by decide
  -- the sign is no digit, and is not written as it is, so it is the first octet of an escape
  induction h generalizing u with
  | nil => simp at hes
  | @raw b bs es kept _ ih =>
    cases u with
    | nil =>
      obtain ⟨rfl, -⟩ := List.cons.inj hes
      rw [sign] at kept
      cases kept
    | cons a u => exact ih (List.cons.inj hes).2
  | @escaped b x y hi lo bs es high low _ _ ih =>
    match u, hes with
    | [], hes =>
      obtain ⟨-, rfl⟩ := List.cons.inj hes
      exact ⟨x, y, es, rfl, by rw [high]; rfl, by rw [low]; rfl⟩
    | [_], hes =>
      obtain ⟨rfl, -⟩ := List.cons.inj (List.cons.inj hes).2
      rw [no_digit] at high
      cases high
    | [_, _], hes =>
      obtain ⟨rfl, -⟩ := List.cons.inj (List.cons.inj (List.cons.inj hes).2).2
      rw [no_digit] at low
      cases low
    | _ :: _ :: _ :: u, hes => exact ih (List.cons.inj (List.cons.inj (List.cons.inj hes).2).2).2

/-! ## 2. Writing -/

theorem hexValue_upperHex : ∀ n < 16, hexValue? (upperHex n) = some n := by decide

/-- **The encoder writes octets so that they are read back.** -/
theorem encode_writes (keep : UInt8 → Bool) (bs : Bytes) : Writes keep bs (encode keep bs) := by
  induction bs with
  | nil => exact .nil
  | cons b bs ih =>
    have hb : b.toNat < 256 := UInt8.toNat_lt b
    rw [encode, List.flatMap_cons]
    cases hkeep : keep b with
    | true => exact .raw hkeep ih
    | false =>
      exact .escaped (hexValue_upperHex _ (by omega)) (hexValue_upperHex _ (by omega)) (by omega) ih

/-! ## 3. Unreserved octets -/

theorem isUnreserved_iff {b : UInt8} : isUnreserved b = true ↔
    (0x30 ≤ b.toNat ∧ b.toNat ≤ 0x39) ∨ (0x41 ≤ b.toNat ∧ b.toNat ≤ 0x5A) ∨
      (0x61 ≤ b.toNat ∧ b.toNat ≤ 0x7A) ∨ b.toNat = 0x2D ∨ b.toNat = 0x2E ∨ b.toNat = 0x5F ∨
      b.toNat = 0x7E := by
  simp [isUnreserved, isDigit, UInt8.le_iff_toNat_le, ← UInt8.toNat_inj, or_assoc]

theorem unreserved_of_hexValue {b : UInt8} (h : (hexValue? b).isSome) : isUnreserved b = true := by
  rw [isUnreserved_iff]
  unfold hexValue? isDigit at h
  simp only [Bool.and_eq_true, decide_eq_true_eq, UInt8.le_iff_toNat_le] at h
  split at h
  · rename_i hr
    exact .inl hr
  · split at h
    · rename_i hr
      exact .inr (.inl ⟨hr.1, Nat.le_trans hr.2 (by decide)⟩)
    · split at h
      · rename_i hr
        exact .inr (.inr (.inl ⟨hr.1, Nat.le_trans hr.2 (by decide)⟩))
      · cases h

theorem unreserved_ascii {b : UInt8} (h : isUnreserved b = true) : b.toNat < 0x80 := by
  rw [isUnreserved_iff] at h
  omega

/-- Where unreserved octets are kept, all of what is written is unreserved or begins an escape. -/
theorem Writes.unreserved (h : Writes isUnreserved bs es) {b : UInt8} (hb : b ∈ es) :
    isUnreserved b = true ∨ b = 0x25 := by
  rcases h.mem hb with hkept | rfl | hdigit
  · exact .inl hkept
  · exact .inr rfl
  · exact .inl (unreserved_of_hexValue hdigit)

end CitationFusion.Percent
