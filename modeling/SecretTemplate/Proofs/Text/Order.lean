import SecretTemplate.Keyed
import SecretTemplate.Proofs.Text.Scalars

namespace SecretTemplate.Text.Utf8

theorem byte_cons_lt {m n : Nat} {x y : Bytes} (small : m < n) (bound : n < 256) :
    UInt8.ofNat m :: x < UInt8.ofNat n :: y := by
  rw [List.cons_lt_cons_iff, UInt8.lt_iff_toNat_lt, UInt8.toNat_ofNat', UInt8.toNat_ofNat']
  left
  omega

theorem byte_cons_le {m n : Nat} {x y : Bytes} (small : m ≤ n) (bound : n < 256) (later : m = n → x < y) :
    UInt8.ofNat m :: x < UInt8.ofNat n :: y := by
  rcases Nat.lt_or_eq_of_le small with less | rfl
  · exact byte_cons_lt less bound
  · exact List.cons_lt_cons_iff.mpr (.inr ⟨rfl, later rfl⟩)

theorem encodeChar_append_lt {c d : Char} (less : c < d) (x y : Bytes) : encodeChar c ++ x < encodeChar d ++ y := by
  have order : c.val.toNat < d.val.toNat := less
  have bound := scalar_lt d
  simp only [encodeChar, String.utf8EncodeChar]
  generalize c.val.toNat = m at order
  generalize d.val.toNat = n at order bound
  by_cases one : m ≤ 127
  · rw [if_pos one]
    split
    · exact byte_cons_lt order (by omega)
    · split
      · exact byte_cons_lt (by omega) (by omega)
      · split <;> exact byte_cons_lt (by omega) (by omega)
  rw [if_neg one, if_neg (show ¬n ≤ 127 by omega)]
  by_cases two : m ≤ 2047
  · rw [if_pos two]
    split
    · refine byte_cons_le (by omega) (by omega) fun _ => ?_
      exact byte_cons_lt (by omega) (by omega)
    · split <;> exact byte_cons_lt (by omega) (by omega)
  rw [if_neg two, if_neg (show ¬n ≤ 2047 by omega)]
  by_cases three : m ≤ 65535
  · rw [if_pos three]
    split
    · refine byte_cons_le (by omega) (by omega) fun _ => byte_cons_le (by omega) (by omega) fun _ => ?_
      exact byte_cons_lt (by omega) (by omega)
    · exact byte_cons_lt (by omega) (by omega)
  rw [if_neg three, if_neg (show ¬n ≤ 65535 by omega)]
  refine byte_cons_le (by omega) (by omega) fun _ => byte_cons_le (by omega) (by omega) fun _ =>
    byte_cons_le (by omega) (by omega) fun _ => ?_
  exact byte_cons_lt (by omega) (by omega)

theorem encode_lt_encode {s t : String} (less : s < t) : encode s < encode t := by
  have order : List.Lex (· < ·) s.toList t.toList := String.lt_iff.mp less
  unfold encode
  generalize s.toList = left at order
  generalize t.toList = right at order
  induction order with
  | @nil c rest =>
    obtain ⟨b, bs, front, -⟩ := encodeChar_eq_cons c
    rw [List.flatMap_cons, front]
    exact .nil
  | @rel c left d right below =>
    rw [List.flatMap_cons, List.flatMap_cons]
    exact encodeChar_append_lt below _ _
  | cons _ later =>
    rw [List.flatMap_cons, List.flatMap_cons]
    exact List.append_left_lt later

end SecretTemplate.Text.Utf8

namespace SecretTemplate.Keyed

open Text.Utf8 (encode)

theorem ordered_entries {α : Type} (m : Keyed α) : m.entries.Pairwise fun e later => encode e.1 < encode later.1 :=
  m.ascending.imp fun less => Text.Utf8.encode_lt_encode less

end SecretTemplate.Keyed
