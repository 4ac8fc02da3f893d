import SecretTemplate.Proofs.Text.Scalars
import SecretTemplate.Url.Percent

namespace SecretTemplate.Url

open Text (hexValue?)
open Text.Utf8 (Bytes head? head?_encodeChar_append encodeChar_eq_cons ranges_of_encodeChar)

def Part.escapes (part : Part) (c : Char) : Bool := isControl c || part.excluded.contains c

def Part.Unescaped (part : Part) (allowed : Char → Bool) (cs : List Char) : Prop :=
  ∀ c, allowed c = true → part.escapes c = true → ¬ encodeChar part c <:+: cs

variable {part : Part} {allowed : Char → Bool} {c : Char} {cs left right rest : List Char}

theorem encodeChar_of_escapes (h : part.escapes c = true) :
    encodeChar part c = (Text.Utf8.encodeChar c).flatMap escapeByte := if_pos h

theorem encodeChar_of_not_escapes (h : part.escapes c = false) : encodeChar part c = [c] :=
  if_neg (Bool.eq_false_iff.mp h)

theorem encode_cons (part : Part) (c : Char) (cs : List Char) :
    encode part (c :: cs) = encodeChar part c ++ encode part cs := List.flatMap_cons

theorem upperHex_ne_percent : ∀ n < 16, upperHex n ≠ '%' := by decide

theorem hexValue?_upperHex : ∀ n < 16, hexValue? (upperHex n) = some n := by decide

theorem decodeBytes_escapeByte (b : UInt8) (rest : List Char) :
    decodeBytes (escapeByte b ++ rest) = b :: decodeBytes rest := by
  have small := b.toNat_lt
  simp only [escapeByte, List.cons_append, List.nil_append, decodeBytes]
  rw [hexValue?_upperHex _ (by omega), hexValue?_upperHex _ (by omega)]
  dsimp only
  rw [Nat.div_add_mod', UInt8.ofNat_toNat]

theorem decodeBytes_escapes (bytes : Bytes) (rest : List Char) :
    decodeBytes (bytes.flatMap escapeByte ++ rest) = bytes ++ decodeBytes rest := by
  induction bytes with
  | nil => rfl
  | cons b bytes ih => rw [List.flatMap_cons, List.append_assoc, decodeBytes_escapeByte, ih, List.cons_append]

theorem escape_eq_cons (h : part.escapes c = true) :
    ∃ b bytes, Text.Utf8.encodeChar c = b :: bytes ∧
      encodeChar part c = '%' :: upperHex (b.toNat / 16) :: upperHex (b.toNat % 16) :: bytes.flatMap escapeByte := by
  obtain ⟨b, bytes, front, -⟩ := encodeChar_eq_cons c
  refine ⟨b, bytes, front, ?_⟩
  rw [encodeChar_of_escapes h, front]
  rfl

theorem notMem_encode {mark : Char} (absent : mark ∉ cs) (percent : mark ≠ '%')
    (digit : ∀ n < 16, mark ≠ upperHex n) : mark ∉ encode part cs := by
  intro member
  obtain ⟨c, inside, written⟩ := List.mem_flatMap.mp member
  cases escaped : part.escapes c with
  | true =>
    rw [encodeChar_of_escapes escaped] at written
    obtain ⟨b, -, here⟩ := List.mem_flatMap.mp written
    have small := b.toNat_lt
    simp only [escapeByte, List.mem_cons, List.not_mem_nil, or_false] at here
    rcases here with same | same | same
    · exact percent same
    · exact digit _ (by omega) same
    · exact digit _ (by omega) same
  | false =>
    rw [encodeChar_of_not_escapes escaped, List.mem_singleton] at written
    exact absent (written ▸ inside)

theorem encode_ne_nil (part : Part) (c : Char) (cs : List Char) : encode part (c :: cs) ≠ [] := by
  rw [encode_cons]
  cases escaped : part.escapes c with
  | true =>
    obtain ⟨b, bytes, -, whole⟩ := escape_eq_cons escaped
    rw [whole]
    exact List.cons_ne_nil _ _
  | false =>
    rw [encodeChar_of_not_escapes escaped]
    exact List.cons_ne_nil _ _

theorem literal_of_encode (other : c ≠ '%') (h : encode part cs = c :: rest) :
    ∃ left, cs = c :: left ∧ encode part left = rest := by
  cases cs with
  | nil => cases h
  | cons first left =>
    rw [encode_cons] at h
    cases escaped : part.escapes first with
    | true =>
      obtain ⟨b, bytes, -, whole⟩ := escape_eq_cons escaped
      rw [whole] at h
      exact (other (List.cons.inj h).1.symm).elim
    | false =>
      rw [encodeChar_of_not_escapes escaped] at h
      obtain ⟨rfl, same⟩ := List.cons.inj h
      exact ⟨left, rfl, same⟩

theorem percent_of_encode {x y : Nat} (first : x < 16) (second : y < 16)
    (h : encode part cs = '%' :: upperHex x :: upperHex y :: rest) :
    (∃ c left bytes, cs = c :: left ∧ part.escapes c = true ∧
      Text.Utf8.encodeChar c = UInt8.ofNat (x * 16 + y) :: bytes) ∨
      ∃ left, cs = '%' :: upperHex x :: upperHex y :: left ∧ encode part left = rest := by
  cases cs with
  | nil => cases h
  | cons c left =>
    rw [encode_cons] at h
    cases escaped : part.escapes c with
    | true =>
      obtain ⟨b, bytes, front, -⟩ := escape_eq_cons escaped
      have decoded := congrArg decodeBytes h
      rw [encodeChar_of_escapes escaped, decodeBytes_escapes, front, List.cons_append, decodeBytes,
        hexValue?_upperHex x first, hexValue?_upperHex y second] at decoded
      obtain ⟨same, -⟩ := List.cons.inj decoded
      exact .inl ⟨c, left, bytes, rfl, escaped, by rw [front, same]⟩
    | false =>
      rw [encodeChar_of_not_escapes escaped] at h
      obtain ⟨rfl, digits⟩ := List.cons.inj h
      obtain ⟨left, rfl, digit⟩ := literal_of_encode (upperHex_ne_percent x first) digits
      obtain ⟨left, rfl, same⟩ := literal_of_encode (upperHex_ne_percent y second) digit
      exact .inr ⟨left, rfl, same⟩

theorem literal_of_escapes {bytes : Bytes} (later : ∀ b ∈ bytes, 128 ≤ b.toNat ∧ b.toNat < 192)
    (h : encode part cs = bytes.flatMap escapeByte ++ rest) :
    ∃ left, cs = bytes.flatMap escapeByte ++ left ∧ encode part left = rest := by
  induction bytes generalizing cs with
  | nil => exact ⟨cs, rfl, h⟩
  | cons b bytes ih =>
    have small := b.toNat_lt
    have range := later b (List.mem_cons_self ..)
    have h : encode part cs = '%' :: upperHex (b.toNat / 16) :: upperHex (b.toNat % 16) ::
      (bytes.flatMap escapeByte ++ rest) := h
    rcases percent_of_encode (by omega) (by omega) h with ⟨c, _, _, -, -, front⟩ | ⟨left, rfl, same⟩
    · rw [Nat.div_add_mod', UInt8.ofNat_toNat] at front
      exact ((ranges_of_encodeChar front).1 range).elim
    · obtain ⟨tail, rfl, ends⟩ := ih (fun b member => later b (List.mem_cons_of_mem _ member)) same
      exact ⟨tail, rfl, ends⟩

theorem prefix_of_escape (escaped : part.escapes c = true) (h : encode part cs = encodeChar part c ++ rest) :
    (∃ left, cs = c :: left) ∨ encodeChar part c <+: cs := by
  obtain ⟨b, bytes, front, whole⟩ := escape_eq_cons escaped
  have small := b.toNat_lt
  have decoded := congrArg decodeBytes h
  rw [encodeChar_of_escapes escaped, decodeBytes_escapes] at decoded
  rw [whole] at h
  rcases percent_of_encode (by omega) (by omega) h with ⟨other, left, _, rfl, escaped', -⟩ | ⟨left, rfl, same⟩
  · left
    -- Both texts stand for the same bytes, and those begin with one scalar only.
    rw [encode_cons, encodeChar_of_escapes escaped', decodeBytes_escapes] at decoded
    have scalar := congrArg head? decoded
    rw [head?_encodeChar_append, head?_encodeChar_append] at scalar
    cases scalar
    exact ⟨left, rfl⟩
  · right
    obtain ⟨left, rfl, -⟩ := literal_of_escapes (ranges_of_encodeChar front).2 same
    rw [whole]
    exact ⟨left, rfl⟩

theorem Part.Unescaped.tail (unescaped : part.Unescaped allowed (c :: cs)) : part.Unescaped allowed cs :=
  fun d holds escaped inside => unescaped d holds escaped (inside.trans (List.suffix_cons c cs).isInfix)

theorem unescaped_of_notMem (absent : '%' ∉ cs) : part.Unescaped allowed cs := by
  intro c _ escaped inside
  obtain ⟨b, bytes, -, whole⟩ := escape_eq_cons escaped
  rw [whole] at inside
  exact absent (inside.subset (List.mem_cons_self ..))

theorem first_of_escape {d : Char} (escaped : part.escapes c = true)
    (unescaped : ¬ encodeChar part c <:+: d :: right) (same : encode part (d :: right) = encode part (c :: left)) :
    d = c := by
  rcases prefix_of_escape escaped (same.trans (encode_cons part c left)) with ⟨_, whole⟩ | inside
  · exact (List.cons.inj whole).1
  · exact (unescaped inside.isInfix).elim

theorem encode_injective (allowedLeft : ∀ c ∈ left, allowed c = true) (allowedRight : ∀ c ∈ right, allowed c = true)
    (unescapedLeft : part.Unescaped allowed left) (unescapedRight : part.Unescaped allowed right)
    (same : encode part left = encode part right) : left = right := by
  induction left generalizing right with
  | nil =>
    cases right with
    | nil => rfl
    | cons d right => exact (encode_ne_nil part d right same.symm).elim
  | cons c left ih =>
    cases right with
    | nil => exact (encode_ne_nil part c left same).elim
    | cons d right =>
      have allowedC := allowedLeft c (List.mem_cons_self ..)
      have allowedD := allowedRight d (List.mem_cons_self ..)
      have here : c = d := by
        cases escapedC : part.escapes c with
        | true => exact (first_of_escape escapedC (unescapedRight c allowedC escapedC) same.symm).symm
        | false =>
          cases escapedD : part.escapes d with
          | true => exact first_of_escape escapedD (unescapedLeft d allowedD escapedD) same
          | false =>
            rw [encode_cons, encode_cons, encodeChar_of_not_escapes escapedC,
              encodeChar_of_not_escapes escapedD] at same
            exact (List.cons.inj same).1
      subst here
      rw [encode_cons, encode_cons, List.append_cancel_left_eq] at same
      rw [ih (fun d member => allowedLeft d (List.mem_cons_of_mem _ member))
        (fun d member => allowedRight d (List.mem_cons_of_mem _ member)) unescapedLeft.tail unescapedRight.tail same]

end SecretTemplate.Url
