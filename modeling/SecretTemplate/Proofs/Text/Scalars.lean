import Mathlib.Data.List.Basic
import SecretTemplate.Text.Utf8

namespace SecretTemplate.Text.Utf8

theorem length_encodeChar (c : Char) : (encodeChar c).length = c.utf8Size := String.length_utf8EncodeChar c

theorem length_encodeChar_pos (c : Char) : 0 < (encodeChar c).length := by
  rw [length_encodeChar]
  exact c.utf8Size_pos

theorem scalar_lt (c : Char) : c.val.toNat < 0x110000 := by
  have valid := c.valid
  simp only [UInt32.isValidChar, Nat.isValidChar] at valid
  omega

theorem toNat_eq_of_mem_encodeChar {c : Char} {b : UInt8} (member : b ∈ encodeChar c) (small : b.toNat < 128) :
    c.toNat = b.toNat := by
  have bound := scalar_lt c
  have same : c.val.toNat = c.toNat := rfl
  simp only [encodeChar, String.utf8EncodeChar, same] at member
  split at member
  · simp only [List.mem_singleton] at member
    subst member
    simp only [UInt8.toNat_ofNat']
    omega
  · -- Every byte of a longer encoding has its highest bit set.
    exfalso
    split at member
    · simp only [List.mem_cons, List.not_mem_nil, or_false] at member
      rcases member with rfl | rfl <;> simp only [UInt8.toNat_ofNat'] at small <;> omega
    · split at member
      · simp only [List.mem_cons, List.not_mem_nil, or_false] at member
        rcases member with rfl | rfl | rfl <;> simp only [UInt8.toNat_ofNat'] at small <;> omega
      · simp only [List.mem_cons, List.not_mem_nil, or_false] at member
        rcases member with rfl | rfl | rfl | rfl <;> simp only [UInt8.toNat_ofNat'] at small <;> omega

theorem ranges_of_encodeChar {c : Char} {b : UInt8} {bs : Bytes} (h : encodeChar c = b :: bs) :
    ¬ (128 ≤ b.toNat ∧ b.toNat < 192) ∧ ∀ later ∈ bs, 128 ≤ later.toNat ∧ later.toNat < 192 := by
  have bound := scalar_lt c
  have same : c.val.toNat = c.toNat := rfl
  simp only [encodeChar, String.utf8EncodeChar, same] at h
  split at h
  · obtain ⟨rfl, rfl⟩ := List.cons.inj h
    simp only [UInt8.toNat_ofNat', List.not_mem_nil, false_implies, implies_true, and_true]
    omega
  · split at h
    · obtain ⟨rfl, rfl⟩ := List.cons.inj h
      simp only [List.mem_cons, List.not_mem_nil, or_false, forall_eq, UInt8.toNat_ofNat']
      omega
    · split at h
      · obtain ⟨rfl, rfl⟩ := List.cons.inj h
        simp only [List.mem_cons, List.not_mem_nil, or_false, forall_eq_or_imp, forall_eq, UInt8.toNat_ofNat']
        omega
      · obtain ⟨rfl, rfl⟩ := List.cons.inj h
        simp only [List.mem_cons, List.not_mem_nil, or_false, forall_eq_or_imp, forall_eq, UInt8.toNat_ofNat']
        omega

theorem head?_encodeChar_append (c : Char) (rest : Bytes) : head? (encodeChar c ++ rest) = some c := by
  have short : (encodeChar c).length ≤ 4 := by
    rw [length_encodeChar]
    exact c.utf8Size_le_four
  unfold head?
  rw [List.take_append, List.take_of_length_le short, List.toByteArray_append]
  exact ByteArray.utf8DecodeChar?_utf8EncodeChar_append

theorem head?_eq_some_iff {bytes : Bytes} {c : Char} :
    head? bytes = some c ↔ ∃ rest, bytes = encodeChar c ++ rest := by
  constructor
  · intro h
    obtain ⟨after, front⟩ := ByteArray.exists_of_utf8DecodeChar?_eq_some h
    have list := congrArg (fun b => b.data.toList) front
    simp only [List.data_toByteArray, ByteArray.data_append, Array.toList_append] at list
    refine ⟨after.data.toList ++ bytes.drop 4, ?_⟩
    calc bytes
      _ = bytes.take 4 ++ bytes.drop 4 := (List.take_append_drop 4 bytes).symm
      _ = encodeChar c ++ (after.data.toList ++ bytes.drop 4) := by
        rw [list, List.append_assoc]
        rfl
  · rintro ⟨rest, rfl⟩
    exact head?_encodeChar_append c rest

@[simp] theorem head?_nil : head? [] = none := by
  rw [Option.eq_none_iff_forall_ne_some]
  intro c h
  obtain ⟨rest, empty⟩ := head?_eq_some_iff.mp h
  have positive := length_encodeChar_pos c
  have none := congrArg List.length empty
  simp only [List.length_nil, List.length_append] at none
  omega

theorem scalars_induction {motive : Bytes → Prop} (stop : ∀ bytes, head? bytes = none → motive bytes)
    (scalar : ∀ c rest, motive rest → motive (encodeChar c ++ rest)) (bytes : Bytes) : motive bytes := by
  generalize size : bytes.length = n
  induction n using Nat.strongRecOn generalizing bytes with
  | ind n ih =>
    cases first : head? bytes with
    | none => exact stop bytes first
    | some c =>
      obtain ⟨rest, rfl⟩ := head?_eq_some_iff.mp first
      have positive := length_encodeChar_pos c
      rw [List.length_append] at size
      exact scalar c rest (ih rest.length (by omega) rest rfl)

theorem encodeChar_eq_cons (c : Char) :
    ∃ b bs, encodeChar c = b :: bs ∧ ∀ rest : Bytes, (bs ++ rest).drop (c.utf8Size - 1) = rest := by
  have length := length_encodeChar c
  cases front : encodeChar c with
  | nil =>
    have positive := length_encodeChar_pos c
    rw [front] at positive
    cases positive
  | cons b bs =>
    refine ⟨b, bs, rfl, fun rest => ?_⟩
    rw [← length, front, List.length_cons, Nat.add_sub_cancel, List.drop_left]

theorem takeScalars_inside (p : Char → Bool) (n : Nat) (bytes : Bytes) :
    takeScalars p n bytes = takeScalars p 0 (bytes.drop n) := by
  induction bytes generalizing n with
  | nil => simp [takeScalars]
  | cons b bs ih =>
    cases n with
    | zero => rfl
    | succ n => rw [takeScalars, ih, List.drop_succ_cons]

theorem takeScalars_of_none (p : Char → Bool) {bytes : Bytes} (h : head? bytes = none) :
    takeScalars p 0 bytes = ([], bytes) := by
  cases bytes with
  | nil => rfl
  | cons b bs => simp only [takeScalars, h]

theorem takeScalars_encodeChar_append (p : Char → Bool) (c : Char) (rest : Bytes) :
    takeScalars p 0 (encodeChar c ++ rest) =
      if p c then (c :: (takeScalars p 0 rest).1, (takeScalars p 0 rest).2) else ([], encodeChar c ++ rest) := by
  have first := head?_encodeChar_append c rest
  obtain ⟨b, bs, front, after⟩ := encodeChar_eq_cons c
  rw [front, List.cons_append] at first ⊢
  simp only [takeScalars, first]
  rw [takeScalars_inside, after]

theorem takeScalars_eq_iff (p : Char → Bool) {bytes rest : Bytes} {cs : List Char} :
    takeScalars p 0 bytes = (cs, rest) ↔
      bytes = cs.flatMap encodeChar ++ rest ∧ (∀ c ∈ cs, p c = true) ∧ ∀ c, head? rest = some c → p c = false := by
  constructor
  · intro h
    induction bytes using scalars_induction generalizing cs with
    | stop bytes none =>
      rw [takeScalars_of_none p none] at h
      cases h
      refine ⟨rfl, by simp, ?_⟩
      simp [none]
    | scalar c after ih =>
      rw [takeScalars_encodeChar_append] at h
      split at h
      · rename_i holds
        cases h
        obtain ⟨whole, all, stops⟩ := ih rfl
        refine ⟨?_, ?_, stops⟩
        · rw [List.flatMap_cons, List.append_assoc, ← whole]
        · intro d member
          rcases List.mem_cons.mp member with rfl | member
          · exact holds
          · exact all d member
      · rename_i fails
        cases h
        refine ⟨rfl, by simp, ?_⟩
        intro d first
        rw [head?_encodeChar_append] at first
        cases first
        simpa using fails
  · rintro ⟨rfl, all, stops⟩
    induction cs with
    | nil =>
      cases first : head? rest with
      | none => exact takeScalars_of_none p first
      | some c =>
        obtain ⟨after, rfl⟩ := head?_eq_some_iff.mp first
        rw [List.flatMap_nil, List.nil_append, takeScalars_encodeChar_append, if_neg]
        simp [stops c first]
    | cons c cs ih =>
      have later := ih fun d member => all d (List.mem_cons_of_mem _ member)
      rw [List.flatMap_cons, List.append_assoc, takeScalars_encodeChar_append,
        if_pos (all c (List.mem_cons_self ..)), later]

theorem decode?_eq_some_iff {bytes : Bytes} {s : String} : decode? bytes = some s ↔ bytes = encode s := by
  unfold decode?
  constructor
  · intro h
    split at h
    · rename_i cs taken
      obtain ⟨whole, -, -⟩ := (takeScalars_eq_iff _).mp taken
      cases h
      rw [whole, List.append_nil, encode, String.toList_ofList]
    · cases h
  · rintro rfl
    have taken : takeScalars (fun _ => true) 0 (encode s) = (s.toList, []) := by
      rw [takeScalars_eq_iff]
      refine ⟨(List.append_nil _).symm, fun _ _ => rfl, ?_⟩
      simp
    simp only [taken, String.ofList_toList]

def mayFollow (first second : UInt8) : Bool :=
  let low : UInt8 := if first = 0xE0 then 0xA0 else if first = 0xF0 then 0x90 else 0x80
  let high : UInt8 := if first = 0xED then 0x9F else if first = 0xF4 then 0x8F else 0xBF
  0xE0 ≤ first && first ≤ 0xF4 && low ≤ second && second ≤ high

/-- How many bytes that begin no scalar are replaced together: the longest beginning of a scalar, or one byte. -/
def brokenLength : Bytes → Nat
  | first :: second :: rest =>
    if mayFollow first second then
      match rest with
      | third :: _ => if 0xF0 ≤ first && 0x80 ≤ third && third ≤ 0xBF then 3 else 2
      | [] => 2
    else 1
  | _ => 1

/-- Decoding that puts a replacement character in the place of bytes that are no scalars. -/
def lossyFrom (inside : Nat) : Bytes → List Char
  | [] => []
  | b :: bs =>
    match inside with
    | n + 1 => lossyFrom n bs
    | 0 =>
      match head? (b :: bs) with
      | some c => c :: lossyFrom (c.utf8Size - 1) bs
      | none => Char.ofNat 0xFFFD :: lossyFrom (brokenLength (b :: bs) - 1) bs

def lossy (bytes : Bytes) : String := .ofList (lossyFrom 0 bytes)

theorem lossyFrom_inside (n : Nat) (bytes : Bytes) : lossyFrom n bytes = lossyFrom 0 (bytes.drop n) := by
  induction bytes generalizing n with
  | nil => simp [lossyFrom]
  | cons b bs ih =>
    cases n with
    | zero => rfl
    | succ n => rw [lossyFrom, ih, List.drop_succ_cons]

theorem lossyFrom_encodeChar_append (c : Char) (rest : Bytes) :
    lossyFrom 0 (encodeChar c ++ rest) = c :: lossyFrom 0 rest := by
  have first := head?_encodeChar_append c rest
  obtain ⟨b, bs, front, after⟩ := encodeChar_eq_cons c
  rw [front, List.cons_append] at first ⊢
  simp only [lossyFrom, first]
  rw [lossyFrom_inside, after]

theorem lossy_encode (s : String) : lossy (encode s) = s := by
  have chars (cs : List Char) : lossyFrom 0 (cs.flatMap encodeChar) = cs := by
    induction cs with
    | nil => rfl
    | cons c cs ih => rw [List.flatMap_cons, lossyFrom_encodeChar_append, ih]
  rw [lossy, encode, chars, String.ofList_toList]

end SecretTemplate.Text.Utf8
