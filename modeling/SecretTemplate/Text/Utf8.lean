namespace SecretTemplate.Text.Utf8

abbrev Bytes := List UInt8

def encodeChar (c : Char) : Bytes := String.utf8EncodeChar c

def encode (s : String) : Bytes := s.toList.flatMap encodeChar

def head? (bytes : Bytes) : Option Char :=
  (bytes.take 4).toByteArray.utf8DecodeChar? 0

/-- The longest run of scalars at the front that satisfy `p`, and the bytes after it. `inside` bytes
    belong to a scalar that has been taken already. -/
def takeScalars (p : Char → Bool) (inside : Nat) : Bytes → List Char × Bytes
  | [] => ([], [])
  | b :: bs =>
    match inside with
    | n + 1 => takeScalars p n bs
    | 0 =>
      match head? (b :: bs) with
      | none => ([], b :: bs)
      | some c =>
        if p c then
          let (cs, rest) := takeScalars p (c.utf8Size - 1) bs
          (c :: cs, rest)
        else ([], b :: bs)

def decode? (bytes : Bytes) : Option String :=
  match takeScalars (fun _ => true) 0 bytes with
  | (cs, []) => some (String.ofList cs)
  | _ => none

end SecretTemplate.Text.Utf8
