import SecretTemplate.Url.Parser

namespace SecretTemplate.Url

theorem bind_eq_ok {α β : Type} {x : Except UrlError α} {f : α → Except UrlError β} {b : β} :
    x.bind f = .ok b ↔ ∃ a, x = .ok a ∧ f a = .ok b := by
  cases x <;> simp [Except.bind]

theorem readMarked_keeps (u : Url) (cs : List Char) :
    (readMarked u cs).path = u.path ∧ (readMarked u cs).scheme = u.scheme ∧ (readMarked u cs).host = u.host ∧
      (readMarked u cs).port = u.port ∧ (readMarked u cs).username = u.username ∧
      (readMarked u cs).password = u.password := by
  unfold readMarked
  dsimp only
  split <;> split <;> exact ⟨rfl, rfl, rfl, rfl, rfl, rfl⟩

theorem scheme_readPath (u : Url) (names : List String) (cs : List Char) : (readPath u names cs).scheme = u.scheme :=
  (readMarked_keeps _ _).2.1

def readPort (u : Url) (host : Host) : List Char → Except UrlError (Url × List Char)
  | ':' :: digits => (port? u.scheme digits).map fun (port, rest) => ({ u with host := some host, port }, rest)
  | rest => .ok ({ u with host := some host, port := none }, rest)

theorem readHost_eq (u : Url) (cs : List Char) :
    readHost u cs =
      if (splitHost false cs).1.isEmpty && (isNetworked u.scheme || !(splitHost false cs).2.isEmpty) then
        .error .emptyHost
      else (if isNetworked u.scheme then Host.parse (splitHost false cs).1
        else Host.parseVerbatim (splitHost false cs).1).bind fun host => readPort u host (splitHost false cs).2 := by
  unfold readHost
  dsimp only
  split
  · rfl
  · split <;> rfl

theorem scheme_readPort {u u' : Url} {host : Host} {cs left : List Char} (read : readPort u host cs = .ok (u', left)) :
    u'.scheme = u.scheme := by
  unfold readPort at read
  split at read
  · rename_i digits
    cases port : port? u.scheme digits with
    | error e => simp [port, Except.map] at read
    | ok found =>
      simp only [port, Except.map, Except.ok.injEq, Prod.mk.injEq] at read
      rw [← read.1]
  · cases read
    rfl

theorem scheme_readHost {u u' : Url} {cs left : List Char} (read : readHost u cs = .ok (u', left)) :
    u'.scheme = u.scheme := by
  rw [readHost_eq] at read
  split at read
  · cases read
  · obtain ⟨host, -, read⟩ := bind_eq_ok.mp read
    exact scheme_readPort read

theorem scheme_readAuthority {u u' : Url} {more : Bool} {cs left : List Char}
    (read : readAuthority u more cs = .ok (u', left)) : u'.scheme = u.scheme := by
  unfold readAuthority at read
  split at read
  · exact scheme_readHost read
  · split at read
    · cases read
    · exact scheme_readHost read
  · dsimp only at read
    split at read
    · cases read
    · exact (scheme_readHost read).trans rfl

theorem scheme_readFromAuthority {scheme : String} {cs : List Char} {u : Url}
    (read : readFromAuthority scheme cs = .ok u) : u.scheme = scheme := by
  obtain ⟨⟨base, left⟩, authority, whole⟩ := bind_eq_ok.mp read
  cases whole
  rw [scheme_readPath]
  exact (scheme_readAuthority authority).trans rfl

theorem scheme_readFilePath (host : Host) (cs : List Char) : (readFilePath host cs).scheme = "file" := by
  have read := scheme_readPath { scheme := "file", host := some host, path := .segments [] } [] cs
  unfold readFilePath withoutEmptyFront withoutHostOfDrive
  dsimp only
  split
  · split
    · split <;> exact read
    · exact read
  · split
    · split <;> exact read
    · exact read

theorem scheme_readFile {cs : List Char} {u : Url} (read : readFile cs = .ok u) : u.scheme = "file" := by
  unfold readFile at read
  split at read
  · dsimp only at read
    split at read
    · cases read
      exact scheme_readFilePath ..
    · have named {x : Except UrlError Host} {path : List Char}
          (read : (x.bind fun host => if host = .domain "" || host = .domain "localhost" then
            .ok (readFilePath (.domain "") ('/' :: path)) else .ok (readFilePath host path)) = .ok u) :
          u.scheme = "file" := by
        obtain ⟨host, -, read⟩ := bind_eq_ok.mp read
        split at read
        · cases read
          exact scheme_readFilePath ..
        · cases read
          exact scheme_readFilePath ..
      split at read
      · exact named read
      · exact named read
  · cases read
    exact scheme_readFilePath ..

theorem scheme_readAfterScheme {scheme : String} {cs : List Char} {u : Url} (read : readAfterScheme scheme cs = .ok u) :
    u.scheme = scheme := by
  unfold readAfterScheme at read
  split at read
  · rename_i file
    rw [file]
    exact scheme_readFile read
  · split at read
    · exact scheme_readFromAuthority read
    · split at read
      · exact scheme_readFromAuthority read
      · cases read
        exact scheme_readPath ..
      · cases read
        exact (readMarked_keeps ..).2.1

theorem port?_of_notMem {scheme : String} {cs left : List Char} {port : Option Nat} (plain : '\\' ∉ cs)
    (read : port? scheme cs = .ok (port, left)) : left = [] := by
  unfold port? at read
  dsimp only at read
  split at read
  · cases read
  · rename_i fine
    cases read
    simp only [Bool.or_eq_true, not_or, decide_eq_true_eq] at fine
    generalize rest : cs.drop (cs.takeWhile Char.isDigit).length = left at fine ⊢
    cases left with
    | nil => rfl
    | cons c left =>
      have slash : c = '\\' := by simpa using fine.2
      have inside : c ∈ cs := List.drop_subset _ _ (by rw [rest]; exact List.mem_cons_self ..)
      rw [slash] at inside
      exact absurd inside plain

theorem splitHost_rest (inside : Bool) (cs : List Char) :
    (splitHost inside cs).2 = [] ∨ ∃ digits, (splitHost inside cs).2 = ':' :: digits ∧ ':' :: digits <:+ cs := by
  induction cs generalizing inside with
  | nil => exact .inl rfl
  | cons c cs ih =>
    unfold splitHost
    split
    · rename_i colon
      simp only [Bool.and_eq_true, decide_eq_true_eq] at colon
      rw [colon.1]
      exact .inr ⟨cs, rfl, List.suffix_rfl⟩
    · rcases ih (c == '[' || (inside && c != ']')) with empty | ⟨digits, same, suffix⟩
      · exact .inl empty
      · exact .inr ⟨digits, same, suffix.trans (List.suffix_cons ..)⟩

theorem readHost_left {u u' : Url} {cs left : List Char} (plain : '\\' ∉ cs)
    (read : readHost u cs = .ok (u', left)) : left = [] := by
  rw [readHost_eq] at read
  split at read
  · cases read
  · obtain ⟨host, -, read⟩ := bind_eq_ok.mp read
    rcases splitHost_rest false cs with empty | ⟨digits, same, suffix⟩
    · rw [empty] at read
      cases read
      rfl
    · rw [same, readPort] at read
      cases port : port? u.scheme digits with
      | error e => simp [port, Except.map] at read
      | ok found =>
        simp only [port, Except.map, Except.ok.injEq, Prod.mk.injEq] at read
        rw [← read.2]
        exact port?_of_notMem (fun member => plain (suffix.subset (List.mem_cons_of_mem _ member))) port

theorem readHost_nil {u : Url} (special : isNetworked u.scheme = true) : readHost u [] = .error .emptyHost := by
  rw [readHost_eq, special]
  rfl

theorem splitCredentials_subset {cs credentials host : List Char}
    (cut : splitCredentials cs = some (credentials, host)) :
    host ⊆ cs := by
  unfold splitCredentials at cut
  split at cut
  · cases cut
    exact List.drop_subset ..
  · cases cut

theorem readAuthority_more {u : Url} (special : isNetworked u.scheme = true) (more : Bool) (cs : List Char) :
    readAuthority u more cs = readAuthority u true cs := by
  unfold readAuthority
  split
  · rfl
  · rw [readHost_nil special]
    split <;> rfl
  · rfl

theorem readAuthority_left {u u' : Url} {more : Bool} {cs left : List Char} (plain : '\\' ∉ cs)
    (read : readAuthority u more cs = .ok (u', left)) : left = [] := by
  unfold readAuthority at read
  split at read
  · exact readHost_left plain read
  · split at read
    · cases read
    · exact readHost_left (by simp) read
  · rename_i cut
    dsimp only at read
    split at read
    · cases read
    · exact readHost_left (fun member => plain (splitCredentials_subset cut member)) read

theorem takeWhile_front {p : Char → Bool} {front tail : List Char} (inside : ∀ c ∈ front, p c = true)
    (stops : ∀ c ∈ tail.head?, p c = false) : (front ++ tail).takeWhile p = front := by
  rw [List.takeWhile_append_of_pos inside]
  cases tail with
  | nil => simp
  | cons c tail => simp [stops c rfl]

/-- The authority is read on its own, and then what follows it. -/
theorem readFromAuthority_append {scheme : String} (networked : isNetworked scheme = true) {authority tail : List Char}
    (inside : ∀ c ∈ authority, endsAuthority true c = false) (starts : ∀ c ∈ tail.head?, endsAuthority true c = true) :
    readFromAuthority scheme (authority ++ tail) =
      ((readAuthority { scheme, path := .segments [] } true authority).map (·.1)).map fun base =>
        readPath base [] tail := by
  have whole : (authority ++ tail).takeWhile (!endsAuthority true ·) = authority :=
    takeWhile_front (fun c member => by simp [inside c member]) (fun c first => by simp [starts c first])
  have plain : '\\' ∉ authority := fun member => Bool.noConfusion (inside _ member)
  have same (more : Bool) : readAuthority { scheme, path := .segments [] } more authority =
      readAuthority { scheme, path := .segments [] } true authority := readAuthority_more networked more authority
  unfold readFromAuthority
  rw [networked]
  simp only [whole, List.drop_left, same]
  cases read : readAuthority { scheme, path := .segments [] } true authority with
  | error e => rfl
  | ok found =>
    obtain ⟨base, left⟩ := found
    cases readAuthority_left plain read
    rfl

end SecretTemplate.Url
