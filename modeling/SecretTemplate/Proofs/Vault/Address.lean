import Mathlib.Data.List.TakeWhile
import SecretTemplate.Proofs.Text.Trimming
import SecretTemplate.Proofs.Url.Authority
import SecretTemplate.Vault.Client

namespace SecretTemplate

namespace Vault

open Url (Host)
open Text (dropEnd dropEnd_append dropEnd_subset)

def portNumber (digits : List Char) : Nat := digits.foldl (fun n c => n * 10 + (c.toNat - 0x30)) 0

/-- A server that is addressed by its host and a port. -/
structure Server where
  host : List Char
  port : List Char
  name : Host
  plain : ∀ c ∈ host, Url.endsAuthority true c = false ∧ c ≠ '@' ∧ c ≠ '\t' ∧ c ≠ '\n' ∧ c ≠ '\r'
  ends : ∀ digits, Url.splitHost false (host ++ ':' :: digits) = (host, ':' :: digits)
  parsed : Host.parse host = .ok name
  accepted : name.text.toList.any Http.isRefusedInHost = false
  digits : ∀ c ∈ port, c.isDigit = true
  bounded : portNumber port ≤ Url.maxPort

namespace Server

variable (server : Server)

def authority : List Char := server.host ++ ':' :: server.port

def address : String := "http://" ++ .ofList server.authority

def port? : Option Nat :=
  if server.port.isEmpty || Url.defaultPort? "http" = some (portNumber server.port) then none
  else some (portNumber server.port)

def root : Url := { scheme := "http", host := some server.name, port := server.port?, path := .segments [] }

theorem host_ne_nil : server.host ≠ [] := by
  intro empty
  have fails : (Host.parse []).toOption = none := by decide +kernel
  rw [← empty, server.parsed] at fails
  cases fails

theorem readPort : Url.port? "http" server.port = .ok (server.port?, []) := by
  have whole : server.port.takeWhile Char.isDigit = server.port := List.takeWhile_eq_self_iff.mpr server.digits
  have small : ¬ Url.maxPort < portNumber server.port := Nat.not_lt.mpr server.bounded
  unfold portNumber at small
  unfold Url.port?
  dsimp only
  rw [whole, List.drop_length, if_neg (by simp [small])]
  rfl

theorem readHost_authority :
    Url.readHost { scheme := "http", path := .segments [] } server.authority = .ok (server.root, []) := by
  have nonempty : server.host.isEmpty = false := by simp [server.host_ne_nil]
  have special : Url.isNetworked "http" = true := by decide
  unfold Url.readHost authority
  rw [server.ends]
  simp [nonempty, special, server.parsed, server.readPort, root, bind, Except.bind, pure, Except.pure]

theorem notMem_authority {c : Char} (host : c ∉ server.host) (colon : c ≠ ':') (digit : c.isDigit = false) :
    c ∉ server.authority := by
  intro member
  rcases List.mem_append.mp member with member | member
  · exact host member
  · rcases List.mem_cons.mp member with same | member
    · exact colon same
    · rw [server.digits c member] at digit
      cases digit

theorem unbroken (c : Char) (member : c ∈ server.authority) : c ≠ '\t' ∧ c ≠ '\n' ∧ c ≠ '\r' := by
  refine ⟨?_, ?_, ?_⟩
  · rintro rfl
    exact server.notMem_authority (fun inHost => (server.plain _ inHost).2.2.1 rfl) (by decide) (by decide) member
  · rintro rfl
    exact server.notMem_authority (fun inHost => (server.plain _ inHost).2.2.2.1 rfl) (by decide) (by decide) member
  · rintro rfl
    exact server.notMem_authority (fun inHost => (server.plain _ inHost).2.2.2.2 rfl) (by decide) (by decide) member

theorem readAuthority_authority (more : Bool) :
    Url.readAuthority { scheme := "http", path := .segments [] } more server.authority = .ok (server.root, []) := by
  have single : Url.splitCredentials server.authority = none := by
    have free : '@' ∉ server.authority :=
      server.notMem_authority (fun member => (server.plain _ member).2.1 rfl) (by decide) (by decide)
    have absent : server.authority.reverse.dropWhile (· != '@') = [] := by
      rw [List.dropWhile_eq_nil_iff]
      intro c member
      rw [bne_iff_ne]
      rintro rfl
      exact free (List.mem_reverse.mp member)
    rw [Url.splitCredentials, absent]
  rw [Url.readAuthority, single]
  exact server.readHost_authority

def opened (cs : List Char) : Url := Url.readPath server.root [] ("/v1/".toList ++ cs)

theorem readFromAuthority_authority (cs : List Char) :
    Url.readFromAuthority "http" (server.authority ++ ("/v1/".toList ++ cs)) = .ok (server.opened cs) := by
  have inside (c : Char) (member : c ∈ server.authority) : Url.endsAuthority true c = false := by
    rcases List.mem_append.mp member with member | member
    · exact (server.plain c member).1
    · rcases List.mem_cons.mp member with rfl | member
      · decide
      · have digit := server.digits c member
        by_contra wrong
        rw [Bool.not_eq_false] at wrong
        simp only [Url.endsAuthority, Bool.true_and, Bool.or_eq_true, beq_iff_eq] at wrong
        rcases wrong with ((rfl | rfl) | rfl) | rfl <;> exact absurd digit (by decide)
  have starts : ∀ c ∈ ("/v1/".toList ++ cs).head?, Url.endsAuthority true c = true := by
    intro c first
    cases first
    decide
  rw [Url.readFromAuthority_append (by decide) inside starts, server.readAuthority_authority]
  rfl

theorem readAfterScheme_authority (cs : List Char) :
    Url.readAfterScheme "http" ("//".toList ++ (server.authority ++ ("/v1/".toList ++ cs))) =
      .ok (server.opened cs) := by
  obtain ⟨c, rest, host⟩ := List.exists_cons_of_ne_nil server.host_ne_nil
  have first : server.authority = c :: (rest ++ ':' :: server.port) := by rw [authority, host, List.cons_append]
  have plain := (server.plain c (host ▸ List.mem_cons_self ..)).1
  have stops : (c == '/' || c == '\\') = false := by
    simp only [Url.endsAuthority, Bool.true_and, Bool.or_eq_false_iff] at plain ⊢
    exact ⟨plain.1.1.1, plain.2⟩
  have dropped :
      ("//".toList ++ (server.authority ++ ("/v1/".toList ++ cs))).dropWhile (fun c => c == '/' || c == '\\') =
      server.authority ++ ("/v1/".toList ++ cs) := by
    rw [List.dropWhile_append_of_pos (by simp), first, List.cons_append, List.dropWhile_cons_of_neg (by simp [stops])]
  have special : Url.isNetworked "http" = true := by decide
  unfold Url.readAfterScheme
  rw [if_neg (by decide), if_pos special, dropped]
  exact server.readFromAuthority_authority cs

/-- A URL below the address is read as a path below the root of the interface, of which only characters that no text
    shows are lost, at the end. -/
theorem parse_address {cs : List Char} (clear : ∀ c ∈ cs, c ≠ '\t' ∧ c ≠ '\n' ∧ c ≠ '\r') :
    Url.parse (server.address ++ "/v1/" ++ .ofList cs) =
      .ok (server.opened (dropEnd (fun c => c.toNat ≤ 0x20) cs)) := by
  have text : (server.address ++ "/v1/" ++ .ofList cs).toList =
      "http://".toList ++ (server.authority ++ ("/v1/".toList ++ cs)) := by
    simp only [address, String.toList_append, String.toList_ofList, List.append_assoc]
  have ended : Text.strip (fun c => c.toNat ≤ 0x20) ("http://".toList ++ (server.authority ++ ("/v1/".toList ++ cs))) =
      "http://".toList ++ (server.authority ++ ("/v1/".toList ++ dropEnd (fun c => c.toNat ≤ 0x20) cs)) := by
    have slash := dropEnd_append (p := fun c => c.toNat ≤ 0x20) (c := '/')
      ("http://".toList ++ (server.authority ++ "/v1".toList)) (by decide) cs
    have shape (cs : List Char) : "http://".toList ++ (server.authority ++ ("/v1/".toList ++ cs)) =
        "http://".toList ++ (server.authority ++ "/v1".toList) ++ '/' :: cs := by
      simp only [List.append_assoc]
      rfl
    rw [shape, shape, ← slash]
    rfl
  have kept : Url.clean ("http://".toList ++ (server.authority ++ ("/v1/".toList ++ cs))) =
      "http://".toList ++ (server.authority ++ ("/v1/".toList ++ dropEnd (fun c => c.toNat ≤ 0x20) cs)) := by
    rw [Url.clean, ended, List.filter_eq_self]
    intro c member
    have apart : c ≠ '\t' ∧ c ≠ '\n' ∧ c ≠ '\r' := by
      rcases List.mem_append.mp member with member | member
      · exact (show ∀ c ∈ "http://".toList, c ≠ '\t' ∧ c ≠ '\n' ∧ c ≠ '\r' by simp) c member
      · rcases List.mem_append.mp member with member | member
        · exact server.unbroken c member
        · rcases List.mem_append.mp member with member | member
          · exact (show ∀ c ∈ "/v1/".toList, c ≠ '\t' ∧ c ≠ '\n' ∧ c ≠ '\r' by simp) c member
          · exact clear c (dropEnd_subset _ cs member)
    simp [apart]
  have scheme (rest : List Char) : Url.scheme? ("http://".toList ++ rest) = some ("http", "//".toList ++ rest) := rfl
  unfold Url.parse
  rw [text, kept, scheme]
  exact server.readAfterScheme_authority _

end Server

end Vault

end SecretTemplate
