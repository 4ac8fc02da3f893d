import SecretTemplate.Domain.Name
import SecretTemplate.Url.Percent

namespace SecretTemplate

inductive UrlError
  | noScheme
  | emptyHost
  | invalidPort
  | invalidIpv4
  | invalidIpv6
  | invalidDomain
  | invalidHostCharacter
  deriving DecidableEq, Repr, Inhabited

def UrlError.message : UrlError → String
  | noScheme => "relative URL without a base"
  | emptyHost => "empty host"
  | invalidPort => "invalid port number"
  | invalidIpv4 => "invalid IPv4 address"
  | invalidIpv6 => "invalid IPv6 address"
  | invalidDomain => "invalid international domain name"
  | invalidHostCharacter => "invalid domain character"

namespace Url

inductive Host
  | domain (name : String)
  | ipv4 (address : Nat)
  | ipv6 (pieces : List Nat)
  deriving DecidableEq, Repr, Inhabited

namespace Host

def ipv4Number? (cs : List Char) : Option Nat :=
  let value (base : Nat) (ds : List Char) : Option Nat :=
    ds.foldlM (fun n c => (Text.hexValue? c).bind fun d => if d < base then some (n * base + d) else none) 0
  match cs with
  | [] => none
  | '0' :: 'x' :: ds | '0' :: 'X' :: ds => value 16 ds
  | '0' :: d :: ds => value 8 (d :: ds)
  | ds => value 10 ds

/-- A last label of digits, or one that is a number otherwise, makes a domain name an address. -/
def endsInNumber (labels : List (List Char)) : Bool :=
  let last := match labels.reverse with
    | [] :: label :: _ => label
    | label :: _ => label
    | [] => []
  (!last.isEmpty && last.all Char.isDigit) || (ipv4Number? last).isSome

def ipv4? (labels : List (List Char)) : Option Nat := do
  let labels := if labels.getLast? = some [] then labels.dropLast else labels
  guard (labels.length ≤ 4)
  let numbers ← labels.mapM ipv4Number?
  let last ← numbers.getLast?
  let lead := numbers.dropLast
  guard (lead.all (· ≤ 255) && last < Nat.pow 256 (4 - lead.length))
  return lead.zipIdx.foldl (fun total (n, i) => total + n * Nat.pow 256 (3 - i)) last

def hexPiece? (cs : List Char) : Option Nat :=
  if cs.isEmpty || 4 < cs.length then none
  else cs.foldlM (fun n c => (Text.hexValue? c).map (n * 16 + ·)) 0

def dottedPieces? (cs : List Char) : Option (List Nat) := do
  let numbers ← (Text.splitAll '.' cs).mapM fun ds => do
    guard (!ds.isEmpty && ds.length ≤ 3 && (ds.length = 1 || ds.head? != some '0') &&
      ds.all Char.isDigit)
    let n := ds.foldl (fun n c => n * 10 + (c.toNat - 0x30)) 0
    guard (n ≤ 255)
    return n
  match numbers with
  | [a, b, c, d] => some [a * 256 + b, c * 256 + d]
  | _ => none

def pieces? (cs : List Char) : Option (List Nat) :=
  if cs.isEmpty then some []
  else
    let parts := Text.splitAll ':' cs
    match parts.reverse with
    | last :: rest => do
      let lead ← rest.reverse.mapM hexPiece?
      let tail ← if last.contains '.' then dottedPieces? last else (hexPiece? last).map ([·])
      return lead ++ tail
    | [] => none

def splitDouble : List Char → Option (List Char × List Char)
  | ':' :: ':' :: rest => some ([], rest)
  | c :: rest => (splitDouble rest).map fun (l, r) => (c :: l, r)
  | [] => none

def ipv6? (cs : List Char) : Option (List Nat) :=
  match splitDouble cs with
  | none => do
    let pieces ← pieces? cs
    guard (pieces.length = 8)
    return pieces
  | some (left, right) => do
    guard (!left.contains '.')
    let lead ← pieces? left
    let tail ← pieces? right
    guard (lead.length + tail.length ≤ 7)
    return lead ++ List.replicate (8 - lead.length - tail.length) 0 ++ tail

def zeros (pieces : List Nat) : Nat := (pieces.takeWhile (· = 0)).length

/-- Where the first of the longest runs of zeros begins, and its length. -/
def longestZeros (pieces : List Nat) : Nat × Nat :=
  (List.range pieces.length).foldl (fun best i =>
    let n := zeros (pieces.drop i)
    if best.2 < n then (i, n) else best) (0, 0)

def piecesText (pieces : List Nat) : List Char := List.intercalate [':'] (pieces.map Text.hex)

def ipv6Text (pieces : List Nat) : List Char :=
  let (i, n) := longestZeros pieces
  if n < 2 then piecesText pieces
  else piecesText (pieces.take i) ++ [':', ':'] ++ piecesText (pieces.drop (i + n))

def bracketed (cs : List Char) : Except UrlError Host :=
  match cs.reverse with
  | ']' :: inner =>
    match ipv6? inner.reverse with
    | some pieces => .ok (.ipv6 pieces)
    | none => .error .invalidIpv6
  | _ => .error .invalidIpv6

def parse : List Char → Except UrlError Host
  | '[' :: rest => bracketed rest
  | cs =>
    match (Text.Utf8.decode? (decodeBytes cs)).bind (Domain.toAscii? ·.toList) with
    | none => .error .invalidDomain
    | some [] => .error .emptyHost
    | some name =>
      let labels := Text.splitAll '.' name
      if endsInNumber labels then
        match ipv4? labels with
        | some address => .ok (.ipv4 address)
        | none => .error .invalidIpv4
      else .ok (.domain (.ofList name))

def isForbiddenVerbatim (c : Char) : Bool :=
  ['\x00', '\t', '\n', '\r', ' ', '#', '/', ':', '<', '>', '?', '@', '[', '\\', ']', '^', '|'].contains c

def parseVerbatim : List Char → Except UrlError Host
  | '[' :: rest => bracketed rest
  | cs =>
    if cs.any isForbiddenVerbatim then .error .invalidHostCharacter
    else .ok (.domain (.ofList (encode .plainPath cs)))

def text : Host → String
  | domain name => name
  | ipv4 n =>
    String.intercalate "." ([n / Nat.pow 2 24, n / Nat.pow 2 16 % 256, n / Nat.pow 2 8 % 256, n % 256].map toString)
  | ipv6 pieces => String.ofList (['['] ++ ipv6Text pieces ++ [']'])

end Host

end Url

end SecretTemplate
