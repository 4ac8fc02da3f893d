import SecretTemplate.Url.Host
import SecretTemplate.Url.Path

namespace SecretTemplate

/-- A URL, each of its parts in the encoding in which it is written. -/
structure Url where
  scheme : String
  username : String := ""
  password : String := ""
  /-- An empty host is one that is announced and then left out. -/
  host : Option Url.Host := none
  /-- The port, unless it is the one that the scheme stands for. -/
  port : Option Nat := none
  path : Url.Path
  query : Option String := none
  fragment : Option String := none
  deriving DecidableEq, Repr, Inhabited

namespace Url

def hasHost (u : Url) : Bool :=
  match u.host with
  | none | some (.domain "") => false
  | some _ => true

def defaultPort? : String → Option Nat
  | "http" | "ws" => some 80
  | "https" | "wss" => some 443
  | "ftp" => some 21
  | _ => none

def isNetworked (scheme : String) : Bool := (defaultPort? scheme).isSome

def credentialsText (u : Url) : String :=
  if u.username = "" && u.password = "" then ""
  else u.username ++ (if u.password = "" then "" else ":" ++ u.password) ++ "@"

def portText : Option Nat → String
  | some n => ":" ++ toString n
  | none => ""

def authorityText (u : Url) : String :=
  match u.host with
  | some host => "//" ++ u.credentialsText ++ host.text ++ portText u.port
  | none => ""

def markedText (mark : String) : Option String → String
  | some text => mark ++ text
  | none => ""

def text (u : Url) : String :=
  u.scheme ++ ":" ++ u.authorityText ++ u.path.text u.host.isSome ++ markedText "?" u.query ++
    markedText "#" u.fragment

def target (u : Url) : String := u.path.text true ++ markedText "?" u.query

end Url

end SecretTemplate
