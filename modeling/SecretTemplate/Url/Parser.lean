import SecretTemplate.Url.Basic

namespace SecretTemplate.Url

def clean (cs : List Char) : List Char :=
  (Text.strip (fun c => c.toNat ≤ 0x20) cs).filter fun c => c != '\t' && c != '\n' && c != '\r'

def isSchemeChar (c : Char) : Bool := c.isAlphanum || c == '+' || c == '-' || c == '.'

def scheme? (cs : List Char) : Option (String × List Char) :=
  match cs.dropWhile isSchemeChar with
  | ':' :: rest =>
    let name := cs.takeWhile isSchemeChar
    if name.head?.any Char.isAlpha then some (.ofList (name.map Char.toLower), rest) else none
  | _ => none

def endsAuthority (special : Bool) (c : Char) : Bool :=
  c == '/' || c == '?' || c == '#' || (special && c == '\\')

def splitCredentials (cs : List Char) : Option (List Char × List Char) :=
  match cs.reverse.dropWhile (· != '@') with
  | _ :: rest => some (rest.reverse, cs.drop (rest.length + 1))
  | [] => none

def splitHost (inside : Bool) : List Char → List Char × List Char
  | [] => ([], [])
  | c :: cs =>
    if c = ':' && !inside then ([], c :: cs)
    else
      let (host, rest) := splitHost (c == '[' || (inside && c != ']')) cs
      (c :: host, rest)

def maxPort : Nat := 65535

def port? (scheme : String) (cs : List Char) : Except UrlError (Option Nat × List Char) :=
  let digits := cs.takeWhile Char.isDigit
  let rest := cs.drop digits.length
  let n := digits.foldl (fun n c => n * 10 + (c.toNat - 0x30)) 0
  if maxPort < n || (rest.head?.any (· != '\\')) then .error .invalidPort
  else .ok (if digits.isEmpty || defaultPort? scheme = some n then none else some n, rest)

def readHost (u : Url) (cs : List Char) : Except UrlError (Url × List Char) :=
  let (name, rest) := splitHost false cs
  let special := isNetworked u.scheme
  if name.isEmpty && (special || !rest.isEmpty) then .error .emptyHost
  else do
    let host ← if special then Host.parse name else Host.parseVerbatim name
    match rest with
    | ':' :: digits =>
      let (port, rest) ← port? u.scheme digits
      return ({ u with host := some host, port }, rest)
    | rest => return ({ u with host := some host, port := none }, rest)

/-- Reads an authority into `u`; `more` tells whether anything follows it. Nothing but an at sign, and
    credentials without a host, announce a host that is not there. -/
def readAuthority (u : Url) (more : Bool) (cs : List Char) : Except UrlError (Url × List Char) :=
  match splitCredentials cs with
  | none => readHost u cs
  | some ([], []) => if more then .error .emptyHost else readHost u []
  | some (credentials, cs) =>
    let (name, word) := (Text.splitFirst ':' credentials).getD (credentials, [])
    let u := { u with
      username := .ofList (encode .userinfo name), password := .ofList (encode .userinfo word) }
    if cs.isEmpty && !(name.isEmpty && word.isEmpty) then .error .emptyHost else readHost u cs

def readMarked (u : Url) (cs : List Char) : Url :=
  let part := if isNetworked u.scheme || u.scheme = "file" then Part.specialQuery else .query
  let (before, fragment) := match Text.splitFirst '#' cs with
    | some (before, fragment) => (before, some (String.ofList (encode .fragment fragment)))
    | none => (cs, none)
  match before with
  | '?' :: query => { u with query := some (.ofList (encode part query)), fragment }
  | _ => { u with query := none, fragment }

def endsPath (c : Char) : Bool := c == '?' || c == '#'

def readPath (u : Url) (names : List String) (cs : List Char) : Url :=
  let isFile := u.scheme = "file"
  let special := isNetworked u.scheme || isFile
  let path := cs.takeWhile (!endsPath ·)
  let segments := if path.isEmpty && !special then names else Path.read special isFile names path
  readMarked { u with path := .segments segments } (cs.drop path.length)

def readFromAuthority (scheme : String) (cs : List Char) : Except UrlError Url := do
  let authority := cs.takeWhile (!endsAuthority (isNetworked scheme) ·)
  let rest := cs.drop authority.length
  let (u, left) ← readAuthority { scheme, path := .segments [] } (!rest.isEmpty) authority
  return readPath u [] (left ++ rest)

def withoutEmptyFront (u : Url) : Url :=
  match u.path with
  | .segments names =>
    let names := names.dropWhile (·.isEmpty)
    { u with path := .segments (if names.isEmpty then [""] else names) }
  | .plain _ => u

def withoutHostOfDrive (u : Url) : Url :=
  match u.path with
  | .segments (name :: _) => if Path.isDrive name.toList then { u with host := some (.domain "") } else u
  | _ => u

def readFilePath (host : Host) (cs : List Char) : Url :=
  withoutEmptyFront (withoutHostOfDrive
    (readPath { scheme := "file", host := some host, path := .segments [] } [] cs))

def readFile (cs : List Char) : Except UrlError Url :=
  match Path.slashes true cs with
  | '/' :: '/' :: _ => do
    let rest := cs.drop 2
    let name := rest.takeWhile (!endsAuthority true ·)
    let path := rest.drop name.length
    if (Path.drive? name).isSome then return readFilePath (.domain "") rest
    let host ← if name.isEmpty then .ok (.domain "") else Host.parse name
    if host = .domain "" || host = .domain "localhost" then return readFilePath (.domain "") ('/' :: path)
    else return readFilePath host path
  | _ => .ok (readFilePath (.domain "") cs)

def readAfterScheme (scheme : String) (cs : List Char) : Except UrlError Url :=
  if scheme = "file" then readFile cs
  else if isNetworked scheme then
    readFromAuthority scheme (cs.dropWhile fun c => c == '/' || c == '\\')
  else
    match cs with
    | '/' :: '/' :: rest => readFromAuthority scheme rest
    | '/' :: rest => .ok (readPath { scheme, path := .segments [] } [] ('/' :: rest))
    | cs =>
      let path := cs.takeWhile (!endsPath ·)
      .ok (readMarked { scheme, path := .plain (.ofList (encode .plainPath path)) } (cs.drop path.length))

def parse (s : String) : Except UrlError Url :=
  match scheme? (clean s.toList) with
  | some (scheme, rest) => readAfterScheme scheme rest
  | none => .error .noScheme

def isSlash (c : Char) : Bool := c == '/' || c == '\\'

def readRelative (base : Url) (names : List String) (cs : List Char) : Except UrlError Url :=
  match cs with
  | [] => .ok { base with fragment := none }
  | '?' :: _ => .ok (readMarked base cs)
  | '#' :: _ => .ok { readMarked base cs with query := base.query }
  | c :: rest =>
    if isSlash c then
      if rest.head?.any isSlash then
        match cs with
        | '/' :: '/' :: rest => readFromAuthority base.scheme rest
        | cs => readFromAuthority base.scheme (cs.dropWhile isSlash)
      else .ok (readPath base [] cs)
    else .ok (readPath base names.dropLast cs)

def join (base : Url) (reference : String) : Except UrlError Url :=
  let cs := clean reference.toList
  let names := match base.path with
    | .segments names => names
    | .plain _ => []
  match scheme? cs with
  | some (scheme, rest) =>
    if scheme = base.scheme && (rest.takeWhile isSlash).length < 2 then readRelative base names rest
    else readAfterScheme scheme rest
  | none => readRelative base names cs

end SecretTemplate.Url
