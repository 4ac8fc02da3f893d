import SecretTemplate.Text.Trim
import SecretTemplate.Url.Percent

namespace SecretTemplate.Url

inductive Path
  | segments (names : List String)
  | plain (text : String)
  deriving DecidableEq, Repr, Inhabited

namespace Path

def isSingleDot (segment : List Char) : Bool :=
  [['.'], ['%', '2', 'e']].contains (segment.map Char.toLower)

def isDoubleDot (segment : List Char) : Bool :=
  [['.', '.'], ['.', '%', '2', 'e'], ['%', '2', 'e', '.'], ['%', '2', 'e', '%', '2', 'e']].contains
    (segment.map Char.toLower)

/-- A segment of a letter and a colon, or a bar that stands for one, is a drive. What follows a backslash
    does not matter. -/
def isDrive (segment : List Char) : Bool :=
  match segment with
  | letter :: mark :: rest =>
    letter.isAlpha && (mark == ':' || mark == '|') && (rest.isEmpty || rest.head? == some '\\')
  | _ => false

def shorten (names : List String) : List String :=
  if names.getLast?.any fun name => isDrive name.toList then names else names.dropLast

def drive? (segment : List Char) : Option String :=
  if segment.length = 2 && isDrive segment then some (.ofList (segment.take 1 ++ [':'])) else none

/-- Appends the segments of `parts`. Dots at the end leave an empty segment there. Where there are drives,
    the first segment may be one. -/
def append (drives : Bool) (names : List String) : List (List Char) → List String
  | [] => names
  | part :: parts =>
    let last := if parts.isEmpty then [""] else []
    let names :=
      if isDoubleDot part then shorten names ++ last
      else if isSingleDot part then names ++ last
      else
        let drive := if drives && names.isEmpty then drive? part else none
        names ++ [drive.getD (.ofList (encode .path part))]
    append drives names parts

def slashes (special : Bool) (cs : List Char) : List Char :=
  if special then cs.map fun c => if c = '\\' then '/' else c else cs

def read (special drives : Bool) (names : List String) (cs : List Char) : List String :=
  match slashes special cs with
  | '/' :: rest => append drives names (Text.splitAll '/' rest)
  | cs => append drives names (Text.splitAll '/' cs)

/-- A path without a host does not begin with two slashes, which would announce one. -/
def text (hasHost : Bool) : Path → String
  | plain text => text
  | segments names =>
    let guarded := match names with
      | "" :: _ :: _ => !hasHost
      | _ => false
    (if guarded then "/." else "") ++ String.join (names.map ("/" ++ ·))

end Path

end SecretTemplate.Url
