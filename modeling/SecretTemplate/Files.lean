import SecretTemplate.Files.FileError
import SecretTemplate.Text.Trim
import SecretTemplate.Text.Utf8

namespace SecretTemplate

open Text.Utf8 (Bytes)

abbrev Location := List String

/-- A file that is read-only cannot be written over, and in a directory that is read-only none can be made. -/
inductive Node
  | file (bytes : Bytes) (readOnly : Bool := false)
  | directory (readOnly : Bool := false)
  deriving DecidableEq, Repr

def Node.readOnly : Node → Bool
  | .file _ readOnly | .directory readOnly => readOnly

structure Files where
  home : Location := []
  nodes : List (Location × Node) := []
  deriving DecidableEq, Repr

namespace Files

/-- What is at a location. The root directory is always there. -/
def node? (fs : Files) (location : Location) : Option Node :=
  if location.isEmpty then some .directory
  else (fs.nodes.find? (·.1 == location)).map (·.2)

def put (fs : Files) (location : Location) (node : Node) : Files :=
  { fs with nodes :=
      if (fs.node? location).isSome then
        fs.nodes.map fun (l, n) => if l == location then (l, node) else (l, n)
      else fs.nodes ++ [(location, node)] }

def putDirectory (fs : Files) (location : Location) : Files :=
  (List.range (location.length + 1)).foldl (fun fs n =>
    if (fs.node? (location.take n)).isSome then fs else fs.put (location.take n) .directory) fs

def upward (location : Location) : List Location :=
  (List.range (location.length + 1)).reverse.map location.take

inductive Target
  | node (location : Location) (node : Node)
  | vacant (location : Location)
  | vacantDirectory
  deriving DecidableEq, Repr

def maxName : Nat := 255
def maxPath : Nat := 4095

def walk (fs : Files) (here : Location) : List String → Except FileError Target
  | [] => .ok (.node here .directory)
  | segment :: rest =>
    if segment = "" || segment = "." then walk fs here rest
    else if segment = ".." then walk fs here.dropLast rest
    else if maxName < segment.utf8ByteSize then .error .nameTooLong
    else
      let location := here ++ [segment]
      match fs.node? location with
      | some (.directory _) => walk fs location rest
      | some (.file bytes readOnly) =>
        if rest.isEmpty then .ok (.node location (.file bytes readOnly)) else .error .notDirectory
      | none =>
        if rest.isEmpty then .ok (.vacant location)
        else if rest.all (·.isEmpty) then .ok .vacantDirectory
        else .error .notFound

def target (fs : Files) (path : String) : Except FileError Target :=
  let cs := path.toList
  if cs.contains '\x00' then .error .nulInPath
  else if path.isEmpty then .error .notFound
  else if maxPath < path.utf8ByteSize then .error .nameTooLong
  else fs.walk (if cs.head? = some '/' then [] else fs.home) ((Text.splitAll '/' cs).map String.ofList)

def read (fs : Files) (path : String) : Except FileError Bytes :=
  match fs.target path with
  | .error e => .error e
  | .ok (.node _ (.file bytes _)) => .ok bytes
  | .ok (.node _ (.directory _)) => .error .isDirectory
  | .ok (.vacant _) | .ok .vacantDirectory => .error .notFound

def readText (fs : Files) (path : String) : Except FileError String := do
  let bytes ← fs.read path
  match Text.Utf8.decode? bytes with
  | some text => .ok text
  | none => .error .notText

/-- Whether a file can be put at a location, which changes the file there or else its directory. -/
def permits (fs : Files) (location : Location) : Bool :=
  !((fs.node? location).or (fs.node? location.dropLast)).any Node.readOnly

/-- Replaces the whole content of a file, which is made if it is not there. -/
def write (fs : Files) (path : String) (bytes : Bytes) : Except FileError Files :=
  match fs.target path with
  | .error e => .error e
  | .ok (.node location (.file ..)) | .ok (.vacant location) =>
    if fs.permits location then .ok (fs.put location (.file bytes)) else .error .permissionDenied
  | .ok (.node _ (.directory _)) | .ok .vacantDirectory => .error .isDirectory

def listing (fs : Files) : List (String × Bytes) :=
  fs.nodes.filterMap fun
    | (location, .file bytes _) =>
      if fs.home.isPrefixOf location then
        some (String.intercalate "/" (location.drop fs.home.length), bytes)
      else none
    | (_, .directory _) => none

end Files

end SecretTemplate
