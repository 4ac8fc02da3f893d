import SecretTemplate.Text.Trim

namespace SecretTemplate.Engine

def cleanChars (cs : List Char) : List Char :=
  Text.strip (· == '/') (Text.trim cs)

def clean (path : String) : String := .ofList (cleanChars path.toList)

def mountSplit (path : String) : List Char × Option (List Char) :=
  match Text.splitFirst '/' (cleanChars path.toList) with
  | some (mount, rest) => (mount, some rest)
  | none => (cleanChars path.toList, none)

def mount (path : String) : String := .ofList (mountSplit path).1

/-- The path at which an enveloped document is read: the segment `data` comes after the mount. -/
def dataPath (path : String) : String :=
  match mountSplit path with
  | (mount, some rest) => .ofList (mount ++ "/data/".toList ++ rest)
  | (mount, none) => .ofList (mount ++ "/data".toList)

end SecretTemplate.Engine
