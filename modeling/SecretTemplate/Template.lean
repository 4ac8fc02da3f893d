import SecretTemplate.Files
import SecretTemplate.Placeholder.Substitution

namespace SecretTemplate

open Text.Utf8 (Bytes)

structure Template where
  path : String
  contents : Bytes
  deriving DecidableEq, Repr

namespace Template

/-- Reads a template. A file that is not there is told apart from one that cannot be read. -/
def openFile (fs : Files) (path : String) : Except Failure Template :=
  match fs.read path with
  | .ok contents => .ok ⟨path, contents⟩
  | .error cause =>
    if cause = .notFound then .error (.templateNotFound path) else .error (.templateUnreadable path cause)

def placeholders (t : Template) : List String := Placeholder.find t.contents

/-- A rendered template, the files after it was written, and what was logged. If it cannot be written
    the files stay as they are. -/
def renderTo (t : Template) (batch : Batch) (output : String) (fs : Files) :
    Logged (Except Failure (Placeholder.Rendered × Files)) :=
  let ⟨rendered, events⟩ := Placeholder.render t.contents batch
  match fs.write output rendered.text with
  | .error cause => ⟨.error (.outputUnwritable output cause), events⟩
  | .ok fs =>
    ⟨.ok (rendered, fs), events ++ [⟨.info, .template, "Rendered " ++ t.path ++ " into " ++ output⟩]⟩

end Template

end SecretTemplate
