import SecretTemplate.Placeholder.Scan
import SecretTemplate.Batch

namespace SecretTemplate.Placeholder

open Text.Utf8 (Bytes encode)

def substitute? (batch : Batch) (placeholder : String) : Option String :=
  match batch.get? placeholder with
  | some r => if r.value.isEmpty then none else some r.value
  | none => none

def Piece.render (batch : Batch) : Piece → Bytes
  | plain b => [b]
  | placeholder text => encode ((substitute? batch text).getD text)

def substitute (template : Bytes) (batch : Batch) : Bytes :=
  (pieces template).flatMap (Piece.render batch)

/-- The placeholders of a batch that have no value to put in their place. -/
def unfilled (batch : Batch) : List String :=
  (batch.entries.filter (·.2.value.isEmpty)).map (·.1)

structure Rendered where
  text : Bytes
  skipped : List String
  deriving DecidableEq, Repr

def renderNotice (entry : String × Reference) : Event :=
  if entry.2.value.isEmpty then
    ⟨.warn, .substitution, "Not replacing " ++ entry.1 ++ ", empty string value"⟩
  else ⟨.debug, .substitution, "Replacing " ++ entry.2.storePath⟩

def render (template : Bytes) (batch : Batch) : Logged Rendered :=
  ⟨⟨substitute template batch, unfilled batch⟩, batch.entries.map renderNotice⟩

end SecretTemplate.Placeholder
