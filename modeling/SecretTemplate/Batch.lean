import SecretTemplate.Reference
import SecretTemplate.Keyed

namespace SecretTemplate

abbrev Batch := Keyed Reference

namespace Batch

/-- Adds the placeholders of a list to a batch. A placeholder that is known already is passed over;
    one that cannot be read fails the batch. -/
def extend (batch : Batch) : List String → Logged (Except Failure Batch)
  | [] => ⟨.ok batch, []⟩
  | p :: ps =>
    if batch.contains p then extend batch ps
    else
      let ⟨read, events⟩ := Reference.read p
      match read with
      | .error cause => ⟨.error (.unusablePlaceholder p cause), events⟩
      | .ok reference =>
        let ⟨result, later⟩ := extend (batch.insert p reference) ps
        ⟨result, events ++ later⟩

def read (placeholders : List String) : Logged (Except Failure Batch) :=
  extend ∅ placeholders

def ofPlaceholders (placeholders : List String) : Except Failure Batch :=
  (read placeholders).value

def setValue (batch : Batch) (placeholder value : String) : Batch :=
  batch.modify placeholder fun r => { r with value := value }

end Batch

end SecretTemplate
