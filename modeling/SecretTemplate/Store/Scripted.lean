import SecretTemplate.Store
import SecretTemplate.Text.Trim

namespace SecretTemplate

structure Script where
  mounts : Keyed (List (Except StoreError (Option String))) := ∅
  documents : Keyed (List (Except StoreError (Option Json))) := ∅
  refusal : Option String := none

namespace Script

def advance {α : Type} : List α → List α
  | _ :: next :: rest => next :: rest
  | last => last

def take? {α : Type} (script : Keyed (List α)) (key : String) : Option (α × Keyed (List α)) :=
  match script.get? key with
  | some (answer :: rest) => some (answer, script.insert key (advance (answer :: rest)))
  | _ => none

def firstSegment (path : String) : String :=
  match Text.splitFirst '/' path.toList with
  | some (mount, _) => .ofList mount
  | none => path

end Script

def Store.scripted : Store Script where
  name := "scripted"
  authenticate _ script :=
    match script.refusal with
    | some text => ⟨.error (.authentication text), [], script⟩
    | none => ⟨.ok (), [], script⟩
  mountVersion path script :=
    match (Script.take? script.mounts path).or (Script.take? script.mounts (Script.firstSegment path)) with
    | some (answer, mounts) => ⟨answer, [], { script with mounts }⟩
    | none => ⟨.error .notFound, [], script⟩
  read path script :=
    match Script.take? script.documents path with
    | some (answer, documents) => ⟨answer, [], { script with documents }⟩
    | none => ⟨.ok none, [], script⟩

end SecretTemplate
