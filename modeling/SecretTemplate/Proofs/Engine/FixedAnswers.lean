import SecretTemplate.Proofs.Engine.Answers

namespace SecretTemplate

variable {σ : Type}

/-- The answers of a store depend on the path asked and on nothing else. -/
structure Store.Fixed (store : Store σ) (versions : String → Except StoreError (Option String))
    (documents : String → Except StoreError (Option Json)) : Prop where
  mountVersion : ∀ path state, (store.mountVersion path state).answer = versions path
  read : ∀ path state, (store.read path state).answer = documents path

def Store.ofAnswers (versions : String → Except StoreError (Option String))
    (documents : String → Except StoreError (Option Json)) : Store Unit where
  name := "fixed"
  authenticate _ _ := ⟨.ok (), [], ()⟩
  mountVersion path _ := ⟨versions path, [], ()⟩
  read path _ := ⟨documents path, [], ()⟩

theorem Store.ofAnswers_fixed (versions : String → Except StoreError (Option String))
    (documents : String → Except StoreError (Option Json)) :
    (ofAnswers versions documents).Fixed versions documents where
  mountVersion _ _ := rfl
  read _ _ := rfl

def Answers.fixed (versions : String → Except StoreError (Option String))
    (documents : String → Except StoreError (Option Json)) : Answers where
  version path answer := answer = versions path
  document path answer := answer = documents path

theorem Store.Fixed.gives {store : Store σ} {versions documents} (fixed : store.Fixed versions documents) (state : σ) :
    store.Gives (.fixed versions documents) state where
  mountVersion path := fixed.mountVersion path state
  read path := fixed.read path state

theorem Store.Fixed.session_mountVersion {store : Store σ} {versions documents}
    (fixed : store.Fixed versions documents) (s : Session σ) (path : String) :
    (s.mountVersion store path).1 = versions path := fixed.mountVersion path s.state

theorem Store.Fixed.session_read {store : Store σ} {versions documents}
    (fixed : store.Fixed versions documents) (s : Session σ) (path : String) :
    (s.read store path).1 = documents path := fixed.read path s.state

namespace Engine

/-- What the store says of the shape of a path that is asked for on its own. -/
def ownShape (versions : String → Except StoreError (Option String)) (path : String) : Except Failure Shape :=
  classify (clean path) (versions (clean path))

inductive ShapeFrom (versions : String → Except StoreError (Option String)) (paths : List String)
    (path : String) : Except Failure Shape → Prop
  | own : ShapeFrom versions paths path (ownShape versions path)
  | shared {other : String} {shape : Shape} (member : other ∈ paths) (mount : cellOf other = cellOf path)
      (known : ownShape versions other = .ok shape) : ShapeFrom versions paths path (.ok shape)

theorem ShapeFrom.of_names {versions : String → Except StoreError (Option String)}
    {documents : String → Except StoreError (Option Json)} {paths : List String} {path : String} {shape : Shape}
    (names : (Answers.fixed versions documents).Names paths (cellOf path) shape) :
    ShapeFrom versions paths path (.ok shape) := by
  obtain ⟨other, member, mount, answer, rfl, known⟩ := names
  exact .shared member mount known

theorem ShapeFrom.of_refuses {versions : String → Except StoreError (Option String)}
    {documents : String → Except StoreError (Option Json)} {path : String} {cause : Failure} (paths : List String)
    (refuses : (Answers.fixed versions documents).Refuses path cause) :
    ShapeFrom versions paths path (.error cause) := by
  obtain ⟨answer, rfl, known⟩ := refuses
  rw [← known]
  exact .own

end Engine

end SecretTemplate
