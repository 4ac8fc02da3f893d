import SecretTemplate.Failure
import SecretTemplate.Event
import SecretTemplate.Json.Value

namespace SecretTemplate

inductive Call
  | authenticate (role : Option String)
  | mountVersion (path : String)
  | read (path : String)
  deriving DecidableEq, Repr

/-- An answer, the events of obtaining it, and the state after it. -/
structure Reply (σ α : Type) where
  answer : α
  events : List Event := []
  next : σ

structure Store (σ : Type) where
  name : String
  authenticate : Option String → σ → Reply σ (Except Failure Unit)
  mountVersion : String → σ → Reply σ (Except StoreError (Option String))
  read : String → σ → Reply σ (Except StoreError (Option Json))

inductive Occurrence
  | event (event : Event)
  | call (call : Call)
  deriving DecidableEq, Repr

structure Session (σ : Type) where
  state : σ
  trace : List Occurrence := []

namespace Session

variable {σ α : Type}

def events (s : Session σ) : List Event :=
  s.trace.filterMap fun
    | .event e => some e
    | .call _ => none

def calls (s : Session σ) : List Call :=
  s.trace.filterMap fun
    | .event _ => none
    | .call c => some c

def log (s : Session σ) (events : List Event) : Session σ :=
  { s with trace := s.trace ++ events.map .event }

def ask (s : Session σ) (call : Call) (question : σ → Reply σ α) : α × Session σ :=
  let reply := question s.state
  (reply.answer, ⟨reply.next, s.trace ++ .call call :: reply.events.map .event⟩)

def authenticate (s : Session σ) (store : Store σ) (role : Option String) : Except Failure Unit × Session σ :=
  s.ask (.authenticate role) (store.authenticate role)

def mountVersion (s : Session σ) (store : Store σ) (path : String) :
    Except StoreError (Option String) × Session σ :=
  s.ask (.mountVersion path) (store.mountVersion path)

def read (s : Session σ) (store : Store σ) (path : String) : Except StoreError (Option Json) × Session σ :=
  s.ask (.read path) (store.read path)

end Session

end SecretTemplate
