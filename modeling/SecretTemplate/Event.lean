namespace SecretTemplate

inductive Level
  | error | warn | info | debug | trace
  deriving DecidableEq, Repr, Inhabited

namespace Level

def rank : Level → Nat
  | error => 1
  | warn => 2
  | info => 3
  | debug => 4
  | trace => 5

def name : Level → String
  | error => "error"
  | warn => "warn"
  | info => "info"
  | debug => "debug"
  | trace => "trace"

def label : Level → String
  | error => "ERROR"
  | warn => "WARN"
  | info => "INFO"
  | debug => "DEBUG"
  | trace => "TRACE"

def all : List Level := [error, warn, info, debug, trace]

def ofName? (name : String) : Option Level := all.find? (·.name == name)

end Level

inductive Component
  | program | settings | settingsCheck | run | template | substitution | reference | engine
  | resolution | client | login
  deriving DecidableEq, Repr, Inhabited

/-- The name by which log filters select a component. Filters match from the left. -/
def Component.target : Component → String
  | program => "vault_render"
  | settings => "vault_render::config"
  | settingsCheck => "vault_render::config::validation"
  | run => "vault_render::pipeline"
  | template => "vault_render::template"
  | substitution => "vault_render::template::render"
  | reference => "vault_render::secrets::reference"
  | engine => "vault_render::secrets::kv"
  | resolution => "vault_render::secrets::resolver"
  | client => "vault_render::vault::client"
  | login => "vault_render::vault::auth"

structure Event where
  level : Level
  component : Component
  message : String
  deriving DecidableEq, Repr, Inhabited

/-- A value together with the events that were logged on the way to it. -/
structure Logged (α : Type) where
  value : α
  events : List Event := []
  deriving Repr

end SecretTemplate
