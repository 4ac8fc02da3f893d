import SecretTemplate.CommandLine.Environment
import SecretTemplate.Event
import SecretTemplate.Keyed
import SecretTemplate.Text.Number
import SecretTemplate.Text.Trim

namespace SecretTemplate.CommandLine

structure Flags where
  inputFile : Option String := none
  outputFile : Option String := none
  inplace : Bool := false
  role : Option String := none
  logLevel : Option Level := none
  continueOnError : Bool := false
  vaultAddr : Option String := none
  vaultToken : Option String := none
  vaultNamespace : Option String := none
  authMount : Option String := none
  jwtPath : Option String := none
  concurrency : Option Nat := none
  timeoutSecs : Option Nat := none
  deriving DecidableEq, Repr, Inhabited

inductive Stop
  | help
  | version
  | unknownArgument
  | repeatedFlag
  | unusableValue
  | malformedNumber
  | unneededValue
  deriving DecidableEq, Repr, Inhabited

def Stop.exitCode : Stop → Nat
  | help | version => 0
  | _ => 2

inductive ValueFlag
  | inputFile | outputFile | role | logLevel | vaultAddr | vaultToken | vaultNamespace | authMount | jwtPath
  | concurrency | timeoutSecs
  deriving DecidableEq, Repr

inductive Flag
  | valued (flag : ValueFlag)
  | inplace | continueOnError | help | version
  deriving DecidableEq, Repr

namespace Flag

def names : List (String × Flag) := [
  ("input-file", valued .inputFile), ("output-file", valued .outputFile), ("inplace", inplace),
  ("role", valued .role), ("log-level", valued .logLevel), ("continue-on-error", continueOnError),
  ("vault-addr", valued .vaultAddr), ("vault-token", valued .vaultToken),
  ("vault-namespace", valued .vaultNamespace), ("auth-mount", valued .authMount),
  ("jwt-path", valued .jwtPath), ("concurrency", valued .concurrency),
  ("timeout-secs", valued .timeoutSecs), ("help", help), ("version", version)]

def ofName? (name : String) : Option Flag := lookup name names

end Flag

def path (text : String) : Except Stop String := if text.isEmpty then .error .unusableValue else .ok text

def level (text : String) : Except Stop Level :=
  match Level.ofName? text with
  | some level => .ok level
  | none => .error .unusableValue

def number (text : String) : Except Stop Nat :=
  match Text.word? text.toList with
  | some n => .ok n
  | none => .error .malformedNumber

def once {α : Type} (known : Option α) (value : Except Stop α) : Except Stop (Option α) :=
  if known.isSome then .error .repeatedFlag else value.map some

namespace Flags

def give (f : Flags) (flag : ValueFlag) (text : String) : Except Stop Flags :=
  match flag with
  | .inputFile => do return { f with inputFile := ← once f.inputFile (path text) }
  | .outputFile => do return { f with outputFile := ← once f.outputFile (path text) }
  | .role => do return { f with role := ← once f.role (.ok text) }
  | .logLevel => do return { f with logLevel := ← once f.logLevel (level text) }
  | .vaultAddr => do return { f with vaultAddr := ← once f.vaultAddr (.ok text) }
  | .vaultToken => do return { f with vaultToken := ← once f.vaultToken (.ok text) }
  | .vaultNamespace => do return { f with vaultNamespace := ← once f.vaultNamespace (.ok text) }
  | .authMount => do return { f with authMount := ← once f.authMount (.ok text) }
  | .jwtPath => do return { f with jwtPath := ← once f.jwtPath (path text) }
  | .concurrency => do return { f with concurrency := ← once f.concurrency (number text) }
  | .timeoutSecs => do return { f with timeoutSecs := ← once f.timeoutSecs (number text) }

def turnOn (f : Flags) : Flag → Except Stop Flags
  | .inplace => if f.inplace then .error .repeatedFlag else .ok { f with inplace := true }
  | .continueOnError => if f.continueOnError then .error .repeatedFlag else .ok { f with continueOnError := true }
  | .help => .error .help
  | .version => .error .version
  | .valued _ => .error .unusableValue

def orEnvironment (f : Flags) (env : Environment) : Flags :=
  { f with
    vaultAddr := f.vaultAddr.or (env.get? "VAULT_ADDR")
    vaultToken := f.vaultToken.or (env.get? "VAULT_TOKEN")
    vaultNamespace := f.vaultNamespace.or (env.get? "VAULT_NAMESPACE") }

end Flags

/-- What was read of the arguments. The last flag and its value are settled when the next one comes. -/
structure Reading where
  flags : Flags := {}
  pending : Option (ValueFlag × Option String) := none

namespace Reading

def settle (r : Reading) : Except Stop Flags :=
  match r.pending with
  | none => .ok r.flags
  | some (_, none) => .error .unusableValue
  | some (flag, some text) => r.flags.give flag text

def flag (r : Reading) (name : String) (attached : Option String) : Except Stop Reading :=
  match Flag.ofName? name, attached with
  | none, _ => .error .unknownArgument
  | some (.valued flag), none => do return { flags := ← r.settle, pending := some (flag, none) }
  | some (.valued flag), some text => do return { flags := ← (← r.settle).give flag text }
  | some flag, none => do return { flags := ← (← r.settle).turnOn flag }
  | some _, some _ => .error .unneededValue

def argument (r : Reading) (cs : List Char) : Except Stop Reading :=
  match cs with
  | '-' :: '-' :: rest =>
    match Text.splitFirst '=' rest with
    | some (name, value) => r.flag (.ofList name) (some (.ofList value))
    | none => r.flag (.ofList rest) none
  | '-' :: 'h' :: _ => r.flag "help" none
  | '-' :: 'V' :: _ => r.flag "version" none
  | '-' :: _ :: _ => .error .unknownArgument
  | cs =>
    match r.pending with
    | some (flag, none) => .ok { r with pending := some (flag, some (.ofList cs)) }
    | _ => .error .unknownArgument

def arguments (r : Reading) : List String → Except Stop Flags
  | [] => r.settle
  | [arg] => if arg = "--" then r.settle else do (← r.argument arg.toList).settle
  | arg :: args => if arg = "--" then .error .unknownArgument else do arguments (← r.argument arg.toList) args

end Reading

def Flags.read (args : List String) : Except Stop Flags := Reading.arguments {} args

end SecretTemplate.CommandLine
