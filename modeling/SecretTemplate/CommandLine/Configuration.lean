import SecretTemplate.CommandLine.Flags
import SecretTemplate.Settings.Check

namespace SecretTemplate.CommandLine

def nonBlank (value : Option String) : Option String :=
  (value.map String.trimBlank).filter (!·.isEmpty)

namespace Flags

def files (f : Flags) : Except Failure (String × String) :=
  match f.inputFile, f.outputFile, f.inplace with
  | some input, _, true => .ok (input, input)
  | none, _, true => .error (.invalidSettings "input file must be specified")
  | some input, some output, false => .ok (input, output)
  | _, _, false => .error (.invalidSettings "both input and output files must be specified")

def connection (f : Flags) : Connection :=
  let default : Connection := {}
  { address := f.vaultAddr.getD default.address
    token := nonBlank f.vaultToken
    «namespace» := nonBlank f.vaultNamespace
    role := nonBlank f.role
    authMount := f.authMount.getD default.authMount
    jwtPath := f.jwtPath.getD default.jwtPath
    timeout := f.timeoutSecs.getD default.timeout
    concurrency := f.concurrency.getD default.concurrency }

def level (f : Flags) : Level := f.logLevel.getD .info

def loadedNotice (s : Settings) : Event := ⟨.debug, .settings, "Loaded configuration: " ++ s.text⟩

def settings (f : Flags) : Logged (Except Failure Settings) :=
  match f.files with
  | .error cause => ⟨.error cause, []⟩
  | .ok (inputFile, outputFile) =>
    let s : Settings := { inputFile, outputFile, continueOnError := f.continueOnError, connection := f.connection }
    let ⟨result, events⟩ := s.check
    match result with
    | .error cause => ⟨.error cause, events⟩
    | .ok () => ⟨.ok s, events ++ [loadedNotice s]⟩

end Flags

end SecretTemplate.CommandLine
