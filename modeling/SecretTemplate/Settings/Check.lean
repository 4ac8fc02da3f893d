import SecretTemplate.Event
import SecretTemplate.Failure
import SecretTemplate.Settings
import SecretTemplate.Url.Parser

namespace SecretTemplate

structure Problem where
  setting : String
  message : String
  deriving DecidableEq, Repr, Inhabited

def Problem.text (p : Problem) : String := p.setting ++ ": " ++ p.message

namespace Settings

def problemIf (present : Bool) (setting message : String) : List Problem :=
  if present then [⟨setting, message⟩] else []

def addressProblems (address : String) : List Problem :=
  match Url.parse address with
  | .ok u =>
    problemIf (u.scheme != "http" && u.scheme != "https") "vault.address"
      ("Unsupported scheme '" ++ u.scheme ++ "'")
  | .error e => [⟨"vault.address", "Invalid URL: " ++ e.message⟩]

def addressNotices (address : String) : List Event :=
  match Url.parse address with
  | .ok u =>
    if u.scheme = "http" then [⟨.warn, .settingsCheck, "Vault address " ++ address ++ " is not using TLS"⟩] else []
  | .error _ => []

def problems (s : Settings) : Logged (List Problem) :=
  ⟨problemIf s.inputFile.isEmpty "inputFile" "Input file must not be empty" ++
    problemIf s.outputFile.isEmpty "outputFile" "Output file must not be empty" ++
    addressProblems s.connection.address ++
    problemIf (s.connection.concurrency == 0) "vault.maxConcurrentFetches"
      "Concurrency must be greater than 0" ++
    problemIf (s.connection.timeout == 0) "vault.requestTimeout" "Timeout must be greater than 0" ++
    problemIf (s.connection.authMount.stripChar '/').isEmpty "vault.authMount" "Auth mount must not be empty",
    addressNotices s.connection.address⟩

/-- Refuses settings with problems, naming all of them. -/
def check (s : Settings) : Logged (Except Failure Unit) :=
  let ⟨problems, events⟩ := s.problems
  if problems.isEmpty then ⟨.ok (), events⟩
  else ⟨.error (.invalidSettings (String.intercalate "; " (problems.map Problem.text))), events⟩

end Settings

end SecretTemplate
