import SecretTemplate.Text.Quoted

namespace SecretTemplate

structure Connection where
  address : String := "https://127.0.0.1:8200"
  token : Option String := none
  «namespace» : Option String := none
  role : Option String := none
  authMount : String := "kubernetes"
  jwtPath : String := "/var/run/secrets/kubernetes.io/serviceaccount/token"
  timeout : Nat := 30
  concurrency : Nat := 4
  deriving DecidableEq, Repr, Inhabited

structure Settings where
  inputFile : String
  outputFile : String
  continueOnError : Bool := false
  connection : Connection := {}
  deriving DecidableEq, Repr, Inhabited

open Text (quote quoteOption)

def Connection.text (c : Connection) : String :=
  "VaultConfig \x7b address: " ++ quote c.address ++
    ", token: " ++ quoteOption (c.token.map fun _ => "<redacted>") ++
    ", namespace: " ++ quoteOption c.namespace ++ ", role: " ++ quoteOption c.role ++
    ", auth_mount: " ++ quote c.authMount ++ ", jwt_path: " ++ quote c.jwtPath ++
    ", request_timeout: " ++ toString c.timeout ++ "s, max_concurrent_fetches: " ++ toString c.concurrency ++ " \x7d"

def Settings.text (s : Settings) : String :=
  "Config \x7b input_file: " ++ quote s.inputFile ++ ", output_file: " ++ quote s.outputFile ++
    ", continue_on_error: " ++ (if s.continueOnError then "true" else "false") ++
    ", vault: " ++ s.connection.text ++ " \x7d"

end SecretTemplate
