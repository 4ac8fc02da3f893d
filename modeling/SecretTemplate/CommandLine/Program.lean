import SecretTemplate.CommandLine.Configuration
import SecretTemplate.CommandLine.EnvFile
import SecretTemplate.CommandLine.LogFilter
import SecretTemplate.Run
import SecretTemplate.Vault.Login

namespace SecretTemplate.CommandLine

open Http (Outside)

structure Invocation where
  arguments : List String
  environment : Environment

structure Ending where
  exitCode : Nat
  output : String := ""
  events : List Event := []
  complaint : String := ""
  files : Files

def versionText : String := "vault-render 2026.10.1\n"

def helpText : String :=
  "Render secrets from Vault into configuration templates\n\nUsage: vault-render [OPTIONS]\n\nOptions:\n" ++
    String.join (Flag.names.map fun (name, flag) => "      --" ++ name ++
      (match flag with
        | .valued _ => " <VALUE>"
        | _ => "") ++ "\n") ++
    "\nPlaceholders look like \x7b\x7b secret/path!key \x7d\x7d or \x7b\x7b secret/path!key:fallback \x7d\x7d.\n" ++
    "Vault connection settings follow the official client's environment variables, so VAULT_ADDR and " ++
    "VAULT_TOKEN are honoured.\n"

def Stop.complaint : Stop → String
  | help | version => ""
  | unknownArgument => "error: unexpected argument found\n"
  | repeatedFlag => "error: an argument cannot be used multiple times\n"
  | unusableValue => "error: a value is missing or invalid\n"
  | malformedNumber => "error: a value is no number in range\n"
  | unneededValue => "error: a value is given to an argument that takes none\n"

def Stop.output : Stop → String
  | help => helpText
  | version => versionText
  | _ => ""

def indented (indent text : String) : String :=
  String.intercalate ("\n" ++ indent) ((Text.splitAll '\n' text.toList).map String.ofList)

def causeLines : List String → List String
  | [cause] => ["    " ++ indented "    " cause]
  | causes => causes.zipIdx.map fun (cause, i) =>
    let label := toString i
    String.ofList (List.replicate (5 - label.length) ' ') ++ label ++ ": " ++ indented "       " cause

def complaintAbout (failure : Failure) : String :=
  "Error: " ++ failure.message ++
    (if failure.causes.isEmpty then ""
      else "\n\nCaused by:\n" ++ String.intercalate "\n" (causeLines failure.causes)) ++ "\n"

def shownMessage (e : Event) : String :=
  String.ofList (e.message.toList.flatMap fun c =>
    if ['\x07', '\x08', '\x0c', '\x1b', '\x7f'].contains c then
      ['\\', 'x', Text.hexDigit (c.toNat / 16), Text.hexDigit (c.toNat % 16)]
    else if 0x80 ≤ c.toNat && c.toNat ≤ 0x9F then ['\\', 'u', '{'] ++ Text.hex c.toNat ++ ['}']
    else [c])

def renderedNotice (s : Settings) (r : Report) : Event :=
  ⟨.info, .program, "Rendered " ++ toString r.resolved ++ " of " ++ toString r.distinct ++ " secret(s) into " ++
    s.outputFile⟩

variable {ω : Type}

structure Aftermath (ω : Type) where
  events : List Event
  files : Files
  outside : ω
  failure : Option Failure

def runWith (o : Outside ω) (schedule : List Nat) (flags : Flags) (files : Files) (w : ω) : Aftermath ω :=
  let ⟨settings, events⟩ := flags.settings
  match settings with
  | .error cause => ⟨events, files, w, some cause⟩
  | .ok s =>
    let store := (Vault.Client.ofConnection s.connection).store o
    let (result, after) := run store s schedule ⟨files, ⟨Vault.State.ofConnection s.connection w, []⟩⟩
    let events := events ++ after.session.events
    let outside := after.session.state.outside
    match result with
    | .error cause => ⟨events, after.files, outside, some cause⟩
    | .ok report => ⟨events ++ [renderedNotice s report], after.files, outside, none⟩

def environmentFileName : String := ".env"

/-- The content of the environment file: the first file of its name in the working directory or above. -/
def environmentFile? (files : Files) : Option Text.Utf8.Bytes :=
  (Files.upward files.home).findSome? fun directory =>
    match files.node? (directory ++ [environmentFileName]) with
    | some (.file bytes _) => some bytes
    | _ => none

def environment? (i : Invocation) (files : Files) : Option Environment :=
  match environmentFile? files with
  | some bytes => EnvFile.read? i.environment bytes
  | none => some i.environment

def brokenOff (files : Files) : Ending := { exitCode := 101, files }

def executeWith (o : Outside ω) (schedule : List Nat) (env : Environment) (flags : Flags) (files : Files) (w : ω) :
    Ending × ω :=
  let flags := flags.orEnvironment env
  match LogFilter.ofText? (env.get? "RUST_LOG") flags.level with
  | none => (brokenOff files, w)
  | some filter =>
    let after := runWith o schedule flags files w
    ({ exitCode := if after.failure.isSome then 1 else 0
       events := after.events.filter filter.shows
       complaint := (after.failure.map complaintAbout).getD ""
       files := after.files }, after.outside)

def execute (o : Outside ω) (schedule : List Nat) (i : Invocation) (files : Files) (w : ω) : Ending × ω :=
  match environment? i files with
  | none => (brokenOff files, w)
  | some env =>
    match Flags.read i.arguments with
    | .error stop => ({ exitCode := stop.exitCode, output := stop.output, complaint := stop.complaint, files }, w)
    | .ok flags => executeWith o schedule env flags files w

end SecretTemplate.CommandLine
