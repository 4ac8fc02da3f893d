import SecretTemplate.Files
import SecretTemplate.Http.Exchange

namespace SecretTemplate.Http

structure Replay where
  files : Files
  /-- The answers that have not been given yet. An answer may be that there is none. -/
  answers : List (Option Response)
  wanted : Option Request := none

namespace Replay

def send (r : Request) (w : Replay) : Option Response × Replay :=
  match w.wanted, w.answers with
  | none, answer :: answers => (answer, { w with answers })
  | none, [] => (none, { w with wanted := some r })
  | some _, _ => (none, w)

def outside : Outside Replay where
  send := send
  readText path w := w.files.readText path

end Replay

end SecretTemplate.Http
