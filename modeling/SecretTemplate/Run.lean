import SecretTemplate.Resolution
import SecretTemplate.Settings
import SecretTemplate.Template

namespace SecretTemplate

structure Report where
  placeholders : Nat
  distinct : Nat
  resolved : Nat
  unrendered : List String
  tolerated : List String
  deriving DecidableEq, Repr, Inhabited

def Report.text (r : Report) : String :=
  "RunReport \x7b placeholders: " ++ toString r.placeholders ++ ", distinct: " ++ toString r.distinct ++
    ", resolved: " ++ toString r.resolved ++ ", unrendered: " ++ Text.quoteList r.unrendered ++
    ", tolerated_errors: " ++ Text.quoteList r.tolerated ++ " \x7d"

structure World (σ : Type) where
  files : Files
  session : Session σ

namespace World

variable {σ : Type}

def log (w : World σ) (events : List Event) : World σ :=
  { w with session := w.session.log events }

end World

namespace Run

variable {σ : Type}

/-- The messages tolerated so far, or the failure that ends the run. -/
abbrev Verdict := Except Failure (List String)

def tolerate (settings : Settings) (tolerated : List String) (failure : Option Failure) : Verdict :=
  match failure with
  | none => .ok tolerated
  | some cause => if settings.continueOnError then .ok (tolerated ++ [cause.message]) else .error cause

def tolerateNotices (settings : Settings) (failure : Option Failure) : List Event :=
  match failure with
  | some cause => if settings.continueOnError then [⟨.error, .run, cause.message ++ "; continuing"⟩] else []
  | none => []

def foundNotice (t : Template) : Event :=
  ⟨.info, .run, "Found " ++ toString t.placeholders.length ++ " placeholder(s) in " ++ t.path⟩

def endNotice (r : Report) : Event := ⟨.debug, .run, "Reached end of run: " ++ r.text⟩

def failureOf {α : Type} : Except Failure α → Option Failure
  | .error cause => some cause
  | .ok _ => none

def writeOut (settings : Settings) (t : Template) (r : Resolution) (tolerated : List String) (w : World σ) :
    Except Failure Report × World σ :=
  let ⟨result, events⟩ := t.renderTo r.batch settings.outputFile w.files
  let w := (w.log events).log (tolerateNotices settings (failureOf result))
  match tolerate settings tolerated (failureOf result) with
  | .error cause => (.error cause, w)
  | .ok tolerated =>
    let (unrendered, files) := match result with
      | .ok (rendered, files) => (rendered.skipped, files)
      | .error _ => ([], w.files)
    let report : Report := ⟨t.placeholders.length, r.batch.size, r.resolved, unrendered, tolerated⟩
    (.ok report, { w with files }.log [endNotice report])

def resolveAndRender (store : Store σ) (settings : Settings) (schedule : List Nat) (t : Template)
    (tolerated : List String) (w : World σ) : Except Failure Report × World σ :=
  let (resolution, session) :=
    resolve store settings.connection.concurrency schedule t.placeholders w.session
  let w := { w with session }
  match resolution with
  | .error cause => (.error cause, w)
  | .ok r =>
    let w := w.log (tolerateNotices settings r.failure?)
    match tolerate settings tolerated r.failure? with
    | .error cause => (.error cause, w)
    | .ok tolerated => writeOut settings t r tolerated w

def loginAndResolve (store : Store σ) (settings : Settings) (schedule : List Nat) (t : Template)
    (w : World σ) : Except Failure Report × World σ :=
  let (answer, session) := w.session.authenticate store settings.connection.role
  let w := { w with session }.log (tolerateNotices settings (failureOf answer))
  match tolerate settings [] (failureOf answer) with
  | .error cause => (.error cause, w)
  | .ok tolerated => resolveAndRender store settings schedule t tolerated w

end Run

/-- Carries out a run. Without a template nothing is asked of the store. -/
def run {σ : Type} (store : Store σ) (settings : Settings) (schedule : List Nat) (w : World σ) :
    Except Failure Report × World σ :=
  match Template.openFile w.files settings.inputFile with
  | .error cause => (.error cause, w)
  | .ok t => Run.loginAndResolve store settings schedule t (w.log [Run.foundNotice t])

end SecretTemplate
