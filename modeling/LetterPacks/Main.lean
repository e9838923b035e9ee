import LetterPacks.CommandLine.Program
import Std.Time.Format

/-!
# The application

The program that the arguments ask for is carried out on the files and in the environment of the
process.
-/

namespace LetterPacks

def knownVariables : List String :=
  ["APP_ENV", "APP_HOST", "APP_PORT", "APP_LOG_LEVEL", "APP_PAPER_FORMS_DIR", "RUST_LOG"]

def processEnvironment : IO Environment :=
  knownVariables.filterMapM fun name => do
    return (← IO.getEnv name).map fun value => (name, value)

def fileFaultOf : IO.Error → FileFault
  | .noFileOrDirectory .. => .missing
  | error => .other error.toString

def attempt {α : Type} (action : IO α) : IO (Except FileFault α) := do
  match ← action.toBaseIO with
  | .ok value => return .ok value
  | .error error => return .error (fileFaultOf error)

def perform : Program → IO Outcome
  | .finish outcome => return outcome
  | .read path next => do perform (next (← attempt (IO.FS.readFile path)))
  | .write path text next => do perform (next (← attempt (IO.FS.writeFile path text)))

/-- Today's date; the first day of 1970 when the clock is beyond the calendar. -/
def today : IO Date := do
  let now ← Std.Time.PlainDate.now
  let date := Date.ofParts? now.year.toInt now.month.val.toNat now.day.val.toNat
  return date.getD ⟨1970, 1, 1, by decide⟩

end LetterPacks

open LetterPacks

def main (arguments : List String) : IO UInt32 := do
  let outcome ← perform (CommandLine.program (← processEnvironment) (← today) arguments)
  IO.print outcome.shown
  match outcome with
  | .serving address _ => IO.eprintln s!"ready to listen on {address}"
  | _ => pure ()
  if let some complaint := outcome.complaint? then IO.eprintln complaint
  return UInt32.ofNat outcome.code
