import LetterPacks.Dispatch.Service
import LetterPacks.Json.Fault
import LetterPacks.Settings.Settings
import LetterPacks.Web.Server

/-!
# Failures

Whatever makes the application fail has a cause of its own.  A failure is told by naming the part
that failed before the cause, and it is answered with a status code.
-/

namespace LetterPacks

inductive Failure where
  | settings (fault : SettingsFault)
  | logFilter (text : String)
  | telemetry (detail : String)
  | storage (detail : String)
  | server (detail : String)
  | catalog (fault : CatalogFault)
  | dispatch (fault : DispatchFault)
  | table (detail : String)
  | caseFile (fault : Json.Fault)

namespace Failure

/-- The words for the cause of a failure.  Of a case file that cannot be read there are some only
when its text holds an unsuitable value. -/
def cause? : Failure → Option String
  | .settings fault => some fault.message
  | .logFilter _ => some "invalid filter directive"
  | .telemetry detail | .storage detail | .server detail | .table detail => some detail
  | .catalog fault => some fault.message
  | .dispatch fault => some fault.message
  | .caseFile fault => fault.detail?

def part : Failure → String
  | .settings _ => "configuration error"
  | .logFilter text => "invalid log level/filter '" ++ text ++ "'"
  | .telemetry _ => "telemetry error"
  | .storage _ => "io error"
  | .server _ => "server error"
  | .catalog _ => "catalog error"
  | .dispatch _ => "document pack error"
  | .table _ => "csv error"
  | .caseFile _ => "invalid case json"

def message (failure : Failure) : String :=
  match failure, failure.cause? with
  | .logFilter _, _ => failure.part ++ ": unable to build EnvFilter"
  | _, some cause => failure.part ++ ": " ++ cause
  | _, none => failure.part

def status : Failure → Nat
  | .dispatch fault => fault.status
  | .catalog (.unknownLetter _) => 404
  | .caseFile _ => 400
  | _ => 500

def response (failure : Failure) : Web.Response :=
  Web.failure failure.status failure.message

end Failure

end LetterPacks
