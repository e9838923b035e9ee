import LetterPacks.Settings.Address
import LetterPacks.Settings.Environment
import LetterPacks.Settings.LogFilter

/-!
# Settings

The settings of the service are taken from an environment.  Each has a value for the case that the
environment has none.
-/

namespace LetterPacks

inductive Stage where
  | development
  | test
  | production
deriving DecidableEq, Repr

namespace Stage

def title : Stage → String
  | .development => "Development"
  | .test => "Test"
  | .production => "Production"

/-- The stage that a text names; white space around it and the case of ASCII letters do not count.
Whatever names no other stage names development. -/
def ofText (text : String) : Stage :=
  match Text.asciiLower (Text.trim text) with
  | "prod" | "production" => .production
  | "test" | "ci" => .test
  | _ => .development

end Stage

inductive SettingsFault where
  | invalidPort
  | invalidHost
deriving DecidableEq, Repr

def SettingsFault.message : SettingsFault → String
  | .invalidPort => "APP_PORT must be a valid u16"
  | .invalidHost => "APP_HOST must parse to an IPv4 or IPv6 address"

structure Settings where
  stage : Stage
  host : String
  port : UInt16
  logLevel : String
  formsFolder : String
deriving DecidableEq, Repr

namespace Settings

def portOf? (text : String) : Option UInt16 :=
  (Number.boundedNatural? 65535 text).map UInt16.ofNat

def defaultFormsFolder : String := "paper-forms"

def ofEnvironment (environment : Environment) : Except SettingsFault Settings :=
  let value (name default : String) : String := (environment.value? name).getD default
  match portOf? (value "APP_PORT" "3000") with
  | none => .error .invalidPort
  | some port =>
      let folder := value "APP_PAPER_FORMS_DIR" defaultFormsFolder
      .ok {
        stage := .ofText (value "APP_ENV" "development")
        host := value "APP_HOST" "127.0.0.1"
        port := port
        logLevel := value "APP_LOG_LEVEL" "info"
        formsFolder := if Text.isBlankText folder then defaultFormsFolder else folder }

/-- The address on which the service listens; the local host is known by its name. -/
def address? (settings : Settings) : Option Address :=
  if Text.asciiLower settings.host = "localhost" then some (.v4 127 0 0 1)
  else Address.ofText? settings.host

def socketAddress (settings : Settings) : Except SettingsFault String :=
  match settings.address? with
  | some address => .ok (address.withPort settings.port)
  | none => .error .invalidHost

end Settings

end LetterPacks
