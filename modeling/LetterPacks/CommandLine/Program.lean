import LetterPacks.Application.Failure
import LetterPacks.Case.Schema
import LetterPacks.Catalog.DecisionTable
import LetterPacks.CommandLine.Arguments
import LetterPacks.Demo.Walk
import LetterPacks.Dispatch.Views
import LetterPacks.Json.Reading
import LetterPacks.Settings.Environment
import LetterPacks.Storage.FileTree

/-!
# The commands

A program reads and writes files and comes to an outcome.  Each command is a program; running it on
a file tree gives its outcome and the tree that it leaves behind.
-/

namespace LetterPacks

inductive Breakdown where
  | beyondCalendar
  | unheldValue
  /-- The log filter would have to be cut within a character. -/
  | cutCharacter
deriving DecidableEq, Repr

inductive Outcome where
  | finished (shown : String)
  | failed (failure : Failure)
  | misused
  | aborted (cause : Breakdown)
  | serving (address : String) (settings : Settings)

def Outcome.code : Outcome → Nat
  | .finished _ | .serving _ _ => 0
  | .failed _ => 1
  | .misused => 2
  | .aborted _ => 101

def Outcome.shown : Outcome → String
  | .finished shown => shown
  | _ => ""

def Outcome.complaint? : Outcome → Option String
  | .failed failure => some ("application error: " ++ failure.message)
  | _ => none

/-- Something that reads and writes files before it ends. -/
inductive Program where
  | finish (outcome : Outcome)
  | read (path : String) (next : Except FileFault String → Program)
  | write (path text : String) (next : Except FileFault Unit → Program)

namespace Program

/-- Runs a program on a file tree.  Gives its outcome and the tree behind it. -/
def runOn : Program → FileTree → Outcome × FileTree
  | .finish outcome, tree => (outcome, tree)
  | .read path next, tree => (next (tree.read path)).runOn tree
  | .write path text next, tree =>
      match tree.write path text with
      | .ok written => (next (.ok ())).runOn written
      | .error fault => (next (.error fault)).runOn tree

def fail (failure : Failure) : Program :=
  .finish (.failed failure)

def orFail {ε α : Type} (failure : ε → Failure) (next : α → Program) : Except ε α → Program
  | .ok value => next value
  | .error fault => fail (failure fault)

def readCase (text : String) : Except Json.Fault CaseFile :=
  CaseFile.shape.readAll text.toList

def withCase (path : String) (next : CaseFile → Program) : Program :=
  .read path (orFail (fun fault => .storage fault.message) fun text =>
    orFail .caseFile next (readCase text))

def withCatalog (next : Catalog → Program) : Program :=
  orFail .catalog next Catalog.standard

end Program

namespace Command

open Program

def listLetters : Program :=
  withCatalog fun catalog =>
    let line (rule : SelectionRule) : String :=
      rule.letter.name ++ " " ++ Number.decimal rule.packs.length ++ " packs\n"
    .finish (.finished (String.join (catalog.rules.map line)))

def resolveLetter (text path : String) (party : Party) : Program :=
  orFail .catalog (fun letter =>
    withCase path fun caseFile =>
      withCatalog fun catalog =>
        let resolved := (Service.inMemory catalog).resolve letter party caseFile []
        orFail .dispatch (fun pack =>
          let view := resolvedView letter party pack resolved.caseFile
          .finish (.finished (view.pretty ++ "\n"))) resolved.outcome)
    (Letter.ofText text)

def exportTable (output : Option String) : Program :=
  withCatalog fun catalog =>
    let rows := catalog.decisionTable
    let text := String.join (exportedTable rows)
    match output with
    | none => .finish (.finished text)
    | some path =>
        .write path text (orFail (fun fault => .storage fault.message) fun _ =>
          .finish (.finished
            ("wrote " ++ Number.decimal rows.length ++ " rows to " ++ path ++ "\n")))

def showDemo (prints : Bool) (caseFile : CaseFile) : Program :=
  withCatalog fun catalog =>
    orFail .dispatch (fun shown => .finish (.finished shown))
      (Demo.transcript catalog prints caseFile)

/-- The demonstration on a case from a file or on the sample case. -/
def demonstrate (path : Option String) (issueDate : Date) (prints : Bool) : Program :=
  match path with
  | some path => withCase path (showDemo prints)
  | none =>
      match Demo.sampleCase? issueDate with
      | some caseFile => showDemo prints caseFile
      | none => .finish (.aborted .beyondCalendar)

/-- The settings with the host and the port that the command line names. -/
def override (settings : Settings) (host : Option String) (port : Option UInt16) : Settings :=
  { settings with host := host.getD settings.host, port := port.getD settings.port }

/-- Checks the log filter.  The environment may name one; where it is malformed or missing the level
of the settings must be a filter. -/
def checkFilters (environment : Environment) (settings : Settings) : Except LogFilterFault Unit :=
  match (environment.value? "RUST_LOG").map checkLogFilter with
  | none | some (.error .malformed) => checkLogFilter settings.logLevel
  | some result => result

def startService (environment : Environment) (host : Option String) (port : Option UInt16) :
    Program :=
  orFail .settings (fun settings =>
    let settings := override settings host port
    match checkFilters environment settings with
    | .error .malformed => fail (.logFilter settings.logLevel)
    | .error .cutCharacter => .finish (.aborted .cutCharacter)
    | .ok () =>
        withCatalog fun _ =>
          orFail .settings (fun address => .finish (.serving address settings))
            settings.socketAddress)
    (Settings.ofEnvironment environment)

def environmentFile : String := ".env"

/-- Reads the environment file, if there is one, and starts the service. -/
def serveWith (environment : Environment) (host : Option String) (port : Option UInt16) : Program :=
  .read environmentFile fun
    | .ok text =>
        match environment.addFile? text with
        | some environment => startService environment host port
        | none => .finish (.aborted .unheldValue)
    | .error _ => startService environment host port

def program (environment : Environment) (today : Date) : Command → Program
  | .serve host port => serveWith environment host port
  | .list => listLetters
  | .resolve letter caseFile party => resolveLetter letter caseFile party
  | .table output => exportTable output
  | .demo caseFile issueDate skipPrint =>
      demonstrate caseFile (issueDate.getD today) (!skipPrint)

end Command

namespace CommandLine

def versionLine : String := "nfdiv-packs 0.1.0\n"

def aboutLine : String := "Resolve and print divorce and dissolution document packs\n"

def program (environment : Environment) (today : Date) (arguments : List String) : Program :=
  match readCommand arguments with
  | .ok command => command.program environment today
  | .error .help => .finish (.finished aboutLine)
  | .error .version => .finish (.finished versionLine)
  | .error .misused => .finish .misused

end CommandLine

end LetterPacks
