import LetterPacks.Calendar.DateReader
import LetterPacks.Case.Party
import LetterPacks.Number.Digits

/-!
# Arguments

The command line names a command and its options.  An option starts with two hyphens; its value
follows behind an equals sign or as the next argument, which may then not start with a hyphen
itself.  No option is given twice, and two hyphens alone end the options.

Arguments are read from left to right, and the first one that does not fit or that asks for help
ends the reading.  Without any argument the service is started.
-/

namespace LetterPacks

inductive Command where
  | serve (host : Option String) (port : Option UInt16)
  | list
  | resolve (letter caseFile : String) (party : Party)
  | table (output : Option String)
  | demo (caseFile : Option String) (issueDate : Option Date) (skipPrint : Bool)

inductive Usage where
  | help
  | version
  | misused
deriving DecidableEq, Repr

namespace CommandLine

inductive OptionKind where
  | flag
  | text
  | path
  | port
  | party
  | date
deriving DecidableEq, Repr

/-- The port that the value of an option names: a whole number with an optional sign. -/
def portOf? (text : String) : Option UInt16 :=
  match text.toList with
  | '-' :: unsigned =>
      if !unsigned.isEmpty && unsigned.all (· = '0') then some 0 else none
  | _ => (Number.boundedNatural? 65535 text).map UInt16.ofNat

def dateOf? (text : String) : Option Date :=
  (Date.ofTypedText text).toOption

def partyOf? (text : String) : Option Party :=
  (Party.ofTypedText text).toOption

def OptionKind.accepts (kind : OptionKind) (value : String) : Bool :=
  match kind with
  | .flag => false
  | .text => true
  | .path => value != ""
  | .port => (portOf? value).isSome
  | .party => (partyOf? value).isSome
  | .date => (dateOf? value).isSome

/-- An argument that names an option, and the value behind its equals sign. -/
def longOption? (argument : String) : Option (String × Option String) :=
  match argument.toList with
  | '-' :: '-' :: rest =>
      let name := rest.takeWhile fun character => character != '='
      let value := (rest.drop name.length).drop 1
      some (String.ofList name,
        if name.length < rest.length then some (String.ofList value) else none)
  | _ => none

def startsShort (letter : Char) (argument : String) : Bool :=
  match argument.toList with
  | '-' :: first :: _ => first = letter
  | _ => false

def asksHelp (argument : String) : Bool :=
  argument = "--help" || startsShort 'h' argument

def asksVersion (argument : String) : Bool :=
  argument = "--version" || startsShort 'V' argument

/-- Whether an argument cannot be the value of the option in front of it. -/
def looksLikeOption (argument : String) : Bool :=
  match argument.toList with
  | '-' :: _ :: _ => true
  | _ => false

abbrev Options : Type := List (String × String)

/-- Reads options of the given kinds; the ones read so far come first. -/
def readOptions (kinds : List (String × OptionKind)) (found : Options) :
    List String → Except Usage Options
  | [] => .ok found
  | argument :: rest =>
      if argument = "--" then if rest.isEmpty then .ok found else .error .misused
      else if asksHelp argument then .error .help
      else
        match longOption? argument with
        | none => .error .misused
        | some (name, written) =>
            match kinds.lookup name, written with
            | none, _ => .error .misused
            | some kind, written =>
                if (found.lookup name).isSome then .error .misused
                else
                  match kind, written with
                  | .flag, none => readOptions kinds (found ++ [(name, "")]) rest
                  | kind, some value =>
                      if kind.accepts value then readOptions kinds (found ++ [(name, value)]) rest
                      else .error .misused
                  | kind, none =>
                      match rest with
                      | [] => .error .misused
                      | value :: rest =>
                          if !looksLikeOption value && kind.accepts value then
                            readOptions kinds (found ++ [(name, value)]) rest
                          else .error .misused

def readServe (arguments : List String) : Except Usage Command := do
  let options ← readOptions [("host", .text), ("port", .port)] [] arguments
  .ok (.serve (options.lookup "host") ((options.lookup "port").bind portOf?))

def readResolve (arguments : List String) : Except Usage Command := do
  let options ←
    readOptions [("letter-id", .text), ("case", .path), ("party", .party)] [] arguments
  match options.lookup "letter-id", options.lookup "case" with
  | some letter, some caseFile =>
      .ok (.resolve letter caseFile (((options.lookup "party").bind partyOf?).getD .applicant1))
  | _, _ => .error .misused

/-- Reads the arguments of the command that exports the decision table. -/
def readTable (arguments : List String) : Except Usage Command := do
  let options ← readOptions [("output", .path)] [] arguments
  .ok (.table (options.lookup "output"))

def readDemo (arguments : List String) : Except Usage Command := do
  let options ←
    readOptions [("case", .path), ("issue-date", .date), ("skip-print", .flag)] [] arguments
  .ok (.demo (options.lookup "case") ((options.lookup "issue-date").bind dateOf?)
    (options.lookup "skip-print").isSome)

/-- Reads the arguments of a command that has no options of its own. -/
def readPlain (command : Command) (arguments : List String) : Except Usage Command := do
  let _ ← readOptions [] [] arguments
  .ok command

/-- What an argument means where a command is wanted and it names none. -/
def noCommand {α : Type} (argument : String) : Except Usage α :=
  .error (if asksHelp argument then .help else .misused)

def hasHelp : List String → Bool
  | [] | ["serve"] | ["demo"] | ["help"] | ["packs"] => true
  | ["packs", command] => ["list", "resolve", "table", "help"].contains command
  | _ => false

def readHelp (arguments : List String) : Except Usage Command :=
  .error (if hasHelp arguments then .help else .misused)

def readPacks : List String → Except Usage Command
  | [] => .error .misused
  | "list" :: rest => readPlain .list rest
  | "resolve" :: rest => readResolve rest
  | "table" :: rest => readTable rest
  | "help" :: rest => readHelp ("packs" :: rest)
  | argument :: _ => noCommand argument

def readCommand : List String → Except Usage Command
  | [] | ["--"] => .ok (.serve none none)
  | "serve" :: rest => readServe rest
  | "packs" :: rest => readPacks rest
  | "demo" :: rest => readDemo rest
  | "help" :: rest => readHelp rest
  | argument :: _ => if asksVersion argument then .error .version else noCommand argument

end CommandLine

end LetterPacks
