import LetterPacks.Text.Blank
import LetterPacks.Text.Classes
import LetterPacks.Text.Split

/-!
# Environments and their files

An environment gives some names a value.  A value never holds the null character.

An environment file gives values to names, one assignment a line.  A quoted value may go on over
several lines; a line whose first printed character is `#` is a comment, and so is what follows
`#` behind a blank.

Single quotes keep everything as it is.  Elsewhere a backslash escapes the next character, and a
dollar sign with a name, or with a name in braces, stands for the value of that name.  Behind an
unquoted blank only a comment may follow.

The lines are taken in their order.  A name that has a value keeps it, and the first line that
cannot be read ends the file.  A value that no environment can hold leaves none.
-/

namespace LetterPacks

abbrev Environment : Type := List (String × String)

namespace Environment

def value? (environment : Environment) (name : String) : Option String :=
  environment.lookup name

def canHold (value : String) : Bool :=
  value.toList.all (· != '\x00')

/-- The environment in which a name has a value: its own one if there is one, otherwise the given
one.  There is none when the given one is taken and cannot be held. -/
def withDefault? (environment : Environment) (name value : String) : Option Environment :=
  match environment.value? name with
  | some _ => some environment
  | none => if canHold value then some (environment ++ [(name, value)]) else none

end Environment

inductive LinePlace where
  | plain
  | escape
  | blank
  | quoted (quote : Char)
  | quotedEscape (quote : Char)
deriving DecidableEq, Repr

def LinePlace.unquoted (character : Char) : LinePlace :=
  if character = '\\' then .escape
  else if character = '"' ∨ character = '\'' then .quoted character
  else .plain

/-- The place behind one more character; none where a comment starts. -/
def LinePlace.next? (place : LinePlace) (character : Char) : Option LinePlace :=
  match place with
  | .plain =>
      if Text.isBlank character && character != '\n' && character != '\r' then some .blank
      else some (.unquoted character)
  | .blank => if character = '#' then none else some (.unquoted character)
  | .escape => some .plain
  | .quoted quote =>
      if character = '\\' then some (.quotedEscape quote)
      else if character = quote then some .plain
      else some (.quoted quote)
  | .quotedEscape quote => some (.quoted quote)

/-- The part of a line in front of its comment, and the place at its end unless a comment ends it.
-/
def scanLine (place : LinePlace) : List Char → List Char × Option LinePlace
  | [] => ([], some place)
  | character :: rest =>
      match place.next? character with
      | none => ([], none)
      | some place =>
          let (kept, final) := scanLine place rest
          (character :: kept, final)

def isComment (line : List Char) : Bool :=
  (Text.dropBlanks line).head? = some '#'

/-- Puts lines together that belong to one assignment.  What is left open at the end is dropped. -/
def logicalLines (place : LinePlace) (before : List Char) : List (List Char) → List (List Char)
  | [] => []
  | line :: lines =>
      if isComment (before ++ line) then logicalLines .plain [] lines
      else
        let (kept, final) := scanLine place line
        match final with
        | none | some .plain => (before ++ kept) :: logicalLines .plain [] lines
        | some place => logicalLines place (before ++ kept) lines

inductive ValuePlace where
  /-- Outside single quotes, which may be inside double ones. -/
  | plain (quoted : Bool)
  | literal
  | escape (quoted : Bool)
  /-- In a name behind a dollar sign; its characters so far are reversed. -/
  | name (quoted : Bool) (before : List Char)
  | braced (quoted : Bool) (before : List Char)
  | behind
deriving DecidableEq, Repr

def isEscapable (character : Char) : Bool :=
  ['\\', '\'', '"', '$', ' '].contains character

/-- The value of a name whose characters are reversed; nothing for a name without a value. -/
def substituted (environment : Environment) (before : List Char) : List Char :=
  ((environment.value? (String.ofList before.reverse)).getD "").toList

/-- Reads a value; none when it cannot be read.  What was read of it is kept in reverse. -/
def readValue? (environment : Environment) (place : ValuePlace) (output : List Char) :
    List Char → Option (List Char)
  | [] =>
      match place with
      | .plain false | .escape false | .behind => some output.reverse
      | .name false before => some (output.reverse ++ substituted environment before)
      | _ => none
  | character :: rest =>
      let proceed (place : ValuePlace) (output : List Char) : Option (List Char) :=
        readValue? environment place output rest
      let put (before : List Char) : List Char :=
        (substituted environment before).reverse ++ output
      match place with
      | .behind =>
          if character = ' ' ∨ character = '\t' then proceed .behind output
          else if character = '#' then some output.reverse
          else none
      | .escape quoted =>
          if isEscapable character then proceed (.plain quoted) (character :: output)
          else if character = 'n' then proceed (.plain quoted) ('\n' :: output)
          else none
      | .literal =>
          if character = '\'' then proceed (.plain false) output
          else proceed .literal (character :: output)
      | .name quoted before =>
          if Text.isAlphanumeric character then proceed (.name quoted (character :: before)) output
          else if character = '\x7b' && before.isEmpty then proceed (.braced quoted []) output
          else if character = '$' then proceed (.name quoted []) (put before)
          else proceed (.plain quoted) (character :: put before)
      | .braced quoted before =>
          if character = '\x7d' then proceed (.plain quoted) (put before)
          else proceed (.braced quoted (character :: before)) output
      | .plain quoted =>
          if character = '$' then proceed (.name quoted []) output
          else if character = '"' then proceed (.plain (!quoted)) output
          else if character = '\\' then proceed (.escape quoted) output
          else if quoted then proceed (.plain quoted) (character :: output)
          else if character = '\'' then proceed .literal output
          else if character = ' ' ∨ character = '\t' then proceed .behind output
          else proceed (.plain quoted) (character :: output)

inductive LineContent where
  | blank
  | assignment (name value : String)
  | invalid
deriving DecidableEq, Repr

def startsName (character : Char) : Bool :=
  character.isAlpha || character = '_'

def isNameChar (character : Char) : Bool :=
  character.isAlphanum || character = '_' || character = '.'

def readName? (line : List Char) : Option (List Char × List Char) :=
  match line with
  | [] => none
  | first :: _ =>
      if startsName first then
        some (line.takeWhile isNameChar, Text.dropBlanks (line.dropWhile isNameChar))
      else none

/-- Reads a name and the equals sign behind it.  The word `export` may stand in front. -/
def readAssigned? (line : List Char) : Option (List Char × List Char) := do
  let (name, rest) ← readName? line
  match rest with
  | '=' :: value => some (name, value)
  | _ =>
      if name = "export".toList then
        match ← readName? rest with
        | (name, '=' :: value) => some (name, value)
        | _ => none
      else none

def readLine (environment : Environment) (line : List Char) : LineContent :=
  match Text.trimChars line with
  | [] | '#' :: _ => .blank
  | trimmed =>
      match readAssigned? trimmed with
      | none => .invalid
      | some (name, rest) =>
          match Text.dropBlanks rest with
          | [] | '#' :: _ => .assignment (String.ofList name) ""
          | written =>
              match readValue? environment (.plain false) [] written with
              | some value => .assignment (String.ofList name) (String.ofList value)
              | none => .invalid

namespace Environment

/-- The environment with the assignments of some lines; none when it cannot hold one of them. -/
def addLines? (environment : Environment) : List (List Char) → Option Environment
  | [] => some environment
  | line :: lines =>
      match readLine environment line with
      | .blank => environment.addLines? lines
      | .assignment name value =>
          match environment.withDefault? name value with
          | some environment => environment.addLines? lines
          | none => none
      | .invalid => some environment

/-- The environment with the assignments of an environment file; none when it cannot hold one of
them.  A byte order mark at the start of the file does not count. -/
def addFile? (environment : Environment) (text : String) : Option Environment :=
  let characters := match text.toList with
    | '\uFEFF' :: rest => rest
    | other => other
  environment.addLines? (logicalLines .plain [] (Text.linesOf characters))

end Environment

end LetterPacks
