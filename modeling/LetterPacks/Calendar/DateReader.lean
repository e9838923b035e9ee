import LetterPacks.Calendar.Date
import LetterPacks.Text.Blank

/-!
# Reading dates

A date is read as year, hyphen, month, hyphen, day.  A year has at most four digits, or a sign and
any number of digits; month and day have one or two digits each.  White space may stand before each
number.  A *strict* text has nothing else; a *spaced* one may also have white space before a hyphen
and at its end.

The first fault from the left is reported: a text that ends too early, a character that does not
belong, a number that names no year, month or day, or something left over.  Whether the calendar
has the day is asked last.
-/

namespace LetterPacks.Date

inductive Fault where
  | tooShort
  | invalid
  | outOfRange
  | trailing
deriving DecidableEq, Repr

def Fault.message : Fault → String
  | .tooShort => "premature end of input"
  | .invalid => "input contains invalid characters"
  | .outOfRange => "input is out of range"
  | .trailing => "trailing input"

inductive Spacing where
  | strict
  | spaced
deriving DecidableEq, Repr

/-- The largest number of 63 bits: a longer run of digits is out of range wherever it stands. -/
def largestCount : Nat := 9223372036854775807

/-- Reads the digits at the front, no more of them than a limit allows. -/
def readCount (limit : Option Nat) (text : List Char) : Except Fault (Nat × List Char) :=
  let run := match limit with
    | some count => Number.leadingDigits (text.take count)
    | none => Number.leadingDigits text
  match text, run with
  | [], _ => .error .tooShort
  | _, [] => .error .invalid
  | _, _ =>
      let value := Number.valueOfDigits run
      if value ≤ largestCount then .ok (value, text.drop run.length) else .error .outOfRange

def checkYear (year : Int) (rest : List Char) : Except Fault (Int × List Char) :=
  if -2147483648 ≤ year ∧ year ≤ 2147483647 then .ok (year, rest) else .error .outOfRange

/-- Reads a year: a sign and any number of digits, or at most four digits. -/
def readYear (text : List Char) : Except Fault (Int × List Char) := do
  match Text.dropBlanks text with
  | '-' :: unsigned =>
      let (size, rest) ← readCount none unsigned
      checkYear (-size) rest
  | '+' :: unsigned =>
      let (size, rest) ← readCount none unsigned
      checkYear size rest
  | unsigned =>
      let (size, rest) ← readCount (some 4) unsigned
      checkYear size rest

/-- Reads a number of one or two digits from one up to a greatest value. -/
def readPart (greatest : Nat) (text : List Char) : Except Fault (Nat × List Char) := do
  let (value, rest) ← readCount (some 2) (Text.dropBlanks text)
  if 1 ≤ value ∧ value ≤ greatest then .ok (value, rest) else .error .outOfRange

def skipGap : Spacing → List Char → List Char
  | .strict, text => text
  | .spaced, text => Text.dropBlanks text

def readHyphen (spacing : Spacing) (text : List Char) : Except Fault (List Char) :=
  match skipGap spacing text with
  | [] => .error .tooShort
  | '-' :: rest => .ok rest
  | _ => .error .invalid

def read (spacing : Spacing) (text : List Char) : Except Fault Date := do
  let (year, text) ← readYear text
  let text ← readHyphen spacing text
  let (month, text) ← readPart 12 text
  let text ← readHyphen spacing text
  let (day, text) ← readPart 31 text
  match skipGap spacing text with
  | [] =>
      match ofParts? year month day with
      | some date => .ok date
      | none => .error .outOfRange
  | _ => .error .trailing

def ofCaseText (text : String) : Except Fault Date :=
  read .spaced text.toList

/-- Reads the text of a date that a person has typed: white space around it is left out first. -/
def ofTypedText (text : String) : Except Fault Date :=
  read .strict (Text.trimChars text.toList)

def typedMessage (text : String) (fault : Fault) : String :=
  "failed to parse '" ++ text ++ "' as YYYY-MM-DD (" ++ fault.message ++ ")"

end LetterPacks.Date
