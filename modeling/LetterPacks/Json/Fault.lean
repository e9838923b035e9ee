import LetterPacks.Calendar.DateReader
import LetterPacks.Number.Shortest
import LetterPacks.Text.Classes

/-!
# Faults of a JSON text

A text fails in one of three ways: it ends before the value does, it is not JSON, or it is JSON
for a value that does not suit.  Only an unsuitable value is described in words.
-/

namespace LetterPacks.Json

inductive Found where
  | null
  | boolean (value : Bool)
  | integer (value : Int)
  | floating (value : Number.Floating)
  | text (value : String)
  | list
  | record
deriving DecidableEq

inductive Wanted where
  | natural
  | text
  | flag
  | list
  | nothing
  | date
  | record (name : String)
deriving DecidableEq, Repr

inductive Mismatch where
  | wrongKind (found : Found) (wanted : Wanted)
  | wrongValue (found : Found) (wanted : Wanted)
  | unknownName (name : String) (known : List String)
  | missingMember (name : String)
  | duplicateMember (name : String)
  | wrongLength (length : Nat) (owner : String) (wanted : Nat)
  | wrongDate (fault : Date.Fault)
deriving DecidableEq

inductive Fault where
  | ended
  | malformed
  | unsuitable (mismatch : Mismatch)
deriving DecidableEq

def integerText (value : Int) : String :=
  let size := Number.digits value.natAbs
  String.ofList (if value < 0 then '-' :: size else size)

def marked (name : String) : String :=
  "`" ++ name ++ "`"

def Found.message : Found → String
  | .null => "null"
  | .boolean value => "boolean " ++ marked (if value then "true" else "false")
  | .integer value => "integer " ++ marked (integerText value)
  | .floating value => "floating point " ++ marked value.text
  | .text value => "string " ++ Text.quoted value
  | .list => "sequence"
  | .record => "map"

def Wanted.message : Wanted → String
  | .natural => "u64"
  | .text => "a string"
  | .flag => "a boolean"
  | .list => "a sequence"
  | .nothing => "unit"
  | .date => "a formatted date string"
  | .record name => "struct " ++ name

def oneOf : List String → String
  | [] => "there are no variants"
  | [only] => "expected " ++ marked only
  | [first, second] => "expected " ++ marked first ++ " or " ++ marked second
  | names => "expected one of " ++ String.intercalate ", " (names.map marked)

def Mismatch.message : Mismatch → String
  | .wrongKind found wanted =>
      "invalid type: " ++ found.message ++ ", expected " ++ wanted.message
  | .wrongValue found wanted =>
      "invalid value: " ++ found.message ++ ", expected " ++ wanted.message
  | .unknownName name known => "unknown variant " ++ marked name ++ ", " ++ oneOf known
  | .missingMember name => "missing field " ++ marked name
  | .duplicateMember name => "duplicate field " ++ marked name
  | .wrongLength length owner wanted =>
      "invalid length " ++ Number.decimal length ++ ", expected struct " ++ owner ++ " with " ++
        Number.decimal wanted ++ (if wanted = 1 then " element" else " elements")
  | .wrongDate fault => fault.message

def Fault.detail? : Fault → Option String
  | .unsuitable mismatch => some mismatch.message
  | _ => none

end LetterPacks.Json
