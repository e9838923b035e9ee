import LetterPacks.Number.Digits
import LetterPacks.Text.Split

/-!
# Request targets

A target may start with a scheme, two slashes and an authority, in front of its path.  The path
ends before the query and the fragment.  In a segment of the path, a percent sign and two
hexadecimal digits stand for a byte; a percent sign with anything else behind it stands for
itself.  The bytes of a segment must be UTF-8.
-/

namespace LetterPacks.Web

def hexByte? (byte : UInt8) : Option Nat :=
  Number.hexValue? (Char.ofNat byte.toNat)

def encodedByte? (high low : UInt8) : Option UInt8 := do
  let high ← hexByte? high
  let low ← hexByte? low
  some (UInt8.ofNat (high * 16 + low))

def resolveEscapes : List UInt8 → List UInt8
  | 0x25 :: high :: low :: rest =>
      match encodedByte? high low with
      | some byte => byte :: resolveEscapes rest
      | none => 0x25 :: resolveEscapes (high :: low :: rest)
  | byte :: rest => byte :: resolveEscapes rest
  | [] => []

def decodeSegment? (segment : String) : Option String :=
  String.fromUTF8? ⟨(resolveEscapes segment.toUTF8.data.toList).toArray⟩

def isSchemeChar (character : Char) : Bool :=
  character.isAlphanum || character = '+' || character = '-' || character = '.'

def endsPath (character : Char) : Bool :=
  character = '?' || character = '#'

/-- What follows the scheme and the authority of a target; all of it when it has no scheme. -/
def afterAuthority (target : List Char) : List Char :=
  match target.dropWhile isSchemeChar with
  | ':' :: '/' :: '/' :: rest =>
      rest.dropWhile fun character => character != '/' && !endsPath character
  | _ => target

def pathOf (target : String) : String :=
  String.ofList ((afterAuthority target.toList).takeWhile fun character => !endsPath character)

inductive Route where
  | letters
  | resolve (segment : String)
  | print (segment : String)
  | health
  | ready
  | metrics
deriving DecidableEq, Repr

/-- What a path leads to, if to anything.  The segment of a letter may be empty only when the path
goes on behind it. -/
def Route.ofPath? (path : String) : Option Route :=
  match Text.split '/' path with
  | ["", "health"] => some .health
  | ["", "ready"] => some .ready
  | ["", "metrics"] => some .metrics
  | ["", "api", "v1", "document-packs"] => some .letters
  | ["", "api", "v1", "document-packs", segment] =>
      if segment = "" then none else some (.resolve segment)
  | ["", "api", "v1", "document-packs", segment, "print"] => some (.print segment)
  | _ => none

end LetterPacks.Web
