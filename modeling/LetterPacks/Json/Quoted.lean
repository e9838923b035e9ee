import LetterPacks.Json.Fault
import LetterPacks.Number.Digits

/-!
# Reading a quoted text

A machine reads the text behind its opening quote one character at a time.  A backslash starts an
escape; `\u` and four hexadecimal digits stand for a code unit, and a character beyond the
sixteen-bit range is written as a pair of surrogate units.  A surrogate outside such a pair and a
control character are malformed.  A unit with a wrong digit is malformed too, yet this shows only
once its four bytes are there: a text that ends before them has ended.
-/

namespace LetterPacks.Json

inductive QuotedState where
  | plain
  | escape
  /-- In the digits of a code unit, behind a high surrogate if there is one. -/
  | unit (high : Option Nat) (count value : Nat)
  | broken (bytes : Nat)
  /-- Behind a high surrogate: the escape of a low one follows. -/
  | pair (high : Nat)
  | pairEscape (high : Nat)
deriving DecidableEq, Repr

inductive QuotedStep where
  | next (state : QuotedState)
  /-- A character is complete and the text goes on behind it. -/
  | emit (character : Char)
  | close
  | refuse
deriving DecidableEq, Repr

def escaped? (letter : Char) : Option Char :=
  if letter = '"' ∨ letter = '\\' ∨ letter = '/' then some letter
  else if letter = 'b' then some '\x08'
  else if letter = 'f' then some '\x0c'
  else if letter = 'n' then some '\n'
  else if letter = 'r' then some '\r'
  else if letter = 't' then some '\t'
  else none

def isHighSurrogate (value : Nat) : Bool :=
  0xD800 ≤ value && value ≤ 0xDBFF

def isLowSurrogate (value : Nat) : Bool :=
  0xDC00 ≤ value && value ≤ 0xDFFF

def pairedCharacter (high low : Nat) : Char :=
  Char.ofNat (0x10000 + (high - 0xD800) * 0x400 + (low - 0xDC00))

def unitStep (high : Option Nat) (value : Nat) : QuotedStep :=
  match high with
  | some first => if isLowSurrogate value then .emit (pairedCharacter first value) else .refuse
  | none =>
      if isHighSurrogate value then .next (.pair value)
      else if isLowSurrogate value then .refuse
      else .emit (Char.ofNat value)

/-- What a character that is no hexadecimal digit does: the four bytes of the unit are waited for.
-/
def brokenStep (bytes : Nat) (character : Char) : QuotedStep :=
  let seen := bytes + character.utf8Size
  if 4 ≤ seen then .refuse else .next (.broken seen)

def QuotedState.step : QuotedState → Char → QuotedStep
  | .plain, character =>
      if character = '"' then .close
      else if character = '\\' then .next .escape
      else if character.toNat < 0x20 then .refuse
      else .emit character
  | .escape, character =>
      if character = 'u' then .next (.unit none 0 0)
      else
        match escaped? character with
        | some meant => .emit meant
        | none => .refuse
  | .unit high count value, character =>
      match Number.hexValue? character with
      | some digit =>
          if count < 3 then .next (.unit high (count + 1) (value * 16 + digit))
          else unitStep high (value * 16 + digit)
      | none => brokenStep count character
  | .broken bytes, character => brokenStep bytes character
  | .pair high, character => if character = '\\' then .next (.pairEscape high) else .refuse
  | .pairEscape high, character =>
      if character = 'u' then .next (.unit (some high) 0 0) else .refuse

/-- Reads on from a state.  The characters read so far are kept in reverse. -/
def readQuotedFrom (state : QuotedState) (before : List Char) :
    List Char → Except Fault (String × List Char)
  | [] => .error .ended
  | character :: rest =>
      match state.step character with
      | .next state => readQuotedFrom state before rest
      | .emit meant => readQuotedFrom .plain (meant :: before) rest
      | .close => .ok (String.ofList before.reverse, rest)
      | .refuse => .error .malformed

def readQuoted (source : List Char) : Except Fault (String × List Char) :=
  readQuotedFrom .plain [] source

end LetterPacks.Json
