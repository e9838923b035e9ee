import LetterPacks.Json.Quoted

/-!
# Passing over a value

A member that nobody wants is passed over: its value must be JSON, but nothing of it is kept.  A
machine with a stack of open brackets does so in one pass, however deeply the value is
nested.  Numbers may be of any size and a lone surrogate may be escaped here.

A text that ends within the value has ended, except that a number cut off where it cannot stop is
malformed.
-/

namespace LetterPacks.Json

def isSpace (character : Char) : Bool :=
  character = ' ' || character = '\n' || character = '\t' || character = '\r'

inductive Bracket where
  | list
  | record
deriving DecidableEq, Repr

/-- Where the machine stands within a number. -/
inductive NumberPlace where
  | sign
  | zero
  | whole
  | point
  | fraction
  | mark
  | markSign
  | exponent
deriving DecidableEq, Repr

inductive TextPlace where
  | plain
  | escape
  /-- In the four bytes of a code unit; all are digits so far or one is not. -/
  | unit (bytes : Nat) (digits : Bool)
deriving DecidableEq, Repr

inductive SkipState where
  | value
  | word (left : List Char)
  | number (place : NumberPlace)
  | text (isName : Bool) (place : TextPlace)
  | opened (bracket : Bracket)
  | behind
  | name
  | colon
deriving DecidableEq, Repr

inductive SkipStep where
  | next (state : SkipState) (brackets : List Bracket)
  | last
  | past
  | refuse
deriving DecidableEq, Repr

def NumberPlace.complete : NumberPlace → Bool
  | .zero | .whole | .fraction | .exponent => true
  | _ => false

/-- The place behind one more character of a number; none when the number does not go on with it. -/
def NumberPlace.next? (place : NumberPlace) (character : Char) : Option NumberPlace :=
  let isMark := character = 'e' || character = 'E'
  match place with
  | .sign =>
      if character = '0' then some .zero else if character.isDigit then some .whole else none
  | .zero => if character = '.' then some .point else if isMark then some .mark else none
  | .whole =>
      if character.isDigit then some .whole
      else if character = '.' then some .point
      else if isMark then some .mark
      else none
  | .point => if character.isDigit then some .fraction else none
  | .fraction =>
      if character.isDigit then some .fraction else if isMark then some .mark else none
  | .mark =>
      if character = '+' || character = '-' then some .markSign
      else if character.isDigit then some .exponent
      else none
  | .markSign | .exponent => if character.isDigit then some .exponent else none

/-- What follows a complete value that ends with the character just read. -/
def afterValue : List Bracket → SkipStep
  | [] => .last
  | brackets => .next .behind brackets

def closeBracket (bracket : Bracket) : List Bracket → SkipStep
  | [] => .refuse
  | innermost :: brackets => if innermost = bracket then afterValue brackets else .refuse

def behindStep (brackets : List Bracket) (character : Char) : SkipStep :=
  if isSpace character then .next .behind brackets
  else if character = ',' then
    match brackets with
    | .record :: _ => .next .name brackets
    | _ => .next .value brackets
  else if character = ']' then closeBracket .list brackets
  else if character = '}' then closeBracket .record brackets
  else .refuse

def valueStep (brackets : List Bracket) (character : Char) : SkipStep :=
  if isSpace character then .next .value brackets
  else if character = '"' then .next (.text false .plain) brackets
  else if character = '[' then .next (.opened .list) (.list :: brackets)
  else if character = '{' then .next (.opened .record) (.record :: brackets)
  else if character = '-' then .next (.number .sign) brackets
  else if character = '0' then .next (.number .zero) brackets
  else if character.isDigit then .next (.number .whole) brackets
  else if character = 'n' then .next (.word ['u', 'l', 'l']) brackets
  else if character = 't' then .next (.word ['r', 'u', 'e']) brackets
  else if character = 'f' then .next (.word ['a', 'l', 's', 'e']) brackets
  else .refuse

def nameStep (brackets : List Bracket) (character : Char) : SkipStep :=
  if isSpace character then .next .name brackets
  else if character = '"' then .next (.text true .plain) brackets
  else .refuse

/-- What a character of a number does.  A number that is complete ends before a character that does
not belong to it; a zero at its start has no digit behind it. -/
def numberStep (place : NumberPlace) (brackets : List Bracket) (character : Char) : SkipStep :=
  match place.next? character with
  | some place => .next (.number place) brackets
  | none =>
      if !place.complete || (place = .zero && character.isDigit) then .refuse
      else if brackets.isEmpty then .past
      else behindStep brackets character

def textStep (isName : Bool) (place : TextPlace) (brackets : List Bracket) (character : Char) :
    SkipStep :=
  match place with
  | .plain =>
      if character = '"' then
        if isName then .next .colon brackets else afterValue brackets
      else if character = '\\' then .next (.text isName .escape) brackets
      else if character.toNat < 0x20 then .refuse
      else .next (.text isName .plain) brackets
  | .escape =>
      if character = 'u' then .next (.text isName (.unit 0 true)) brackets
      else if (escaped? character).isSome then .next (.text isName .plain) brackets
      else .refuse
  | .unit bytes digits =>
      let seen := bytes + character.utf8Size
      let valid := digits && (Number.hexValue? character).isSome
      if seen < 4 then .next (.text isName (.unit seen valid)) brackets
      else if valid then .next (.text isName .plain) brackets
      else .refuse

def SkipState.step (state : SkipState) (brackets : List Bracket) (character : Char) : SkipStep :=
  match state with
  | .value => valueStep brackets character
  | .word [] => .refuse
  | .word [letter] => if character = letter then afterValue brackets else .refuse
  | .word (letter :: left) => if character = letter then .next (.word left) brackets else .refuse
  | .number place => numberStep place brackets character
  | .text isName place => textStep isName place brackets character
  | .opened bracket =>
      if isSpace character then .next (.opened bracket) brackets
      else if character = ']' && bracket = .list then closeBracket .list brackets
      else if character = '}' && bracket = .record then closeBracket .record brackets
      else
        match bracket with
        | .list => valueStep brackets character
        | .record => nameStep brackets character
  | .behind => behindStep brackets character
  | .name => nameStep brackets character
  | .colon =>
      if isSpace character then .next .colon brackets
      else if character = ':' then .next .value brackets
      else .refuse

def SkipState.finish (state : SkipState) (brackets : List Bracket) :
    Except Fault (List Char) :=
  match state with
  | .number place =>
      if !place.complete then .error .malformed
      else if brackets.isEmpty then .ok []
      else .error .ended
  | _ => .error .ended

/-- Passes over the rest of a value from a state on and gives what follows it. -/
def skipFrom (state : SkipState) (brackets : List Bracket) :
    List Char → Except Fault (List Char)
  | [] => state.finish brackets
  | character :: rest =>
      match state.step brackets character with
      | .next state brackets => skipFrom state brackets rest
      | .last => .ok rest
      | .past => .ok (character :: rest)
      | .refuse => .error .malformed

/-- Passes over the value at the front of a text and gives what follows it. -/
def skipValue (source : List Char) : Except Fault (List Char) :=
  skipFrom .value [] source

end LetterPacks.Json
