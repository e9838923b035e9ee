import LetterPacks.Number.Digits
import LetterPacks.Pattern.Expression
import LetterPacks.Text.Blank
import LetterPacks.Text.Split

/-!
# Log filters

A log filter is a list of directives between commas; an empty one does not count.  A directive is a
level or a target; or a target, a span between square brackets with fields between braces, or
both, and behind them an equals sign and a level.  A field may have an equals sign and a value,
which is a number or a pattern.

A machine reads a directive without the white space around it.  The places that it finds are bytes
of the directive as it is written, and a directive that would have to be cut within a character
breaks the reading off.
-/

namespace LetterPacks

inductive LogFilterFault where
  | malformed
  | cutCharacter
deriving DecidableEq, Repr

/-- Whether a text is a level: a number up to five, a word in letters of any case, or nothing. -/
def isLogLevel (text : String) : Bool :=
  (Number.boundedNatural? 5 text).isSome ||
    ["", "off", "error", "warn", "info", "debug", "trace"].contains (Text.asciiLower text)

/-- What follows the sign at the front of a number, if it has one. -/
def afterSign : List Char → List Char
  | '+' :: rest => rest
  | '-' :: rest => rest
  | characters => characters

/-- Whether some characters are the exponent of a number, or nothing. -/
def isExponent : List Char → Bool
  | [] => true
  | mark :: power =>
      let digits := afterSign power
      (mark = 'e' || mark = 'E') && !digits.isEmpty && digits.all Char.isDigit

/-- Whether some characters are a number: digits, perhaps with a point and an exponent, or the word
for an infinite or an undefined one.  A sign may stand in front. -/
def isNumberText (characters : List Char) : Bool :=
  let unsigned := afterSign characters
  let whole := Number.leadingDigits unsigned
  let (fraction, rest) := match Number.afterDigits unsigned with
    | '.' :: rest => (Number.leadingDigits rest, Number.afterDigits rest)
    | rest => ([], rest)
  (!(whole ++ fraction).isEmpty && isExponent rest) ||
    ["inf", "infinity", "nan"].contains (Text.asciiLower (String.ofList unsigned))

/-- Whether some characters are a field.  What follows a second equals sign does not count. -/
def isLogField (characters : List Char) : Bool :=
  match Text.splitChars '=' characters with
  | _ :: value :: _ => isNumberText value || Pattern.isPattern value
  | _ => !characters.isEmpty

/-- Where the machine stands in a directive.  What has a start is kept with the byte there. -/
inductive DirectivePlace where
  | start
  | target
  | span (first : Nat)
  | field (first : Nat)
  | fields
  | behindSpan
  | level (first : Nat)
deriving DecidableEq, Repr

/-- Whether a directive without a span may start with a character. -/
def startsTarget (character : Char) : Bool :=
  character = '-' || character = ':' || character = '_' || Text.isAlphanumeric character

def cutDirective (written : List Char) (first last : Nat) : Except LogFilterFault (List Char) :=
  match Text.between? first last written with
  | some inside => .ok inside
  | none => .error .cutCharacter

def DirectivePlace.next (written : List Char) (place : DirectivePlace) (offset : Nat)
    (character : Char) : Except LogFilterFault DirectivePlace :=
  match place with
  | .start =>
      if character = '[' then .ok (.span (offset + 1))
      else if startsTarget character then .ok .target
      else .error .malformed
  | .target =>
      if character = '=' then (cutDirective written 0 offset).map fun _ => .level (offset + 1)
      else if character = '[' then (cutDirective written 0 offset).map fun _ => .span (offset + 1)
      else .ok .target
  | .span first =>
      if character = ']' then (cutDirective written first offset).map fun _ => .behindSpan
      else if character = '\x7b' then
        (cutDirective written first offset).map fun _ => .field (offset + 1)
      else .ok (.span first)
  | .field first =>
      if character = '\x7d' then do
        let field ← cutDirective written first offset
        if isLogField field then .ok .fields else .error .malformed
      else .ok (.field first)
  | .fields => if character = ']' then .ok .behindSpan else .error .malformed
  | .behindSpan => if character = '=' then .ok (.level (offset + 1)) else .error .malformed
  | .level first => .ok (.level first)

def readDirective (written : List Char) (place : DirectivePlace) (offset : Nat) :
    List Char → Except LogFilterFault DirectivePlace
  | [] => .ok place
  | character :: rest => do
      let place ← place.next written offset character
      readDirective written place (offset + character.utf8Size) rest

def checkDirective (text : String) : Except LogFilterFault Unit := do
  let written := text.toList
  match ← readDirective written .start 0 (Text.trimChars written) with
  | .target | .behindSpan => .ok ()
  | .level first =>
      let level ← cutDirective written first (Text.byteCount written)
      if isLogLevel (String.ofList level) then .ok () else .error .malformed
  | _ => .error .malformed

/-- Checks a log filter.  The first directive with a fault decides. -/
def checkLogFilter (text : String) : Except LogFilterFault Unit :=
  (Text.split ',' text).forM fun directive =>
    if directive = "" then .ok () else checkDirective directive

end LetterPacks
