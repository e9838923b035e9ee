/-!
# Media types

A media type is a type, a slash and a subtype, with parameters behind semicolons.  The part of a
subtype behind its last plus sign is its suffix.  A parameter has a name and a value, which may
stand between quotes.  A body is JSON when its type is `application` and its subtype or suffix is
`json`; the case of letters does not count.
-/

namespace LetterPacks.Web

/-- The characters of which types, subtypes, names and plain values are made. -/
def isToken (character : Char) : Bool :=
  character.isAlphanum || "!#$%&'*+-.^_`|~".toList.contains character

def isHeaderChar (character : Char) : Bool :=
  character = '\t' || (0x20 ≤ character.toNat && character.toNat < 0x7F)

inductive ParameterState where
  | name (started : Bool)
  | value (started : Bool)
  | quoted (started : Bool)
  | behind
deriving DecidableEq, Repr

/-- The state behind one more character; none when it cannot stand here. -/
def ParameterState.next? (state : ParameterState) (character : Char) : Option ParameterState :=
  match state with
  | .name started =>
      if character = ' ' && !started then some (.name false)
      else if isToken character then some (.name true)
      else if character = '=' && started then some (.value false)
      else none
  | .value started =>
      if character = '"' && !started then some (.quoted false)
      else if isToken character then some (.value true)
      else if character = ';' && started then some (.name false)
      else none
  | .quoted started =>
      if character = '"' && started then some .behind
      else if 0x1F < character.toNat && character.toNat ≠ 0x7F then some (.quoted true)
      else none
  | .behind =>
      if character = ';' then some (.name false)
      else if character = ' ' then some .behind
      else none

def ParameterState.complete : ParameterState → Bool
  | .name started => !started
  | .value _ | .behind => true
  | .quoted _ => false

def areParameters (state : ParameterState) : List Char → Bool
  | [] => state.complete
  | character :: rest =>
      match state.next? character with
      | some state => areParameters state rest
      | none => false

/-- A type and a subtype with its suffix, as they are written. -/
structure MediaType where
  type : List Char
  subtype : List Char
  suffix : Option (List Char)
deriving DecidableEq, Repr

/-- The subtype in front of its last plus sign and the suffix behind it.  A plus sign at the very
start belongs to the subtype. -/
def splitSuffix (subtype : List Char) : List Char × Option (List Char) :=
  let suffix := (subtype.reverse.takeWhile fun character => character != '+').reverse
  let front := (subtype.take (subtype.length - suffix.length)).dropLast
  if front.isEmpty then (subtype, none) else (front, some suffix)

def MediaType.ofText? (text : String) : Option MediaType :=
  let (type, behindType) := text.toList.span isToken
  match behindType with
  | '/' :: rest =>
      let (subtype, behindSubtype) := rest.span isToken
      let whole : MediaType :=
        let (front, suffix) := splitSuffix subtype
        ⟨type, front, suffix⟩
      if type.isEmpty then none
      else
        match behindSubtype with
        | [] => some whole
        | ';' :: parameters =>
            if !subtype.isEmpty && areParameters (.name false) parameters then some whole else none
        | _ => none
  | _ => none

/-- Whether a word is a given one written in small letters, whatever the case of its own letters. -/
def sameWord (word : List Char) (small : String) : Bool :=
  word.map Char.toLower == small.toList

def MediaType.isJson (mediaType : MediaType) : Bool :=
  sameWord mediaType.type "application" &&
    (sameWord mediaType.subtype "json" ||
      match mediaType.suffix with
      | some suffix => sameWord suffix "json"
      | none => false)

def namesJson : Option String → Bool
  | none => false
  | some text =>
      text.toList.all isHeaderChar &&
        match MediaType.ofText? text with
        | some mediaType => mediaType.isJson
        | none => false

end LetterPacks.Web
