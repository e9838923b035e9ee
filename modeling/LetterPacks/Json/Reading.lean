import LetterPacks.Json.Numeral
import LetterPacks.Json.Shape
import LetterPacks.Json.Skipped

/-!
# Reading a value by its shape

A text is read from left to right straight into the wanted value, and the first fault on the way
is reported.  So an unsuitable value is reported before anything that is wrong behind it, and a
missing member shows where its record closes.

A record is written as its members in any order or as the list of its values in their fixed order.
Members that nobody wants are passed over; a wanted one may come only once.  A name of a vocabulary
may also be written as the record of that name and `null`.
-/

namespace LetterPacks.Json

def dropSpace (source : List Char) : List Char :=
  source.dropWhile isSpace

def readWord : List Char → List Char → Except Fault (List Char)
  | [], source => .ok source
  | _ :: _, [] => .error .ended
  | letter :: letters, character :: rest =>
      if character = letter then readWord letters rest else .error .malformed

def startsNumeral (character : Char) : Bool :=
  character = '-' || character.isDigit

def readSigned : List Char → Except Fault (Numeral × List Char)
  | '-' :: rest => readNumeral true rest
  | source => readNumeral false source

/-- What stands at the front of a text.  Single values are read to their end. -/
def readFound : List Char → Except Fault Found
  | [] => .error .ended
  | first :: rest =>
      if first = '"' then (readQuoted rest).map fun result => .text result.1
      else if first = 'n' then (readWord ['u', 'l', 'l'] rest).map fun _ => .null
      else if first = 't' then (readWord ['r', 'u', 'e'] rest).map fun _ => .boolean true
      else if first = 'f' then (readWord ['a', 'l', 's', 'e'] rest).map fun _ => .boolean false
      else if first = '[' then .ok .list
      else if first = '{' then .ok .record
      else if startsNumeral first then
        (readSigned (first :: rest)).map fun result => result.1.found
      else .error .malformed

def refuse {α : Type} (wanted : Wanted) (source : List Char) : Except Fault α :=
  match readFound source with
  | .ok found => .error (.unsuitable (.wrongKind found wanted))
  | .error fault => .error fault

def readNatural (source : List Char) : Except Fault (UInt64 × List Char) :=
  match dropSpace source with
  | [] => .error .ended
  | first :: rest =>
      if startsNumeral first then
        match readSigned (first :: rest) with
        | .error fault => .error fault
        | .ok (.integer value, rest) =>
            if 0 ≤ value then .ok (UInt64.ofNat value.toNat, rest)
            else .error (.unsuitable (.wrongValue (.integer value) .natural))
        | .ok (.floating value, _) => .error (.unsuitable (.wrongKind (.floating value) .natural))
      else refuse .natural (first :: rest)

def readTextAs (wanted : Wanted) (source : List Char) : Except Fault (String × List Char) :=
  match dropSpace source with
  | '"' :: rest => readQuoted rest
  | other => refuse wanted other

def readFlag (source : List Char) : Except Fault (Bool × List Char) :=
  match dropSpace source with
  | 't' :: rest => (readWord ['r', 'u', 'e'] rest).map fun rest => (true, rest)
  | 'f' :: rest => (readWord ['a', 'l', 's', 'e'] rest).map fun rest => (false, rest)
  | other => refuse .flag other

def readNothing (source : List Char) : Except Fault (List Char) :=
  match dropSpace source with
  | 'n' :: rest => readWord ['u', 'l', 'l'] rest
  | other => refuse .nothing other

def readDate (source : List Char) : Except Fault (Date × List Char) :=
  match readTextAs .date source with
  | .error fault => .error fault
  | .ok (written, rest) =>
      match Date.ofCaseText written with
      | .ok date => .ok (date, rest)
      | .error fault => .error (.unsuitable (.wrongDate fault))

def readColon (source : List Char) : Except Fault (List Char) :=
  match dropSpace source with
  | [] => .error .ended
  | ':' :: rest => .ok rest
  | _ => .error .malformed

/-- Reads a name in front of a colon, which is a text between quotes. -/
def readName (source : List Char) : Except Fault (String × List Char) :=
  match dropSpace source with
  | [] => .error .ended
  | '"' :: rest => readQuoted rest
  | _ => .error .malformed

def readClosing (bracket : Char) (source : List Char) : Except Fault (List Char) :=
  match dropSpace source with
  | [] => .error .ended
  | first :: rest => if first = bracket then .ok rest else .error .malformed

def chosen {α : Type} (vocabulary : Vocabulary α) (name : String) : Except Fault α :=
  match vocabulary.find? name with
  | some value => .ok value
  | none => .error (.unsuitable (.unknownName name vocabulary.names))

/-- Reads a name of a vocabulary.  In a record, too, it has to be a text: anything else in its place
is malformed rather than unsuitable. -/
def readChoice {α : Type} (vocabulary : Vocabulary α) (source : List Char) :
    Except Fault (α × List Char) :=
  match dropSpace source with
  | [] => .error .ended
  | '"' :: rest => do
      let (name, rest) ← readQuoted rest
      let value ← chosen vocabulary name
      .ok (value, rest)
  | '{' :: rest => do
      let (name, rest) ← readName rest
      let value ← chosen vocabulary name
      let rest ← readColon rest
      let rest ← readNothing rest
      let rest ← readClosing '}' rest
      .ok (value, rest)
  | _ => .error .malformed

/-- Where the next item of a list starts; none before the closing bracket. -/
def nextItem (isFirst : Bool) (source : List Char) : Except Fault (Option (List Char)) :=
  match dropSpace source with
  | [] => .error .ended
  | ']' :: _ => .ok none
  | first :: rest =>
      if isFirst then .ok (some (first :: rest))
      else if first = ',' then
        match dropSpace rest with
        | [] => .error .ended
        | ']' :: _ => .error .malformed
        | item => .ok (some item)
      else .error .malformed

/-- Reads the items of a list up to its closing bracket.  The items read so far are kept in
reverse. -/
def readItems {α : Type} (readItem : List Char → Except Fault (α × List Char)) :
    Nat → Bool → List α → List Char → Except Fault (List α × List Char)
  | 0, _, _, _ => .error .ended
  | fuel + 1, isFirst, before, source => do
      match ← nextItem isFirst source with
      | none => .ok (before.reverse, source)
      | some source =>
          let (item, source) ← readItem source
          readItems readItem fuel false (item :: before) source

/-- Reads the name of the next member of a record; none before the closing bracket. -/
def nextName (isFirst : Bool) (source : List Char) : Except Fault (Option (String × List Char)) :=
  match dropSpace source with
  | [] => .error .ended
  | '}' :: _ => .ok none
  | first :: rest =>
      if isFirst then
        if first = '"' then (readQuoted rest).map some else .error .malformed
      else if first = ',' then (readName rest).map some
      else .error .malformed

def readMembers {σ : Type} (readMember : σ → String → List Char → Except Fault (σ × List Char)) :
    Nat → Bool → σ → List Char → Except Fault (σ × List Char)
  | 0, _, _, _ => .error .ended
  | fuel + 1, isFirst, slots, source => do
      match ← nextName isFirst source with
      | none => .ok (slots, source)
      | some (name, source) =>
          let (slots, source) ← readMember slots name source
          readMembers readMember fuel false slots source

def Fields.Slots {β : Type} : Fields β → Type
  | .nil => Unit
  | @Fields.cons α _ _ _ _ rest => Option α × rest.Slots

def Fields.empty {β : Type} : (fields : Fields β) → fields.Slots
  | .nil => ()
  | .cons _ _ _ rest => (none, rest.empty)

/-- The members of a closed record: the ones that were read and the values of those left out.  The
first member that had to be there and was not is missing. -/
def Fields.close {β : Type} : (fields : Fields β) → fields.Slots → Except Fault β
  | .nil, _ => .ok ()
  | .cons name absent _ rest, slots => do
      let value ← match slots.1, absent with
        | some value, _ => .ok value
        | none, some value => .ok value
        | none, none => .error (.unsuitable (.missingMember name))
      let values ← rest.close slots.2
      .ok (value, values)

mutual

def Shape.read {α : Type} : Shape α → List Char → Except Fault (α × List Char)
  | .natural, source => readNatural source
  | .text, source => readTextAs .text source
  | .flag, source => readFlag source
  | .date, source => readDate source
  | .choice vocabulary, source => readChoice vocabulary source
  | .optional shape, source =>
      match dropSpace source with
      | 'n' :: rest => (readWord ['u', 'l', 'l'] rest).map fun rest => (none, rest)
      | other => (shape.read other).map fun result => (some result.1, result.2)
  | .list item, source =>
      match dropSpace source with
      | '[' :: rest => do
          let (items, rest) ← readItems item.read (rest.length + 1) true [] rest
          let rest ← readClosing ']' rest
          .ok (items, rest)
      | other => refuse .list other
  | .record name fields pack _ _, source =>
      match dropSpace source with
      | '{' :: rest => do
          let (slots, rest) ← readMembers fields.readMember (rest.length + 1) true fields.empty rest
          let values ← fields.close slots
          let rest ← readClosing '}' rest
          .ok (pack values, rest)
      | '[' :: rest => do
          let (values, rest) ← fields.readInOrder name fields.count 0 true rest
          let rest ← readClosing ']' rest
          .ok (pack values, rest)
      | other => refuse (.record name) other

/-- Reads what follows the name of a member and notes its value.  A member that has been read
already may not come again; one that nobody wants is passed over. -/
def Fields.readMember {β : Type} :
    (fields : Fields β) → fields.Slots → String → List Char →
      Except Fault (fields.Slots × List Char)
  | .nil, slots, _, source => do
      let source ← readColon source
      let source ← skipValue source
      .ok (slots, source)
  | .cons known _ shape rest, slots, name, source =>
      if known = name then
        if slots.1.isSome then .error (.unsuitable (.duplicateMember name))
        else do
          let source ← readColon source
          let (value, source) ← shape.read source
          .ok ((some value, slots.2), source)
      else do
        let (others, source) ← rest.readMember slots.2 name source
        .ok ((slots.1, others), source)

/-- Reads the members of a record that is written as the list of their values. -/
def Fields.readInOrder {β : Type} :
    (fields : Fields β) → (owner : String) → (wanted index : Nat) → Bool → List Char →
      Except Fault (β × List Char)
  | .nil, _, _, _, _, source => .ok ((), source)
  | .cons _ absent shape rest, owner, wanted, index, isFirst, source => do
      match ← nextItem isFirst source with
      | some source =>
          let (value, source) ← shape.read source
          let (values, source) ← rest.readInOrder owner wanted (index + 1) false source
          .ok ((value, values), source)
      | none =>
          match absent with
          | some value =>
              let (values, source) ← rest.readInOrder owner wanted (index + 1) isFirst source
              .ok ((value, values), source)
          | none => .error (.unsuitable (.wrongLength index owner wanted))

end

def Shape.readAll {α : Type} (shape : Shape α) (source : List Char) : Except Fault α :=
  match shape.read source with
  | .error fault => .error fault
  | .ok (value, rest) => if (dropSpace rest).isEmpty then .ok value else .error .malformed

end LetterPacks.Json
