import LetterPacks.Proofs.Json.Grammar
import Mathlib.Data.List.Forall2

/-!
# Spellings of a value

One value may be written in many ways.  White space may stand between any two parts.  A record is
written as its members or as the list of their values.  Its members may come in any order, those
that have the value for an absent one may be left out, and members with other names may stand among
them.  A name of a vocabulary may be written as the record of that name and `null`.

Not every shape can tell its values apart: an optional value within another one can not, nor can a
record with two members of one name.  The shapes without these are `Unambiguous`.
-/

namespace LetterPacks.Json

def Bracket.Encloses (bracket : Bracket) (parts : List (List Char)) (text : List Char) : Prop :=
  ∃ inner, Listed parts inner ∧ text = bracket.enclose inner

theorem Bracket.encloses_nil (bracket : Bracket) : bracket.Encloses [] (bracket.enclose []) :=
  ⟨[], .empty isSpaces_nil, rfl⟩

theorem Bracket.encloses_cons (bracket : Bracket) (part : List Char) (parts : List (List Char)) :
    bracket.Encloses (part :: parts)
      (bracket.enclose (part ++ parts.flatMap fun part => ',' :: part)) :=
  ⟨_, .parts isSpaces_nil (continued_flatMap parts), rfl⟩

def Entry.Names (entry : Entry) (name : String) : Prop :=
  Spells name.toList entry.name ∧ entry.Spaced

/-- A name of a vocabulary: a text, or the record of the name and `null`. -/
def SpellsName (name : String) (text : List Char) : Prop :=
  Quotes name text ∨
    ∃ entry : Entry, entry.Names name ∧ entry.value = ['n', 'u', 'l', 'l'] ∧
      Bracket.record.Encloses [entry.chars] text

structure Member where
  name : String
  value : List Char

def Member.Written (member : Member) (text : List Char) : Prop :=
  ∃ entry : Entry, entry.Names member.name ∧ entry.value = member.value ∧ text = entry.chars

/-- A member that nobody wants: it has a name of its own and any value. -/
def Member.Foreign (names : List String) (member : Member) : Prop :=
  member.name ∉ names ∧ IsValue member.value

/-- A record with some members, in any order and among others. -/
def SpellsRecord (names : List String) (members : List Member) (text : List Char) : Prop :=
  ∃ foreign shuffled : List Member, ∃ texts : List (List Char),
    (∀ member ∈ foreign, member.Foreign names) ∧ shuffled.Perm (members ++ foreign) ∧
      List.Forall₂ Member.Written shuffled texts ∧ Bracket.record.Encloses texts text

mutual

def Shape.Spelled {α : Type} : Shape α → α → List Char → Prop
  | .natural, value, written => written = Number.digits value.toNat
  | .text, value, written => Quotes value written
  | .flag, value, written => written = (if value then "true" else "false").toList
  | .date, value, written => Quotes value.toText written
  | .choice vocabulary, value, written => SpellsName (vocabulary.name value) written
  | .optional _, none, written => written = ['n', 'u', 'l', 'l']
  | .optional shape, some value, written => shape.Spelled value written
  | .list item, values, written =>
      ∃ texts, List.Forall₂ item.Spelled values texts ∧ Bracket.list.Encloses texts written
  | .record _ fields _ unpack _, value, written =>
      (∃ members, fields.Spelled (unpack value) members ∧
          SpellsRecord fields.names members written) ∨
        ∃ texts, fields.SpelledInOrder (unpack value) texts ∧ Bracket.list.Encloses texts written

/-- The members of a record in their fixed order, some of those left out that have the value for an
absent one. -/
def Fields.Spelled {β : Type} : Fields β → β → List Member → Prop
  | .nil, _, members => members = []
  | .cons name absent shape rest, values, members =>
      (absent = some values.1 ∧ rest.Spelled values.2 members) ∨
        ∃ text others, members = ⟨name, text⟩ :: others ∧ shape.Spelled values.1 text ∧
          rest.Spelled values.2 others

def Fields.SpelledInOrder {β : Type} : Fields β → β → List (List Char) → Prop
  | .nil, _, texts => texts = []
  | .cons _ _ shape rest, values, texts =>
      ∃ text others, texts = text :: others ∧ shape.Spelled values.1 text ∧
        rest.SpelledInOrder values.2 others

end

def Shape.isOptional {α : Type} : Shape α → Bool
  | .optional _ => true
  | _ => false

mutual

/-- No optional value lies directly within another one, and no record has two members of one name.
-/
def Shape.Unambiguous {α : Type} : Shape α → Prop
  | .natural | .text | .flag | .date | .choice _ => True
  | .optional shape => shape.isOptional = false ∧ shape.Unambiguous
  | .list item => item.Unambiguous
  | .record _ fields _ _ _ => fields.Unambiguous

def Fields.Unambiguous {β : Type} : Fields β → Prop
  | .nil => True
  | .cons name _ shape rest => name ∉ rest.names ∧ shape.Unambiguous ∧ rest.Unambiguous

end

end LetterPacks.Json
