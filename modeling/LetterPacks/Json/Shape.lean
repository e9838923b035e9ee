import LetterPacks.Json.Value
import LetterPacks.Calendar.Date
import LetterPacks.Vocabulary

/-!
# Shapes

A shape says how the values of a type are written as JSON.  The shapes of the members of a record
make up its fields; a field may name the value that it has when it is left out.

A record is packed from the tuple of its members and unpacked into it, and packing undoes
unpacking, so that what was written can be read again.
-/

namespace LetterPacks.Json

mutual

inductive Shape : Type → Type 1 where
  | natural : Shape UInt64
  | text : Shape String
  | flag : Shape Bool
  | date : Shape Date
  | choice {α : Type} (vocabulary : Vocabulary α) : Shape α
  | optional {α : Type} (shape : Shape α) : Shape (Option α)
  | list {α : Type} (item : Shape α) : Shape (List α)
  | record {α β : Type} (name : String) (fields : Fields β) (pack : β → α) (unpack : α → β)
      (pack_unpack : ∀ value, pack (unpack value) = value) : Shape α

/-- The members of a record in their fixed order. -/
inductive Fields : Type → Type 1 where
  | nil : Fields Unit
  /-- A member, the value it has when it is left out, and the members behind it. -/
  | cons {α β : Type} (name : String) (absent : Option α) (shape : Shape α) (rest : Fields β) :
      Fields (α × β)

end

abbrev Fields.required {α β : Type} (name : String) (shape : Shape α) (rest : Fields β) :
    Fields (α × β) :=
  .cons name none shape rest

abbrev Fields.defaulted {α β : Type} (name : String) (absent : α) (shape : Shape α)
    (rest : Fields β) : Fields (α × β) :=
  .cons name (some absent) shape rest

def Fields.names {β : Type} : Fields β → List String
  | .nil => []
  | .cons name _ _ rest => name :: rest.names

def Fields.count {β : Type} (fields : Fields β) : Nat :=
  fields.names.length

mutual

def Shape.toJson {α : Type} : Shape α → α → Json
  | .natural, value => .natural value.toNat
  | .text, value => .text value
  | .flag, value => .boolean value
  | .date, value => .text value.toText
  | .choice vocabulary, value => .text (vocabulary.name value)
  | .optional shape, value => .ofOption shape.toJson value
  | .list item, values => .list (values.map item.toJson)
  | .record _ fields _ unpack _, value => .record (fields.toMembers (unpack value))

/-- The members of a record as JSON, every one of them and in their fixed order. -/
def Fields.toMembers {β : Type} : Fields β → β → List (String × Json)
  | .nil, _ => []
  | .cons name _ shape rest, values =>
      (name, shape.toJson values.1) :: rest.toMembers values.2

end

end LetterPacks.Json
