import LetterPacks.Proofs.Json.Written

/-!
# Places in a written text

A value is written in one of two forms.  Both enclose the parts of a list or a record in the same
way and differ in the white space between them, so the text around a record that lies deep inside a
value can be told: it is a function of the text of that record (`Place`).
-/

namespace LetterPacks.Json

/-- The two forms in which a value is written: without white space, or on lines of their own for
its parts. -/
inductive Form where
  | compact
  | pretty

namespace Form

/-- The characters of a value that lies a number of levels in. -/
def chars : Form → Nat → Json → List Char
  | .compact, _, value => value.compactChars
  | .pretty, level, value => value.prettyChars level

def text (form : Form) (value : Json) : String :=
  String.ofList (form.chars 0 value)

def indent : Form → Nat → List Char
  | .compact, _ => []
  | .pretty, level => lineStart level

def gap : Form → List Char
  | .compact => []
  | .pretty => [' ']

def member (form : Form) (name : String) (value : List Char) : List Char :=
  (writtenEntry form.gap name value).chars

def members (form : Form) (level : Nat) (members : List (String × Json)) : List (List Char) :=
  members.map fun member => form.member member.1 (form.chars (level + 1) member.2)

def items (form : Form) (level : Nat) (items : List Json) : List (List Char) :=
  items.map (form.chars (level + 1))

def enclose (form : Form) (bracket : Bracket) (level : Nat) : List (List Char) → List Char
  | [] => bracket.enclose []
  | part :: parts =>
      bracket.enclose (form.indent (level + 1) ++ (part ++
        (parts.flatMap (fun part => ',' :: (form.indent (level + 1) ++ part)) ++
          form.indent level)))

private theorem isSpaces_indent (form : Form) (level : Nat) : IsSpaces (form.indent level) := by
  cases form with
  | compact => exact isSpaces_nil
  | pretty => exact isSpaces_lineStart level

theorem isSpaces_gap (form : Form) : IsSpaces form.gap := by
  cases form with
  | compact => exact isSpaces_nil
  | pretty => exact isSpaces_blank

theorem writes_chars (form : Form) : Writes form.chars := by
  cases form with
  | compact => exact writes_compactChars
  | pretty => exact writes_prettyChars

theorem encloses_enclose
    (form : Form) (bracket : Bracket) (level : Nat) (parts : List (List Char)) :
    bracket.Encloses parts (form.enclose bracket level parts) := by
  cases parts with
  | nil =>
      exact bracket.encloses_nil
  | cons part parts =>
      refine ⟨_, .parts (form.isSpaces_indent _) ?_, rfl⟩
      induction parts with
      | nil =>
          exact .done (form.isSpaces_indent level)
      | cons next parts ih =>
          have continued : Continued (next :: parts)
              (',' :: (form.indent (level + 1) ++ (next ++ _))) :=
            .more isSpaces_nil (form.isSpaces_indent (level + 1)) ih
          simpa using continued

private theorem enclose_of_more
    {α : Type} {form : Form} {bracket : Bracket} {level : Nat} {chars : α → List Char}
    (all more : List α → List Char)
    (moreNil : more [] = form.indent level ++ [bracket.closing])
    (moreCons : ∀ part parts,
      more (part :: parts) = ',' :: (form.indent (level + 1) ++ (chars part ++ more parts)))
    (allNil : all [] = [bracket.opening, bracket.closing])
    (allCons : ∀ part parts, all (part :: parts) =
      bracket.opening :: (form.indent (level + 1) ++ (chars part ++ more parts)))
    (parts : List α) : all parts = form.enclose bracket level (parts.map chars) := by
  have behind : ∀ parts, more parts =
      (parts.map chars).flatMap (fun part => ',' :: (form.indent (level + 1) ++ part)) ++
        (form.indent level ++ [bracket.closing]) := by
    intro parts
    induction parts with
    | nil => exact moreNil
    | cons part parts ih => simp [moreCons, ih]
  cases parts with
  | nil => exact allNil
  | cons part parts => simp [allCons, behind, enclose, Bracket.enclose]

theorem chars_list (form : Form) (level : Nat) (items : List Json) :
    form.chars level (.list items) = form.enclose .list level (form.items level items) := by
  cases form with
  | compact =>
      refine enclose_of_more (fun items => compactChars (.list items)) compactMoreItems
        ?_ (fun _ _ => ?_) ?_ (fun _ _ => ?_) items <;>
        simp [compactChars, compactItems, compactMoreItems, indent, chars, Bracket.opening,
          Bracket.closing]
  | pretty =>
      refine enclose_of_more (fun items => prettyChars level (.list items)) (prettyMoreItems level)
        ?_ (fun _ _ => ?_) ?_ (fun _ _ => ?_) items <;>
        simp [prettyChars, prettyMoreItems, indent, chars, Bracket.opening, Bracket.closing]

theorem chars_record (form : Form) (level : Nat) (members : List (String × Json)) :
    form.chars level (.record members) =
      form.enclose .record level (form.members level members) := by
  cases form with
  | compact =>
      refine enclose_of_more (fun members => compactChars (.record members)) compactMoreMembers
        ?_ (fun _ _ => ?_) ?_ (fun _ _ => ?_) members <;>
        simp [compactChars, compactMembers, compactMoreMembers, indent, gap, chars, member,
          quotedChars, writtenEntry, Entry.chars, Bracket.opening, Bracket.closing]
  | pretty =>
      refine enclose_of_more (fun members => prettyChars level (.record members))
        (prettyMoreMembers level) ?_ (fun _ _ => ?_) ?_ (fun _ _ => ?_) members <;>
        simp [prettyChars, prettyMoreMembers, indent, gap, chars, member,
          quotedChars, writtenEntry, Entry.chars, Bracket.opening, Bracket.closing]

end Form

/-- The names of the members that must be there, in their fixed order. -/
def Fields.requiredNames {β : Type} : Fields β → List String
  | .nil => []
  | .cons name none _ rest => name :: rest.requiredNames
  | .cons _ (some _) _ rest => rest.requiredNames

theorem Fields.names_toMembers {β : Type} :
    (fields : Fields β) → (values : β) → (fields.toMembers values).map Prod.fst = fields.names
  | .nil, _ => rfl
  | .cons _ _ _ rest, values => by
      rw [Fields.toMembers, List.map_cons, rest.names_toMembers, Fields.names]

/-- A member of a record, with the written members before it and behind it. -/
inductive Fields.Splits {α : Type} (name : String) (shape : Shape α) (value : α) :
    {β : Type} → Fields β → β → List (String × Json) → List (String × Json) → Prop
  | here {β : Type} {absent : Option α} {rest : Fields β} {others : β} :
      Splits name shape value (.cons name absent shape rest) (value, others) []
        (rest.toMembers others)
  | later {β γ : Type} {other : String} {absent : Option γ} {first : Shape γ} {rest : Fields β}
      {written : γ} {others : β} {front back : List (String × Json)} :
      Splits name shape value rest others front back →
      Splits name shape value (.cons other absent first rest) (written, others)
        ((other, first.toJson written) :: front) back

theorem Fields.Splits.toMembers_eq
    {α β : Type} {name : String} {shape : Shape α} {value : α} {fields : Fields β} {values : β}
    {front back : List (String × Json)}
    (splits : Splits name shape value fields values front back) :
    fields.toMembers values = front ++ (name, shape.toJson value) :: back := by
  induction splits with
  | here => rfl
  | later _ ih => rw [Fields.toMembers, ih, List.cons_append]

/-- A record of some fields and values lies in the written text of a value, a depth of levels in.
The text around it is told as a function of its own text. -/
inductive Place (form : Form) {β : Type} (fields : Fields β) (values : β) (depth : Nat) :
    {α : Type} → Shape α → α → Nat → (List Char → List Char) → Prop
  | here {α : Type} {owner : String} {pack : β → α} {unpack : α → β}
      {pack_unpack : ∀ value, pack (unpack value) = value} {value : α} :
      unpack value = values →
      Place form fields values depth (.record owner fields pack unpack pack_unpack) value depth id
  | optional {α : Type} {shape : Shape α} {value : α} {level : Nat}
      {around : List Char → List Char} :
      Place form fields values depth shape value level around →
      Place form fields values depth (.optional shape) (some value) level around
  | item {α : Type} {item : Shape α} {before after : List α} {value : α} {level : Nat}
      {around : List Char → List Char} :
      Place form fields values depth item value (level + 1) around →
      Place form fields values depth (.list item) (before ++ value :: after) level
        fun text => form.enclose .list level
          (form.items level (before.map item.toJson) ++
            around text :: form.items level (after.map item.toJson))
  | member {α γ δ : Type} {owner : String} {others : Fields γ} {pack : γ → δ} {unpack : δ → γ}
      {pack_unpack : ∀ value, pack (unpack value) = value} {whole : δ} {name : String}
      {shape : Shape α} {value : α} {front back : List (String × Json)} {level : Nat}
      {around : List Char → List Char} :
      Fields.Splits name shape value others (unpack whole) front back →
      Place form fields values depth shape value (level + 1) around →
      Place form fields values depth (.record owner others pack unpack pack_unpack) whole level
        fun text => form.enclose .record level
          (form.members level front ++
            form.member name (around text) :: form.members level back)

namespace Place

variable {α β : Type} {form : Form} {fields : Fields β} {values : β} {depth level : Nat}
  {shape : Shape α} {value : α} {around : List Char → List Char}

theorem around_chars (place : Place form fields values depth shape value level around) :
    around (form.chars depth (.record (fields.toMembers values))) =
      form.chars level (shape.toJson value) := by
  induction place with
  | here same =>
      rw [← same]
      rfl
  | optional _ ih =>
      exact ih
  | item _ ih =>
      dsimp only
      rw [ih, Shape.toJson, Form.chars_list]
      simp [Form.items]
  | member splits _ ih =>
      dsimp only
      rw [ih, Shape.toJson, Form.chars_record, splits.toMembers_eq]
      simp [Form.members]

end Place

/-- A value lies in another one, however deep. -/
inductive Within (part : Json) : Json → Prop
  | here : Within part part
  | item {items : List Json} {item : Json} :
      item ∈ items → Within part item → Within part (.list items)
  | member {members : List (String × Json)} {member : String × Json} :
      member ∈ members → Within part member.2 → Within part (.record members)

/-- A record of some members has a place in the written text of a value. -/
def Shape.Holds {α : Type}
    (form : Form) (members : List (String × Json)) (shape : Shape α) (value : α) (level : Nat) :
    Prop :=
  ∃ (β : Type) (fields : Fields β) (values : β) (depth : Nat) (around : List Char → List Char),
    Place form fields values depth shape value level around ∧ fields.toMembers values = members

mutual

theorem Shape.holds_of_within {α : Type} {form : Form} {members : List (String × Json)} :
    (shape : Shape α) → (value : α) → (level : Nat) →
      Within (.record members) (shape.toJson value) → shape.Holds form members value level
  | .natural, _, _, within => by cases within
  | .text, _, _, within => by cases within
  | .flag, _, _, within => by cases within
  | .date, _, _, within => by cases within
  | .choice _, _, _, within => by cases within
  | .optional _, none, _, within => by cases within
  | .optional shape, some value, level, within => by
      obtain ⟨_, _, _, _, _, place, same⟩ := shape.holds_of_within value level within
      exact ⟨_, _, _, _, _, .optional place, same⟩
  | .list item, items, level, within => by
      rw [Shape.toJson] at within
      cases within with
      | item listed inside =>
          obtain ⟨value, own, rfl⟩ := List.mem_map.1 listed
          obtain ⟨before, after, rfl⟩ := List.append_of_mem own
          obtain ⟨_, _, _, _, _, place, same⟩ := item.holds_of_within value (level + 1) inside
          exact ⟨_, _, _, _, _, .item place, same⟩
  | .record _ fields _ unpack _, whole, level, within => by
      rw [Shape.toJson] at within
      cases within with
      | here =>
          exact ⟨_, fields, unpack whole, level, _, .here rfl, rfl⟩
      | member listed inside =>
          obtain ⟨_, _, _, _, _, _, splits, held⟩ :=
            fields.exists_holds (unpack whole) (level + 1) listed inside
          obtain ⟨_, _, _, _, _, place, same⟩ := held
          exact ⟨_, _, _, _, _, .member splits place, same⟩

theorem Fields.exists_holds {β : Type} {form : Form} {members : List (String × Json)} :
    (fields : Fields β) → (values : β) → (level : Nat) → {member : String × Json} →
      member ∈ fields.toMembers values → Within (.record members) member.2 →
        ∃ (α : Type) (name : String) (shape : Shape α) (value : α)
          (front back : List (String × Json)),
          Fields.Splits name shape value fields values front back ∧
            shape.Holds form members value level
  | .nil, _, _, _, listed, _ => by cases listed
  | .cons name _ shape rest, values, level, _, listed, inside => by
      rcases List.mem_cons.1 listed with rfl | listed
      · exact ⟨_, name, shape, values.1, _, _, .here, shape.holds_of_within values.1 level inside⟩
      · obtain ⟨_, _, _, _, _, _, splits, held⟩ :=
          rest.exists_holds values.2 level listed inside
        exact ⟨_, _, _, _, _, _, .later splits, held⟩

end

end LetterPacks.Json
