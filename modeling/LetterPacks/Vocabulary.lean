/-!
# Closed vocabularies

The letters, packs, templates and case facts are closed lists of values, each with one written name.
A vocabulary lists its values in their fixed order and names them; it is complete and no two values
share a name, so looking a name up is the inverse of naming (`find?_eq_some_iff`).
-/

namespace LetterPacks

structure Vocabulary (α : Type) where
  all : List α
  name : α → String
  complete : ∀ value, value ∈ all
  distinct : (all.map name).Nodup

namespace Vocabulary

def names {α : Type} (vocabulary : Vocabulary α) : List String :=
  vocabulary.all.map vocabulary.name

def find? {α : Type} (vocabulary : Vocabulary α) (text : String) : Option α :=
  vocabulary.all.find? fun value => vocabulary.name value == text

theorem name_injective {α : Type} (vocabulary : Vocabulary α) {left right : α}
    (same : vocabulary.name left = vocabulary.name right) : left = right := by
  have distinct := vocabulary.distinct
  have leftListed := vocabulary.complete left
  have rightListed := vocabulary.complete right
  revert distinct leftListed rightListed
  induction vocabulary.all with
  | nil => intro _ leftListed; cases leftListed
  | cons head tail ih =>
      intro distinct leftListed rightListed
      rw [List.map_cons, List.nodup_cons] at distinct
      have absent : ∀ value ∈ tail, vocabulary.name value ≠ vocabulary.name head :=
        fun value member equal => distinct.1 (equal ▸ List.mem_map_of_mem member)
      rcases List.mem_cons.1 leftListed with rfl | leftTail <;>
        rcases List.mem_cons.1 rightListed with rfl | rightTail
      · rfl
      · exact absurd same.symm (absent _ rightTail)
      · exact absurd same (absent _ leftTail)
      · exact ih distinct.2 leftTail rightTail

theorem find?_eq_some_iff {α : Type} (vocabulary : Vocabulary α) {text : String} {value : α} :
    vocabulary.find? text = some value ↔ vocabulary.name value = text := by
  constructor
  · intro found
    simpa using List.find?_some found
  · intro named
    cases found : vocabulary.find? text with
    | none =>
        have unnamed := List.find?_eq_none.1 found value (vocabulary.complete value)
        simp [named] at unnamed
    | some other =>
        have otherNamed : vocabulary.name other = text := by simpa using List.find?_some found
        rw [vocabulary.name_injective (otherNamed.trans named.symm)]

@[simp]
theorem find?_name {α : Type} (vocabulary : Vocabulary α) (value : α) :
    vocabulary.find? (vocabulary.name value) = some value :=
  vocabulary.find?_eq_some_iff.2 rfl

end Vocabulary

end LetterPacks
