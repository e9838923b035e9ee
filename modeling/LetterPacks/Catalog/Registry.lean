import LetterPacks.Selection.Answers
import LetterPacks.Selection.ConditionalOrder
import LetterPacks.Selection.FinalOrder
import LetterPacks.Selection.Notice

/-!
# The catalog

A catalog holds one selection rule for each registered letter, in the fixed order of the
letters.  A second rule for a letter is refused and leaves the catalog as it was.  The standard
catalog has a rule for every letter; it is built only when every pack has a sound descriptor.
-/

namespace LetterPacks

/-- What is wrong with a catalog or with a question to it. -/
inductive CatalogFault where
  | unknownLetter (text : String)
  | duplicateLetter (letter : Letter)
  | invalidPack (fault : DescriptorFault)
deriving DecidableEq, Repr

def CatalogFault.message : CatalogFault → String
  | .unknownLetter text => "no document pack is registered for letter id '" ++ text ++ "'"
  | .duplicateLetter letter => "letter id " ++ letter.name ++ " is registered more than once"
  | .invalidPack fault => fault.message

/-- The letter that a text names; white space around the name does not count. -/
def Letter.ofText (text : String) : Except CatalogFault Letter :=
  match Letter.ofText? text with
  | some letter => .ok letter
  | none => .error (.unknownLetter (Text.trim text))

/-- The registered selection rules, in the fixed order of their letters. -/
structure Catalog where
  rules : List SelectionRule

namespace Catalog

def empty : Catalog :=
  ⟨[]⟩

def letters (catalog : Catalog) : List Letter :=
  catalog.rules.map SelectionRule.letter

def rule? (catalog : Catalog) (letter : Letter) : Option SelectionRule :=
  catalog.rules.find? fun rule => rule.letter == letter

/-- A rule put among others in front of the first one whose letter comes later. -/
def insertRule (rule : SelectionRule) : List SelectionRule → List SelectionRule
  | [] => [rule]
  | other :: rules =>
      if rule.letter.position < other.letter.position then rule :: other :: rules
      else other :: insertRule rule rules

/-- The catalog with one more rule, unless its letter is registered. -/
def register (catalog : Catalog) (rule : SelectionRule) : Except CatalogFault Catalog :=
  match catalog.rule? rule.letter with
  | some _ => .error (.duplicateLetter rule.letter)
  | none => .ok ⟨insertRule rule catalog.rules⟩

def registerAll (catalog : Catalog) : List SelectionRule → Except CatalogFault Catalog
  | [] => .ok catalog
  | rule :: rules => do
      let extended ← catalog.register rule
      extended.registerAll rules

def lookup (catalog : Catalog) (letter : Letter) : Except CatalogFault SelectionRule :=
  match catalog.rule? letter with
  | some rule => .ok rule
  | none => .error (.unknownLetter letter.name)

def lookupText (catalog : Catalog) (text : String) : Except CatalogFault SelectionRule := do
  catalog.lookup (← Letter.ofText text)

def summary (catalog : Catalog) : String :=
  "PackCatalog \x7b letter_ids: [" ++
    String.intercalate ", " (catalog.letters.map Letter.title) ++ "] \x7d"

end Catalog

def standardRules : List SelectionRule := [
  noticeRule, overdueRule, responseRule, .undefined .aosResponse,
  .undefined .regenerateCourtOrders, entitlementRule, grantedRule, refusedRule, pronouncedRule,
  finalOrderRule, switchedConditionalOrderRule, switchedFinalOrderRule, informationRule,
  applicationRule, reminderRule]

def checkPacks : List PackKey → Except CatalogFault Unit
  | [] => .ok ()
  | key :: keys =>
      match key.descriptor.fault? with
      | some fault => .error (.invalidPack fault)
      | none => checkPacks keys

def Catalog.standard : Except CatalogFault Catalog := do
  checkPacks PackKey.all
  Catalog.empty.registerAll standardRules

end LetterPacks
