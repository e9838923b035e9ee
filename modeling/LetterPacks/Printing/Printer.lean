import LetterPacks.Number.Digits
import LetterPacks.Printing.Request

/-!
# Printers

A printer posts letters.  Like a generator it is given as a step from one state to the next.  The
printer that keeps its letters in memory numbers them from one on, in four digits or more.
-/

namespace LetterPacks

inductive PrintFault where
  | rejected (detail : String)
  | unavailable (detail : String)
deriving DecidableEq, Repr

def PrintFault.message : PrintFault → String
  | .rejected detail => "print request rejected: " ++ detail
  | .unavailable detail => "print service unavailable: " ++ detail

/-- What a printer hands out for a posted letter. -/
structure Receipt where
  letterReference : String
  documentCount : Nat
deriving DecidableEq, Repr

/-- Something that posts letters, with its own state. -/
structure Printer (τ : Type) where
  print : τ → PrintRequest → Except PrintFault Receipt × τ

namespace Printer

/-- The reference of a letter: the number of its case and its place in the queue. -/
def reference (caseId : UInt64) (place : Nat) : String :=
  Number.decimal caseId.toNat ++ "-" ++ Number.paddedDecimal 4 place

/-- A printer that keeps its letters in memory, oldest first, and never fails. -/
def inMemory : Printer (List PrintRequest) where
  print letters request :=
    (.ok ⟨reference request.caseId (letters.length + 1), request.documents.length⟩,
      letters ++ [request])

/-- A printer whose first calls fail; how many of them are left is part of its state. -/
def failingFirst {τ : Type} (fault : PrintFault) (printer : Printer τ) : Printer (Nat × τ) where
  print
    | (0, state), request =>
        let (outcome, state) := printer.print state request
        (outcome, 0, state)
    | (left + 1, state), _ => (.error fault, left, state)

end Printer

end LetterPacks
