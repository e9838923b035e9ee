import LetterPacks.Web.Server

/-!
# Serving decoded requests

Once the segment and the body of a request are decoded, it is answered by `serve`: the letter that
the segment names is resolved or printed.
-/

namespace LetterPacks

namespace Letter

theorem ofText_of_named {text : String} {letter : Letter} (named : letter.name = Text.trim text) :
    Letter.ofText text = .ok letter := by
  have found : vocabulary.find? (Text.trim text) = some letter :=
    vocabulary.find?_eq_some_iff.2 named
  rw [Letter.ofText, Letter.ofText?, found]

theorem ofText_of_unnamed
    {text : String} (unnamed : ∀ letter : Letter, letter.name ≠ Text.trim text) :
    Letter.ofText text = .error (.unknownLetter (Text.trim text)) := by
  cases found : vocabulary.find? (Text.trim text) with
  | none =>
      rw [Letter.ofText, Letter.ofText?, found]
  | some letter =>
      exact absurd (vocabulary.find?_eq_some_iff.1 found) (unnamed letter)

theorem eq_of_named
    {text : String} {letter other : Letter} (named : letter.name = Text.trim text)
    (otherNamed : other.name = Text.trim text) : other = letter :=
  vocabulary.name_injective (otherNamed.trans named.symm)

end Letter

theorem DispatchFault.failing (fault : DispatchFault) : 400 ≤ fault.status := by
  rcases fault with ⟨_ | _ | _⟩ | ⟨_ | _ | _⟩ | _ | _ | _ <;> simp [DispatchFault.status]

namespace Web.Server

variable {σ τ : Type}

def serve (server : Server σ τ) (prints : Bool) (text : String) (request : PackRequest) (state : σ)
    (queue : τ) : Answer σ τ :=
  if prints then server.print text request state queue
  else server.resolve text request state queue

@[simp]
theorem serve_false
    (server : Server σ τ) (text : String) (request : PackRequest) (state : σ) (queue : τ) :
    server.serve false text request state queue = server.resolve text request state queue :=
  if_neg Bool.false_ne_true

@[simp]
theorem serve_true
    (server : Server σ τ) (text : String) (request : PackRequest) (state : σ) (queue : τ) :
    server.serve true text request state queue = server.print text request state queue :=
  if_pos rfl

theorem dispatch_of_decoded
    {segment text : String} {request : Request} {packRequest : PackRequest}
    (segmentDecoded : decodeSegment? segment = some text)
    (bodyDecoded : PackRequest.ofBody request = .ok packRequest) (server : Server σ τ)
    (prints : Bool) (state : σ) (queue : τ) :
    server.dispatch segment prints request state queue =
      server.serve prints text packRequest state queue := by
  rw [dispatch, segmentDecoded, serve]
  simp only [bodyDecoded]

end Web.Server

end LetterPacks
