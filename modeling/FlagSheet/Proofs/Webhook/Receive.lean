import FlagSheet.Webhook

namespace FlagSheet.Webhook

variable {secret : String} {body : Bytes} {signature : Option String}

theorem allBlank_compute (secret : String) (body : Bytes) : Text.allBlank (Signature.compute secret body) = false := by
  simp [Text.allBlank, Signature.compute, Signature.scheme, Text.isBlank, Text.within, Text.blankBounds]

theorem receive_signed (secret : String) (body : Bytes) :
    receive secret body (some (Signature.compute secret body)) = (IssueEvent.parse body).mapError .invalidPayload := by
  simp [receive, allBlank_compute, authenticate, Signature.accepts]

theorem receive_unsigned (h : signature ≠ some (Signature.compute secret body)) :
    receive secret body signature = .error .missingSignature ∨
      receive secret body signature = .error .invalidSignature := by
  cases signature with
  | none => exact .inl rfl
  | some signature =>
      have hne : signature ≠ Signature.compute secret body := fun heq => h (congrArg some heq)
      cases hblank : Text.allBlank signature with
      | true => exact .inl (by simp [receive, hblank])
      | false => exact .inr (by simp [receive, hblank, authenticate, Signature.accepts, hne])

end FlagSheet.Webhook
