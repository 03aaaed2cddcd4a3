/-!
# Failures

Callers branch on the `Failure` of a refusal and never on its notes. Clients are shown
`Failure.publicMessage`, which tells nothing of the cause of a fault of the server.
-/

namespace Possession

inductive Failure
  /-- A key reference is not an algorithm and a thumbprint. -/
  | malformedReference (message : String)
  /-- A body came without a digest, or the policy asks for one anyway. -/
  | digestMissing
  | digestMismatch
  | malformedSignatureHeader (message : String)
  /-- A covered component has no value on the request. -/
  | unknownCoveredField (field : String)
  /-- A component that policy requires is not covered. -/
  | missingCoveredField (field : String)
  /-- No encoding and no key verifies the signature. -/
  | invalidSignature
  /-- The key is not the one that the reference names. -/
  | thumbprintMismatch
  | expiredToken
  /-- The token names another issuer, or none. -/
  | issuerMismatch
  | malformedToken (message : String)
  | unsupportedAlgorithm (algorithm : String)
  | unsupportedKey (message : String)
  /-- Cryptography failed for a reason that no input explains. -/
  | internalCryptoError (message : String)
  /-- Settings cannot be loaded, or do not fit together. -/
  | configuration (message : String)
  deriving DecidableEq, Repr

namespace Failure

/-- The wording for operators. -/
def description : Failure → String
  | .malformedReference message => "Malformed key reference: " ++ message
  | .digestMissing => "Content-Digest header is missing"
  | .digestMismatch => "Content-Digest does not match the request body"
  | .malformedSignatureHeader message => "Malformed signature header: " ++ message
  | .unknownCoveredField field => "Unknown covered field: " ++ field
  | .missingCoveredField field => "Required field is not covered by the signature: " ++ field
  | .invalidSignature => "Invalid signature"
  | .thumbprintMismatch => "Public key does not match the referenced thumbprint"
  | .expiredToken => "Token expired"
  | .issuerMismatch => "Token issuer mismatch"
  | .malformedToken message => "Malformed token: " ++ message
  | .unsupportedAlgorithm algorithm => "Unsupported algorithm: " ++ algorithm
  | .unsupportedKey message => "Unsupported key: " ++ message
  | .internalCryptoError message => "Internal crypto error: " ++ message
  | .configuration message => "Configuration error: " ++ message

/-- The status code of the response: the request is at fault, the proof is, or the server is. -/
def status : Failure → Nat
  | .malformedReference _ | .digestMissing | .malformedSignatureHeader _
  | .unknownCoveredField _ | .missingCoveredField _ | .unsupportedKey _ => 400
  | .digestMismatch | .invalidSignature | .thumbprintMismatch | .expiredToken
  | .issuerMismatch | .malformedToken _ | .unsupportedAlgorithm _ => 401
  | .internalCryptoError _ | .configuration _ => 500

/-- The wording for clients. -/
def publicMessage (failure : Failure) : String :=
  match failure with
  | .internalCryptoError _ | .configuration _ => "Internal server error"
  | _ => failure.description

/-- Whether another attempt, with another encoding or key, may still succeed. -/
def isInvalidSignature : Failure → Bool
  | .invalidSignature => true
  | _ => false

/-- Faults of the server show clients nothing of their cause. -/
theorem publicMessage_of_status_eq_500 {failure : Failure} (h : failure.status = 500) :
    failure.publicMessage = "Internal server error" := by
  cases failure <;> simp_all [status, publicMessage]

end Failure

/-- A failure with notes for the log. -/
structure Refusal where
  failure : Failure
  /-- Details, oldest first. -/
  notes : List String
  deriving DecidableEq, Repr

namespace Refusal

def of (failure : Failure) : Refusal := ⟨failure, []⟩

def note (refusal : Refusal) (text : String) : Refusal :=
  { refusal with notes := refusal.notes ++ [text] }

@[simp] theorem failure_of (failure : Failure) : (of failure).failure = failure := rfl

@[simp] theorem failure_note (refusal : Refusal) (text : String) :
    (refusal.note text).failure = refusal.failure := rfl

end Refusal

instance decidableEqExcept {ε α : Type} [DecidableEq ε] [DecidableEq α] :
    DecidableEq (Except ε α)
  | .ok value, .ok other => decidable_of_iff (value = other) (by simp)
  | .error cause, .error other => decidable_of_iff (cause = other) (by simp)
  | .ok _, .error _ => .isFalse nofun
  | .error _, .ok _ => .isFalse nofun

/-- The outcome of an operation that may be refused. -/
abbrev Outcome (α : Type) := Except Refusal α

def Outcome.refuse {α : Type} (failure : Failure) : Outcome α := .error (.of failure)

/-! ## One step after the other -/

namespace Outcome

variable {ε ε' α β : Type}

theorem bind_ok (value : α) (next : α → Except ε β) :
    (Except.ok value >>= next) = next value := rfl

theorem bind_eq_ok_iff {first : Except ε α} {next : α → Except ε β} {result : β} :
    (first >>= next) = .ok result ↔ ∃ value, first = .ok value ∧ next value = .ok result := by
  cases first <;> simp [bind, Except.bind]

theorem bind_eq_error_iff {first : Except ε α} {next : α → Except ε β} {cause : ε} :
    (first >>= next) = .error cause ↔
      first = .error cause ∨ ∃ value, first = .ok value ∧ next value = .error cause := by
  cases first <;> simp [bind, Except.bind]

@[simp] theorem mapError_ok (f : ε → ε') (value : α) :
    (Except.ok value).mapError f = .ok value := rfl

@[simp] theorem mapError_error (f : ε → ε') (fault : ε) :
    (Except.error fault : Except ε α).mapError f = .error (f fault) := rfl

theorem mapError_eq_ok_iff {outcome : Except ε α} {f : ε → ε'} {result : α} :
    outcome.mapError f = .ok result ↔ outcome = .ok result := by
  cases outcome with
  | ok value => exact ⟨fun h => congrArg Except.ok (Except.ok.inj h), fun h => by rw [h]; rfl⟩
  | error fault => exact ⟨nofun, nofun⟩

theorem mapError_eq_error_iff {outcome : Except ε α} {f : ε → ε'} {cause : ε'} :
    outcome.mapError f = .error cause ↔ ∃ fault, outcome = .error fault ∧ f fault = cause := by
  cases outcome with
  | ok value => exact ⟨nofun, nofun⟩
  | error fault =>
    constructor
    · intro h
      exact ⟨fault, rfl, Except.error.inj h⟩
    · rintro ⟨_, h, rfl⟩
      cases h
      rfl

theorem map_eq_ok_iff {outcome : Except ε α} {f : α → β} {result : β} :
    outcome.map f = .ok result ↔ ∃ value, outcome = .ok value ∧ f value = result := by
  cases outcome <;> simp [Except.map]

theorem map_eq_error_iff {outcome : Except ε α} {f : α → β} {cause : ε} :
    outcome.map f = .error cause ↔ outcome = .error cause := by
  cases outcome <;> simp [Except.map]

end Outcome

end Possession
