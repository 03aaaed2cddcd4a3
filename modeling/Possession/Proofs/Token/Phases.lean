import Possession.Proofs.Base64.Canonical
import Possession.Proofs.Ecdsa.Encoding
import Possession.Proofs.Text
import Possession.Token.Validation

/-!
# The phases of an attempt

A key enters an attempt at one place only. `opened` is all that happens before and `Opened.judge`
all that happens after, so two attempts with different keys can only differ in whether the signature
verifies.
-/

namespace Possession.Token

/-! ## Parts -/

/-- A part decodes to a byte string exactly if it is what is written for that byte string. -/
theorem decodePart_eq_ok_iff {part : List Char} {bytes : Bytes} :
    decodePart part = .ok bytes ↔ part = encodePart bytes := by
  rw [decodePart, Outcome.mapError_eq_ok_iff, Base64.decodeText_ofList_eq_ok_iff]
  rfl

@[simp] theorem decodePart_encodePart (bytes : Bytes) : decodePart (encodePart bytes) = .ok bytes :=
  decodePart_eq_ok_iff.mpr rfl

theorem encodePart_inj {bytes other : Bytes} :
    encodePart bytes = encodePart other ↔ bytes = other :=
  Base64.encodeChars_inj

theorem dot_notMem_encodePart (bytes : Bytes) : '.' ∉ encodePart bytes :=
  Base64.notMem_encodeChars (by decide) (by decide) bytes

namespace Parts

variable {parts : Parts}

/-- Parts without dots are told apart again. -/
theorem ofText?_print (hclaims : '.' ∉ parts.claims) (hsignature : '.' ∉ parts.signature) :
    ofText? parts.print.toList = some parts := by
  rw [print, String.toList_ofList, ofText?, Text.cutLast?_append_cons hsignature]
  change Option.bind (Text.cutLast? '.' parts.signedText) _ = _
  rw [signedText, Text.cutLast?_append_cons hclaims]
  rfl

/-- A token is the text of its parts. -/
theorem eq_print_of_ofText? {token : String} (h : ofText? token.toList = some parts) :
    token = parts.print := by
  obtain ⟨⟨signed, signature⟩, hsigned, h⟩ := Option.bind_eq_some_iff.mp h
  obtain ⟨⟨header, claims⟩, hheader, h⟩ := Option.bind_eq_some_iff.mp h
  obtain rfl := Option.some.inj h
  have htoken := Text.append_of_cutLast? hsigned
  rw [Text.append_of_cutLast? hheader] at htoken
  rw [print, signedText, ← htoken, String.ofList_toList]

end Parts

/-! ## Before the key -/

/-- A token that only the signature can still make invalid before its claims are read. -/
structure Opened where
  parts : Parts
  signature : Ecdsa.Signature
  deriving DecidableEq, Repr

/-- The part of decoding that comes before the key is used. -/
def opened (token : String) : Except Fault Opened :=
  match Parts.ofText? token.toList with
  | none => .error .form
  | some parts => do
    checkHeader parts.header
    match Ecdsa.Signature.ofFixed? (← decodePart parts.signature) with
    | none => throw .signature
    | some signature => return ⟨parts, signature⟩

/-- A header is accepted if it is canonical base64url of a header that names the algorithm of P-256
keys. -/
theorem checkHeader_eq_ok_iff {part : List Char} :
    checkHeader part = .ok () ↔ ∃ bytes header, part = encodePart bytes ∧
      Header.parse? bytes = some header ∧ header.algorithm = .es256 := by
  simp only [checkHeader, Outcome.bind_eq_ok_iff, decodePart_eq_ok_iff]
  refine exists_congr fun bytes => ?_
  cases Header.parse? bytes with
  | none => simp [throw, throwThe, MonadExceptOf.throw]
  | some header =>
    by_cases halgorithm : header.algorithm = .es256 <;>
      simp [halgorithm, throw, throwThe, MonadExceptOf.throw, pure, Except.pure]

theorem opened_eq_ok_iff {token : String} {content : Opened} :
    opened token = .ok content ↔
      Parts.ofText? token.toList = some content.parts ∧
        checkHeader content.parts.header = .ok () ∧
        ∃ bytes, content.parts.signature = encodePart bytes ∧
          Ecdsa.Signature.ofFixed? bytes = some content.signature := by
  simp only [← decodePart_eq_ok_iff]
  rw [opened]
  cases hparts : Parts.ofText? token.toList with
  | none => simp
  | some parts =>
    simp only [Outcome.bind_eq_ok_iff, Option.some.injEq]
    constructor
    · rintro ⟨_, hheader, bytes, hbytes, h⟩
      cases hsignature : Ecdsa.Signature.ofFixed? bytes with
      | none =>
        rw [hsignature] at h
        cases h
      | some signature =>
        rw [hsignature] at h
        cases h
        exact ⟨rfl, hheader, bytes, hbytes, hsignature⟩
    · rintro ⟨rfl, hheader, bytes, hbytes, hsignature⟩
      refine ⟨(), hheader, bytes, hbytes, ?_⟩
      rw [hsignature]
      rfl

/-- A canonical token opens if its header names the algorithm of P-256 keys. -/
theorem opened_print {header : Bytes} {decoded : Header}
    (hheader : Header.parse? header = some decoded) (halgorithm : decoded.algorithm = .es256)
    (claims : Bytes) (signature : Ecdsa.Signature) :
    let parts : Parts := ⟨encodePart header, encodePart claims, encodePart signature.toFixed⟩
    opened parts.print = .ok ⟨parts, signature⟩ := by
  intro parts
  have hparts : Parts.ofText? parts.print.toList = some parts :=
    Parts.ofText?_print (dot_notMem_encodePart _) (dot_notMem_encodePart _)
  have hcheck : checkHeader parts.header = .ok () :=
    checkHeader_eq_ok_iff.mpr ⟨header, decoded, rfl, hheader, halgorithm⟩
  exact opened_eq_ok_iff.mpr
    ⟨hparts, hcheck, signature.toFixed, rfl, Ecdsa.Signature.ofFixed?_toFixed signature⟩

namespace Opened

def isSignedBy (content : Opened) (key : Curve.P256.Point) : Bool :=
  Ecdsa.verify key content.parts.message content.signature

/-! ## After the key -/

/-- The part of an attempt that comes after the signature has verified. -/
def judge (content : Opened) (issuer : String) (now : Instant) : Outcome Claims :=
  (readClaims content.parts.claims).mapError Fault.refusal >>= checkClaims issuer now

end Opened

theorem checkClaims_eq_ok_iff {issuer : String} {now : Instant} {claims accepted : Claims} :
    checkClaims issuer now claims = .ok accepted ↔
      claims = accepted ∧ accepted.issuer ≠ "" ∧ accepted.issuer = issuer ∧
        now.seconds ≤ accepted.expiresAt := by
  rw [checkClaims]
  split
  · next hissuer =>
    constructor
    · nofun
    · rintro ⟨rfl, hne, heq, _⟩
      exact absurd hissuer (not_or.mpr ⟨hne, not_not_intro heq⟩)
  · next hissuer =>
    obtain ⟨hne, heq⟩ := not_or.mp hissuer
    split
    · next hexpired =>
      constructor
      · nofun
      · rintro ⟨rfl, _, _, hle⟩
        omega
    · next hexpired =>
      constructor
      · intro h
        cases h
        exact ⟨rfl, hne, Decidable.not_not.mp heq, by omega⟩
      · rintro ⟨rfl, _⟩
        rfl

theorem checkClaims_ne_invalidSignature {issuer : String} {now : Instant} {claims : Claims}
    {refusal : Refusal} (h : checkClaims issuer now claims = .error refusal) :
    refusal.failure ≠ .invalidSignature := by
  rw [checkClaims] at h
  split at h
  · cases h
    simp
  · split at h
    · cases h
      simp
    · cases h

/-- The claims of a text that both decodings take: as claims, and as registered claims. -/
def soundClaims? (text : Bytes) : Option Claims := do
  let members ← Json.parseMembers? .byName text
  let claims ← Claims.ofMembers? members
  if areRegisteredClaimsSound members then some claims else none

theorem soundClaims?_eq_some_iff {text : Bytes} {claims : Claims} :
    soundClaims? text = some claims ↔ ∃ members, Json.parseMembers? .byName text = some members ∧
      Claims.ofMembers? members = some claims ∧ areRegisteredClaimsSound members = true := by
  simp [soundClaims?, Option.bind_eq_some_iff]

/-- Claims are read from the text of their part, and their expiry must be a time. -/
theorem readClaims_eq (part : List Char) :
    readClaims part = decodePart part >>= fun bytes =>
      match soundClaims? bytes with
      | none => .error .json
      | some claims => if claims.expiresAt < 0 then .error .expiry else .ok claims := by
  rw [readClaims]
  congr 1
  funext bytes
  rw [soundClaims?]
  cases Json.parseMembers? .byName bytes with
  | none => rfl
  | some members =>
    simp only [Option.bind_eq_bind, Option.bind_some]
    cases Claims.ofMembers? members with
    | none => rfl
    | some claims =>
      dsimp only [Option.bind_some]
      cases areRegisteredClaimsSound members with
      | false => rfl
      | true =>
        by_cases hexpired : claims.expiresAt < 0
        · simp only [hexpired, if_true]
          rfl
        · simp only [hexpired, if_true, if_false]
          rfl

theorem readClaims_eq_ok_iff {part : List Char} {claims : Claims} :
    readClaims part = .ok claims ↔ ∃ bytes, part = encodePart bytes ∧
      soundClaims? bytes = some claims ∧ 0 ≤ claims.expiresAt := by
  simp only [readClaims_eq, Outcome.bind_eq_ok_iff, decodePart_eq_ok_iff]
  refine exists_congr fun bytes => and_congr_right fun _ => ?_
  cases soundClaims? bytes with
  | none => simp
  | some found =>
    by_cases hexpired : found.expiresAt < 0
    · simp only [hexpired, if_true, Option.some.injEq, reduceCtorEq, false_iff, not_and]
      rintro rfl
      omega
    · simp only [hexpired, if_false, Except.ok.injEq, Option.some.injEq]
      constructor
      · rintro rfl
        exact ⟨rfl, by omega⟩
      · exact And.left

/-- Only the check of the signature reports a signature. -/
theorem readClaims_ne_signature {part : List Char} {fault : Fault}
    (h : readClaims part = .error fault) : fault ≠ .signature := by
  rw [readClaims_eq] at h
  rcases Outcome.bind_eq_error_iff.mp h with h | ⟨bytes, _, h⟩
  · obtain ⟨_, _, rfl⟩ := Outcome.mapError_eq_error_iff.mp h
    nofun
  · split at h
    · cases h
      nofun
    · split at h
      · cases h
        nofun
      · cases h

theorem Fault.failure_eq_invalidSignature_iff {fault : Fault} :
    fault.failure = .invalidSignature ↔ fault = .signature := by
  cases fault <;> simp [failure]

/-- What comes after the key never leads to another attempt. -/
theorem Opened.judge_ne_invalidSignature {content : Opened} {issuer : String} {now : Instant}
    {refusal : Refusal} (h : content.judge issuer now = .error refusal) :
    refusal.failure ≠ .invalidSignature := by
  rcases Outcome.bind_eq_error_iff.mp h with h | ⟨claims, _, h⟩
  · obtain ⟨fault, hfault, rfl⟩ := Outcome.mapError_eq_error_iff.mp h
    intro hfailure
    exact readClaims_ne_signature hfault (Fault.failure_eq_invalidSignature_iff.mp hfailure)
  · exact checkClaims_ne_invalidSignature h

/-! ## An attempt -/

/-- Decoding with a key: what is before the key, the answer of the key, what is after it. -/
theorem decode_eq (key : Curve.P256.Point) (token : String) :
    decode key token = opened token >>= fun content =>
      if content.isSignedBy key then readClaims content.parts.claims else .error .signature := by
  rw [decode, opened]
  cases Parts.ofText? token.toList with
  | none => rfl
  | some parts =>
    dsimp only
    cases checkHeader parts.header with
    | error fault => rfl
    | ok _ =>
      simp only [bind, Except.bind, checkSignature]
      cases decodePart parts.signature with
      | error fault => rfl
      | ok bytes =>
        dsimp only
        cases Ecdsa.Signature.ofFixed? bytes with
        | none => rfl
        | some signature =>
          have hsigned : (Opened.mk parts signature).isSignedBy key =
              Ecdsa.verify key parts.message signature := rfl
          cases hverify : Ecdsa.verify key parts.message signature <;>
            simp [hverify, hsigned, pure, Except.pure, throw, throwThe, MonadExceptOf.throw]

theorem attempt_p256 (issuer : String) (key : Curve.P256.Point) (now : Instant) (token : String) :
    attempt issuer (.p256 key) now token =
      match opened token with
      | .error fault => .error fault.refusal
      | .ok content =>
        if content.isSignedBy key then content.judge issuer now
        else .error Fault.signature.refusal := by
  rw [attempt, decode_eq]
  cases opened token with
  | error fault => rfl
  | ok content =>
    cases hsigned : content.isSignedBy key with
    | false => simp [bind, Except.bind, hsigned]
    | true =>
      simp only [bind, Except.bind, hsigned, if_true]
      rfl

/-- An attempt accepts a token that opens, is signed by the key and whose claims are accepted. -/
theorem attempt_p256_eq_ok_iff {issuer : String} {key : Curve.P256.Point} {now : Instant}
    {token : String} {claims : Claims} :
    attempt issuer (.p256 key) now token = .ok claims ↔
      ∃ content, opened token = .ok content ∧ content.isSignedBy key = true ∧
        content.judge issuer now = .ok claims := by
  rw [attempt_p256]
  cases opened token with
  | error fault => simp
  | ok content => by_cases hsigned : content.isSignedBy key = true <;> simp [hsigned]

/-- Only keys of P-256 accept tokens. -/
theorem exists_of_attempt_eq_ok {issuer token : String} {key : PublicKey} {now : Instant}
    {claims : Claims} (h : attempt issuer key now token = .ok claims) :
    ∃ point content, key = .p256 point ∧ opened token = .ok content ∧
      content.isSignedBy point = true ∧ content.judge issuer now = .ok claims := by
  cases key with
  | ed25519 key => cases h
  | p256 point =>
    obtain ⟨content, hopened, hsigned, hjudge⟩ := attempt_p256_eq_ok_iff.mp h
    exact ⟨point, content, rfl, hopened, hsigned, hjudge⟩

/-- Claims are accepted if they are read from their part and pass the checks. -/
theorem Opened.judge_eq_ok_iff {content : Opened} {issuer : String} {now : Instant}
    {claims : Claims} :
    content.judge issuer now = .ok claims ↔
      readClaims content.parts.claims = .ok claims ∧ claims.issuer ≠ "" ∧
        claims.issuer = issuer ∧ now.seconds ≤ claims.expiresAt := by
  rw [judge, Outcome.bind_eq_ok_iff]
  simp only [Outcome.mapError_eq_ok_iff, checkClaims_eq_ok_iff]
  constructor
  · rintro ⟨_, hread, rfl, hchecks⟩
    exact ⟨hread, hchecks⟩
  · rintro ⟨hread, hchecks⟩
    exact ⟨claims, hread, rfl, hchecks⟩

/-! ## One attempt or two -/

section

variable {clock : KeySlot → Instant} {issuer token : String} {primary : PublicKey}

theorem validateWith_of_attempt_eq_ok {claims : Claims} (secondary : Option PublicKey)
    (h : attempt issuer primary (clock .primary) token = .ok claims) :
    validateWith clock issuer primary secondary token = .ok ⟨claims, .primary, 1⟩ := by
  simp only [validateWith, h]
  rfl

/-- A refusal stands if there is no other key, or if it is not about the signature. -/
theorem validateWith_of_final {secondary : Option PublicKey} {refusal : Refusal}
    (h : attempt issuer primary (clock .primary) token = .error refusal)
    (hfinal : secondary = none ∨ refusal.failure ≠ .invalidSignature) :
    validateWith clock issuer primary secondary token = .error refusal := by
  have hstep : transition .primary (some refusal.failure) secondary.isSome = .fail := by
    rcases hfinal with rfl | hne
    · rfl
    · have hnot : refusal.failure.isInvalidSignature = false := by
        cases hfailure : refusal.failure <;> simp_all [Failure.isInvalidSignature]
      simp [transition, hnot]
  simp only [validateWith, h, failure?, hstep]
  rfl

/-- A signature that fails leads to an attempt with the other key. -/
theorem validateWith_of_retry {key : PublicKey} {refusal : Refusal}
    (h : attempt issuer primary (clock .primary) token = .error refusal)
    (hfailure : refusal.failure = .invalidSignature) :
    validateWith clock issuer primary (some key) token =
      ((attempt issuer key (clock .secondary) token).map fun claims =>
        ⟨claims, .secondary, 2⟩).mapError (·.note "primary key: invalid signature") := by
  have hstep : transition .primary (some refusal.failure) true = .retryWithSecondary := by
    rw [hfailure]
    rfl
  cases hsecond : attempt issuer key (clock .secondary) token <;>
    simp [validateWith, h, failure?, hstep, hsecond, Except.map]

/-- What is accepted was accepted in the first attempt, or in the second one after the signature
failed in the first. -/
theorem validateWith_eq_ok_iff {secondary : Option PublicKey} {accepted : Validated} :
    validateWith clock issuer primary secondary token = .ok accepted ↔
      (∃ claims, attempt issuer primary (clock .primary) token = .ok claims ∧
        accepted = ⟨claims, .primary, 1⟩) ∨
      ∃ refusal key claims, attempt issuer primary (clock .primary) token = .error refusal ∧
        refusal.failure = .invalidSignature ∧ secondary = some key ∧
        attempt issuer key (clock .secondary) token = .ok claims ∧
        accepted = ⟨claims, .secondary, 2⟩ := by
  cases hfirst : attempt issuer primary (clock .primary) token with
  | ok claims => simp [validateWith_of_attempt_eq_ok secondary hfirst, eq_comm]
  | error refusal =>
    by_cases hfailure : refusal.failure = .invalidSignature
    · cases secondary with
      | none => simp [validateWith_of_final hfirst (.inl rfl)]
      | some key =>
        rw [validateWith_of_retry hfirst hfailure]
        cases hsecond : attempt issuer key (clock .secondary) token <;>
          simp [hfailure, hsecond, Except.map, eq_comm]
    · simp [validateWith_of_final hfirst (.inr hfailure), hfailure]

/-- The claims of an accepted token are those that an attempt accepted. -/
theorem exists_attempt_of_validateWith {secondary : Option PublicKey} {accepted : Validated}
    (h : validateWith clock issuer primary secondary token = .ok accepted) :
    ∃ key slot, attempt issuer key (clock slot) token = .ok accepted.claims := by
  rcases validateWith_eq_ok_iff.mp h with ⟨_, hfirst, rfl⟩ | ⟨_, key, _, _, _, _, hsecond, rfl⟩
  · exact ⟨primary, .primary, hfirst⟩
  · exact ⟨key, .secondary, hsecond⟩

end

/-! ### At one moment -/

section

variable {issuer token : String} {primary : PublicKey} {now : Instant} {refusal : Refusal}

theorem validate_of_attempt_eq_ok {claims : Claims} (secondary : Option PublicKey)
    (h : attempt issuer primary now token = .ok claims) :
    validate issuer primary secondary now token = .ok ⟨claims, .primary, 1⟩ :=
  @validateWith_of_attempt_eq_ok (fun _ => now) issuer token primary claims secondary h

theorem validate_of_final {secondary : Option PublicKey}
    (h : attempt issuer primary now token = .error refusal)
    (hfinal : secondary = none ∨ refusal.failure ≠ .invalidSignature) :
    validate issuer primary secondary now token = .error refusal :=
  @validateWith_of_final (fun _ => now) issuer token primary secondary refusal h hfinal

theorem validate_of_retry {key : PublicKey}
    (h : attempt issuer primary now token = .error refusal)
    (hfailure : refusal.failure = .invalidSignature) :
    validate issuer primary (some key) now token =
      ((attempt issuer key now token).map fun claims => ⟨claims, .secondary, 2⟩).mapError
        (·.note "primary key: invalid signature") :=
  @validateWith_of_retry (fun _ => now) issuer token primary key refusal h hfailure

end

end Possession.Token
