import Possession.Proofs.KeyReference
import Possession.Proofs.Publication

/-!
# One key, many spellings

All that tells keys apart is the type, the curve and the coordinates that the members hold. Whatever
spelling a key was read from, these are the same, so its thumbprints are the same.
-/

namespace Possession

/-- What tells keys apart. -/
structure KeyIdentity where
  type : String
  curve : String
  coordinates : List Bytes
  deriving DecidableEq, Repr

namespace KeyIdentity

/-- The members that hold the coordinates of keys of the given type. -/
def coordinateNames (type : String) : List String := if type = "EC" then ["x", "y"] else ["x"]

def ofMembers? (members : List (String × Json)) : Option KeyIdentity := do
  let type ← Json.required? "kty" (Json.asNameOrIndex? Jwk.types) members
  let curve ← Json.required? "crv" Json.asOpenName? members
  let coordinates ← (coordinateNames type).mapM fun name =>
    Json.required? name Jwk.asBytes? members
  return ⟨type, curve, coordinates⟩

/-- The identity of the key that a text spells. -/
def ofText? (text : String) : Option KeyIdentity := do
  ofMembers? (← Json.parseMembers? .asWritten (Bytes.ofText text))

end KeyIdentity

namespace PublicKey

def identity : PublicKey → KeyIdentity
  | p256 point => ⟨"EC", "P-256", [Bytes.ofNat 32 point.x, Bytes.ofNat 32 point.y]⟩
  | ed25519 key => ⟨"OKP", "Ed25519", [key.bytes]⟩

/-- A key is known by its identity: thirty-two bytes keep all of a coordinate. -/
theorem identity_inj {key other : PublicKey} : key.identity = other.identity ↔ key = other := by
  refine ⟨fun h => ?_, fun h => h ▸ rfl⟩
  cases key with
  | p256 point =>
    cases other with
    | p256 point' =>
      obtain ⟨hx, hy⟩ := point.coordinates_lt_pow
      obtain ⟨hx', hy'⟩ := point'.coordinates_lt_pow
      have hcoordinates : point.x = point'.x ∧ point.y = point'.y := by
        simpa [identity, Bytes.ofNat_inj hx hx', Bytes.ofNat_inj hy hy'] using h
      rw [Curve.P256.Point.eq_of_coordinates hcoordinates.1 hcoordinates.2]
    | ed25519 key' => simp [identity] at h
  | ed25519 key =>
    cases other with
    | p256 point' => simp [identity] at h
    | ed25519 key' =>
      have hbytes : key.bytes = key'.bytes := by simpa [identity] using h
      rw [Ed25519.PublicKey.eq_of_bytes hbytes]

/-! ## Reading -/

/-- Coordinates are accepted as those of a key if they are the thirty-two bytes of each. -/
theorem of_ofCoordinates {x y : Bytes} {key : PublicKey} (h : ofCoordinates x y = .ok key) :
    ∃ point, key = .p256 point ∧ x = Bytes.ofNat 32 point.x ∧ y = Bytes.ofNat 32 point.y := by
  rw [ofCoordinates] at h
  split at h
  · cases h
  split at h
  · cases h
  next hx hy =>
  split at h
  · cases h
  · next point hpoint =>
    cases h
    -- as many bytes as are written for a coordinate, so leading zeros are kept
    have hcoordinates : Bytes.toNat x = point.x ∧ Bytes.toNat y = point.y := by
      rw [Curve.P256.Point.ofCoordinates?] at hpoint
      split at hpoint
      · cases hpoint
        exact ⟨rfl, rfl⟩
      · cases hpoint
    refine ⟨point, rfl, ?_, ?_⟩
    · rw [← hcoordinates.1, ← Decidable.not_not.mp hx, Bytes.ofNat_toNat]
    · rw [← hcoordinates.2, ← Decidable.not_not.mp hy, Bytes.ofNat_toNat]

theorem of_ofEd25519 {bytes : Bytes} {key : PublicKey} (h : ofEd25519 bytes = .ok key) :
    ∃ ed, key = .ed25519 ed ∧ bytes = ed.bytes := by
  rw [ofEd25519] at h
  split at h
  · split at h
    · cases h
    · next ed hed =>
      cases h
      rw [Ed25519.PublicKey.ofBytes?] at hed
      split at hed
      · cases hed
        exact ⟨_, rfl, rfl⟩
      · cases hed
  · cases h

/-- A key comes from the material with which it would be written, and from no other. -/
theorem ofJwk_eq_ok_iff {jwk : Jwk} {key : PublicKey} :
    ofJwk jwk = .ok key ↔ jwk.material = (key.toJwk none).material := by
  constructor
  · intro h
    rw [ofJwk] at h
    split at h
    · next x y d hmaterial =>
      split at h
      · cases h
      · next hd =>
        obtain ⟨point, rfl, rfl, rfl⟩ := of_ofCoordinates h
        rw [hmaterial, Option.not_isSome_iff_eq_none.mp hd]
        rfl
    · next x d hmaterial =>
      split at h
      · cases h
      · next hd =>
        obtain ⟨ed, rfl, rfl⟩ := of_ofEd25519 h
        rw [hmaterial, Option.not_isSome_iff_eq_none.mp hd]
        rfl
    · cases h
  · intro h
    rw [ofJwk, h]
    exact ofJwk_toJwk key none

theorem parse_eq_ok_iff {text : String} {key : PublicKey} :
    parse text = .ok key ↔
      ∃ jwk, Jwk.parse? (Bytes.ofText text) = some jwk ∧
        jwk.material = (key.toJwk none).material := by
  rw [parse, Outcome.mapError_eq_ok_iff, read]
  cases Jwk.parse? (Bytes.ofText text) with
  | none => simp
  | some jwk => simp [ofJwk_eq_ok_iff]

/-- The material of a key stands in members that give its identity and hold nothing private. -/
theorem identity_of_readMaterial? {type : String} {members : List (String × Json)}
    {key : PublicKey}
    (htype : Json.required? "kty" (Json.asNameOrIndex? Jwk.types) members = some type)
    (h : Jwk.readMaterial? type members = some (key.toJwk none).material) :
    KeyIdentity.ofMembers? members = some key.identity ∧
      ∀ value, ("d", value) ∈ members → value = .null := by
  cases key with
  | p256 point =>
    obtain ⟨rfl, hcurve, hx, hy, hd⟩ := Jwk.of_readMaterial?_ec h
    refine ⟨?_, fun _ => Json.eq_null_of_optional? hd⟩
    simp [KeyIdentity.ofMembers?, KeyIdentity.coordinateNames, htype, hcurve, hx, hy, identity,
      Jwk.EcCurve.name]
  | ed25519 key =>
    obtain ⟨rfl, hcurve, hx, hd⟩ := Jwk.of_readMaterial?_okp h
    refine ⟨?_, fun _ => Json.eq_null_of_optional? hd⟩
    simp [KeyIdentity.ofMembers?, KeyIdentity.coordinateNames, htype, hcurve, hx, identity,
      Jwk.OkpCurve.name]

/-- A text that is accepted spells the identity of the key, and nothing private. -/
theorem exists_members_of_parse {text : String} {key : PublicKey} (h : parse text = .ok key) :
    ∃ members, Json.parseMembers? .asWritten (Bytes.ofText text) = some members ∧
      KeyIdentity.ofMembers? members = some key.identity ∧
      ∀ value, ("d", value) ∈ members → value = .null := by
  obtain ⟨jwk, hjwk, hmaterial⟩ := parse_eq_ok_iff.mp h
  obtain ⟨members, hmembers, hread⟩ := Option.bind_eq_some_iff.mp hjwk
  obtain ⟨type, htype, hread⟩ := Jwk.readMaterial?_of_ofMembers? hread
  rw [hmaterial] at hread
  exact ⟨members, hmembers, identity_of_readMaterial? htype hread⟩

theorem ofText?_of_parse {text : String} {key : PublicKey} (h : parse text = .ok key) :
    KeyIdentity.ofText? text = some key.identity := by
  obtain ⟨members, hmembers, hidentity, _⟩ := exists_members_of_parse h
  exact Option.bind_eq_some_iff.mpr ⟨members, hmembers, hidentity⟩

/-! ## Writing -/

/-- A key is read back from its text, whatever its identifier is. -/
theorem parse_print_toJwk (key : PublicKey) (keyId : Option String) :
    parse (key.toJwk keyId).print = .ok key := by
  refine parse_eq_ok_iff.mpr ⟨_, Jwk.parse?_print (key.mem_algorithms_of_toJwk keyId), ?_⟩
  cases key <;> rfl

/-- A thumbprint of a key is one of its algorithm. -/
theorem isThumbprint_thumbprint (key : PublicKey) (algorithm : ThumbprintAlgorithm) :
    KeyReference.IsThumbprint algorithm (key.thumbprint algorithm) :=
  ⟨_, algorithm.length_digest _, rfl⟩

/-- Whatever text a key was read from, the text holds nothing private and spells the type, the curve
and the coordinates of the key. All other texts that spell the same ones are texts of the same key,
with the same thumbprints. The key is read back from the text that is written for it with any
identifier, and the references that are made for it are read and name it. -/
theorem spelling_of_parse {text : String} {key : PublicKey} (h : parse text = .ok key) :
    (∃ members, Json.parseMembers? .asWritten (Bytes.ofText text) = some members ∧
      ∀ value, ("d", value) ∈ members → value = .null) ∧
    (∀ keyId, parse (key.toJwk keyId).print = .ok key) ∧
    KeyIdentity.ofText? text = some key.identity ∧
    (∀ other key', parse other = .ok key' →
      KeyIdentity.ofText? other = KeyIdentity.ofText? text →
        key' = key ∧ ∀ algorithm, key'.thumbprint algorithm = key.thumbprint algorithm) ∧
    ∀ algorithm,
      KeyReference.parse (KeyReference.forKey key algorithm).print =
        .ok ⟨algorithm, key.thumbprint algorithm⟩ ∧
      KeyReference.names ⟨algorithm, key.thumbprint algorithm⟩ key = true := by
  obtain ⟨members, hmembers, _, hprivate⟩ := exists_members_of_parse h
  refine ⟨⟨members, hmembers, hprivate⟩, key.parse_print_toJwk, ofText?_of_parse h,
    fun other key' h' hsame => ?_,
    fun algorithm => ⟨?_, KeyReference.names_forKey key algorithm⟩⟩
  · rw [ofText?_of_parse h, ofText?_of_parse h', Option.some.injEq, identity_inj] at hsame
    exact ⟨hsame, fun algorithm => by rw [hsame]⟩
  · exact KeyReference.parse_eq_ok_iff.mpr ⟨rfl, key.isThumbprint_thumbprint algorithm⟩

/-- A key whose first coordinate is all zeros but for its last byte. -/
def smallKey : PublicKey :=
  .p256 ⟨5, 0x459243b9aa581806fe913bce99817ade11ca503c64d9a3c533415c083248fbcc, by decide +kernel⟩

/-- The small key as it is usually spelled. -/
def plainText : String :=
  "\x7b\"kty\":\"EC\",\"crv\":\"P-256\",\"x\":\"AAAAAAAAAAAAAAAAAAAAAAAAAAAAAAAAAAAAAAAAAAU\"," ++
    "\"y\":\"RZJDuapYGAb-kTvOmYF63hHKUDxk2aPFM0FcCDJI-8w\"\x7d"

/-- The small key in disorder: the type given by its position, the curve as a member, a private
component that is null, and escapes. -/
def oddText : String :=
  "\x7b \"y\":\"RZJDuapYGAb-kTvOmYF63hHKUDxk2aPFM0FcCDJI-8w\",\"d\":null,\"alg\":\"RS256\"," ++
    "\"\\u0078\":\"AAAAAAAAAAAAAAAAAAAAAAAAAAAAAAAAAAAAAAAAA\\u0041U\", \"n\":[\x7b\x7d]," ++
    "\"kid\":\"\\\"\\n\",\"crv\":\x7b\"P-256\":null\x7d,\"kty\":0\x7d"

theorem parse_oddText : parse oddText = .ok smallKey := by decide +kernel

theorem parse_plainText : parse plainText = .ok smallKey := by decide +kernel

theorem spelling_oddText :
    parse oddText = .ok smallKey ∧
      KeyIdentity.ofText? oddText = some ⟨"EC", "P-256", [List.replicate 31 0 ++ [5],
        Bytes.ofNat 32 0x459243b9aa581806fe913bce99817ade11ca503c64d9a3c533415c083248fbcc]⟩ ∧
      parse (smallKey.toJwk (some "\"\\\n")).print = .ok smallKey ∧
      (∃ key, parse plainText = .ok key ∧
        key.thumbprint .sha384 = smallKey.thumbprint .sha384) ∧
      KeyReference.parse ("sha512-" ++ smallKey.thumbprint .sha512) =
        .ok ⟨.sha512, smallKey.thumbprint .sha512⟩ := by
  obtain ⟨_, hprint, htext, hother, hreference⟩ := spelling_of_parse parse_oddText
  have hsame : KeyIdentity.ofText? plainText = KeyIdentity.ofText? oddText := by decide +kernel
  exact ⟨parse_oddText, htext, hprint _,
    ⟨smallKey, parse_plainText, (hother plainText smallKey parse_plainText hsame).2 .sha384⟩,
    (hreference .sha512).1⟩

end PublicKey

end Possession
