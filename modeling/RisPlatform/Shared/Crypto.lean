import RisPlatform.Common.Utf16

/-!
# Encrypted fields

The texts that `encrypt` writes and `decrypt` reads: `v1:iv:authTag:ciphertext`, and from before there
were versions `iv:authTag:ciphertext`, all parts in hexadecimal digits. AES-256-GCM is a parameter
(`Gcm`) of which only that decryption inverts encryption is assumed. The key stands in the environment.

`encryptedField_roundTrip` is about both ends: what is written is read back in parts and as a whole, and
what is read as a plaintext was opened from a text of one of the two formats.
-/

namespace Ris.Crypto

open Utf16

/-- The cipher: it gives ciphertext and tag, and opens what the tag belongs to. -/
structure Gcm where
  encipher (key iv plaintext : List UInt8) : List UInt8 × List UInt8
  decipher (key iv ciphertext authTag : List UInt8) : Option (List UInt8)

/-- Decryption inverts encryption under the same key, and tags have the length of all tags. -/
structure Gcm.Lawful (gcm : Gcm) : Prop where
  decipher_encipher : ∀ key iv plaintext, key.length = 32 →
    gcm.decipher key iv (gcm.encipher key iv plaintext).1 (gcm.encipher key iv plaintext).2 =
      some plaintext
  length_authTag : ∀ key iv plaintext, (gcm.encipher key iv plaintext).2.length = 16

/-- What is thrown: the module's own errors, and those of the cipher. -/
inductive Failure where
  | missingKey
  | unsupportedVersion (version : Option ℤ)
  | invalidFormat
  | invalidIvLength
  | invalidAuthTagLength
  | invalidKeyLength
  | oddCiphertext (length : ℕ)
  | unauthenticated
  deriving DecidableEq

def Failure.message : Failure → String
  | missingKey => "ENCRYPTION_KEY must be set and be exactly 64 hex characters (256 bits)"
  | unsupportedVersion none => "Unsupported encryption version: vNaN"
  | unsupportedVersion (some version) => "Unsupported encryption version: v" ++ toString version
  | invalidFormat => "Invalid encrypted text format"
  | invalidIvLength => "Invalid IV length"
  | invalidAuthTagLength => "Invalid auth tag length"
  | invalidKeyLength => "Invalid key length"
  | oddCiphertext length =>
    "The argument 'encoding' is invalid for data of length " ++ toString length ++ ". Received 'hex'"
  | unauthenticated => "Unsupported state or unable to authenticate data"

def IV_LENGTH : ℕ := 12

def AUTH_TAG_LENGTH : ℕ := 16

def LEGACY_IV_LENGTH : ℕ := 16

def CURRENT_KEY_VERSION : ℕ := 1

/-- `:` and `v` -/
def colon : UInt16 := 58

def letterV : UInt16 := 118

/-- The key as the environment gives it. -/
def getKey (env : Option Text) : Except Failure (List UInt8) :=
  match env with
  | none => .error .missingKey
  | some keyHex => if keyHex = [] ∨ keyHex.length ≠ 64 then .error .missingKey else .ok (fromHex keyHex)

/-- The cipher is made for keys of 256 bits. -/
def checkKeyLength (key : List UInt8) : Except Failure Unit :=
  if key.length = 32 then .ok () else .error .invalidKeyLength

def joined (parts : List Text) : Text := [colon].intercalate parts

/-- `iv` are the random bytes. -/
def encrypt (gcm : Gcm) (env : Option Text) (iv : List UInt8) (plaintext : Text) :
    Except Failure Text := do
  let key ← getKey env
  checkKeyLength key
  let (encrypted, authTag) := gcm.encipher key iv (toUtf8 plaintext)
  return joined [letterV :: units (toString CURRENT_KEY_VERSION), toHex iv, toHex authTag, toHex encrypted]

structure Parsed where
  key : List UInt8
  iv : List UInt8
  authTag : List UInt8
  ciphertext : Text
  deriving DecidableEq

def validateBuffers (iv authTag : List UInt8) : Except Failure Unit :=
  if iv.length ≠ IV_LENGTH ∧ iv.length ≠ LEGACY_IV_LENGTH then .error .invalidIvLength
  else if authTag.length ≠ AUTH_TAG_LENGTH then .error .invalidAuthTagLength
  else .ok ()

/-- What both formats do with their last three parts. -/
def parseParts (env : Option Text) (iv authTag ciphertext : Text) : Except Failure Parsed := do
  let key ← getKey env
  validateBuffers (fromHex iv) (fromHex authTag)
  return ⟨key, fromHex iv, fromHex authTag, ciphertext⟩

def parseVersionedText (env : Option Text) (parts : List Text) : Except Failure Parsed :=
  let version := parseInt ((parts.getD 0 []).drop 1)
  if version ≠ some 1 then .error (.unsupportedVersion version)
  else parseParts env (parts.getD 1 []) (parts.getD 2 []) (parts.getD 3 [])

def parseLegacyText (env : Option Text) (parts : List Text) : Except Failure Parsed :=
  if parts.length ≠ 3 then .error .invalidFormat
  else parseParts env (parts.getD 0 []) (parts.getD 1 []) (parts.getD 2 [])

def parseEncryptedText (env : Option Text) (text : Text) : Except Failure Parsed :=
  let parts := text.splitOn colon
  let hasVersionPrefix := [letterV].isPrefixOf (parts.getD 0 []) && parts.length == 4
  if hasVersionPrefix then parseVersionedText env parts else parseLegacyText env parts

/-- The digits are read in pairs, so there is an even number of them; the tag is checked at the end. -/
def openParsed (gcm : Gcm) (parsed : Parsed) : Except Failure Text := do
  checkKeyLength parsed.key
  if parsed.ciphertext.length % 2 ≠ 0 then .error (.oddCiphertext parsed.ciphertext.length)
  else
    match gcm.decipher parsed.key parsed.iv (fromHex parsed.ciphertext) parsed.authTag with
    | none => .error .unauthenticated
    | some decrypted => .ok (fromUtf8 decrypted)

def decrypt (gcm : Gcm) (env : Option Text) (encryptedText : Text) : Except Failure Text := do
  openParsed gcm (← parseEncryptedText env encryptedText)

/-! ## The two formats -/

/-- The parts of a text with a version and the text behind it. -/
def Versioned (text version iv authTag ciphertext : Text) : Prop :=
  text.splitOn colon = [letterV :: version, iv, authTag, ciphertext]

def Legacy (text iv authTag ciphertext : Text) : Prop := text.splitOn colon = [iv, authTag, ciphertext]

variable {gcm : Gcm} {env : Option Text} {key iv : List UInt8} {text version iv' authTag ciphertext q : Text}

theorem parse_versioned (h : Versioned text version iv' authTag ciphertext) :
    parseEncryptedText env text =
      if parseInt version ≠ some 1 then .error (.unsupportedVersion (parseInt version))
      else parseParts env iv' authTag ciphertext := by
  unfold Versioned at h
  rw [parseEncryptedText, h]
  rfl

theorem parse_legacy (h : Legacy text iv' authTag ciphertext) :
    parseEncryptedText env text = parseParts env iv' authTag ciphertext := by
  unfold Legacy at h
  rw [parseEncryptedText, h]
  have hno : ([letterV].isPrefixOf ([iv', authTag, ciphertext].getD 0 []) &&
      [iv', authTag, ciphertext].length == 4) = false := Bool.and_false _
  simp only [hno]
  rfl

/-- A text of no format is refused. -/
theorem parse_other (hv : ∀ version iv authTag ciphertext, ¬ Versioned text version iv authTag ciphertext)
    (hl : ∀ iv authTag ciphertext, ¬ Legacy text iv authTag ciphertext) :
    parseEncryptedText env text = .error .invalidFormat := by
  unfold Versioned at hv
  unfold Legacy at hl
  rw [parseEncryptedText]
  generalize text.splitOn colon = parts at hv hl
  have hno : ([letterV].isPrefixOf (parts.getD 0 []) && parts.length == 4) = false := by
    rw [Bool.eq_false_iff]
    intro h
    rw [Bool.and_eq_true, beq_iff_eq, List.isPrefixOf_iff_prefix] at h
    match parts, h with
    | [_, iv, authTag, ciphertext], ⟨⟨version, rfl⟩, _⟩ => exact hv version iv authTag ciphertext rfl
  have hlen : parts.length ≠ 3 := by
    intro h
    match parts, h with
    | [iv, authTag, ciphertext], _ => exact hl iv authTag ciphertext rfl
  simp only [hno, parseLegacyText]
  exact if_pos hlen

/-! ## Reading -/

theorem bind_eq_ok {α β : Type} {x : Except Failure α} {f : α → Except Failure β} {b : β} :
    (x >>= f) = .ok b ↔ ∃ a, x = .ok a ∧ f a = .ok b := by
  cases x with
  | error e =>
    exact ⟨fun h => absurd h (by simp [bind, Except.bind]), fun ⟨a, h, _⟩ => absurd h (by simp)⟩
  | ok a => exact ⟨fun h => ⟨a, rfl, h⟩, fun ⟨_, h, h'⟩ => Except.ok.inj h ▸ h'⟩

theorem validateBuffers_ok_iff {iv authTag : List UInt8} :
    validateBuffers iv authTag = .ok () ↔
      (iv.length = IV_LENGTH ∨ iv.length = LEGACY_IV_LENGTH) ∧ authTag.length = AUTH_TAG_LENGTH := by
  unfold validateBuffers
  split
  · next h => exact ⟨fun h' => absurd h' (by simp), fun h' => by omega⟩
  split
  · next h => exact ⟨fun h' => absurd h' (by simp), fun h' => absurd h'.2 h⟩
  · next h h' => exact ⟨fun _ => ⟨by omega, not_not.1 h'⟩, fun _ => rfl⟩

theorem parseParts_ok_iff {parsed : Parsed} :
    parseParts env iv' authTag ciphertext = .ok parsed ↔
      ∃ key, getKey env = .ok key ∧ ((fromHex iv').length = IV_LENGTH ∨ (fromHex iv').length = LEGACY_IV_LENGTH) ∧
        (fromHex authTag).length = AUTH_TAG_LENGTH ∧
          parsed = ⟨key, fromHex iv', fromHex authTag, ciphertext⟩ := by
  rw [parseParts, bind_eq_ok]
  refine exists_congr fun key => and_congr_right fun _ => ?_
  rw [bind_eq_ok, ← and_assoc, ← validateBuffers_ok_iff]
  constructor
  · rintro ⟨_, hok, hparsed⟩
    exact ⟨hok, (Except.ok.inj hparsed).symm⟩
  · rintro ⟨hok, rfl⟩
    exact ⟨(), hok, rfl⟩

theorem checkKeyLength_ok_iff : checkKeyLength key = .ok () ↔ key.length = 32 := by
  unfold checkKeyLength
  split
  · next h => exact ⟨fun _ => h, fun _ => rfl⟩
  · next h => exact ⟨fun h' => absurd h' (by simp), fun h' => absurd h' h⟩

theorem openParsed_ok_iff {parsed : Parsed} :
    openParsed gcm parsed = .ok q ↔ parsed.key.length = 32 ∧ parsed.ciphertext.length % 2 = 0 ∧
      ∃ bytes, gcm.decipher parsed.key parsed.iv (fromHex parsed.ciphertext) parsed.authTag = some bytes ∧
        q = fromUtf8 bytes := by
  rw [openParsed, bind_eq_ok]
  constructor
  · rintro ⟨_, hkey, h⟩
    refine ⟨checkKeyLength_ok_iff.1 hkey, ?_⟩
    split at h
    · exact absurd h (by simp)
    next heven =>
    refine ⟨not_not.1 heven, ?_⟩
    split at h
    · exact absurd h (by simp)
    · next bytes hbytes => exact ⟨bytes, hbytes, (Except.ok.inj h).symm⟩
  · rintro ⟨hkey, heven, bytes, hbytes, rfl⟩
    refine ⟨(), checkKeyLength_ok_iff.2 hkey, ?_⟩
    rw [if_neg (not_not.2 heven), hbytes]

/-- The text has one of the two formats, in the versioned one with the version 1. -/
def Reads (text iv authTag ciphertext : Text) : Prop :=
  Legacy text iv authTag ciphertext ∨
    ∃ version, Versioned text version iv authTag ciphertext ∧ parseInt version = some 1

/-- The plaintext `q` was opened, under the key of the environment, from the parts of the text. -/
def Opened (gcm : Gcm) (env : Option Text) (text q : Text) : Prop :=
  ∃ key iv authTag ciphertext bytes, getKey env = .ok key ∧ Reads text iv authTag ciphertext ∧
    ((fromHex iv).length = IV_LENGTH ∨ (fromHex iv).length = LEGACY_IV_LENGTH) ∧
    (fromHex authTag).length = AUTH_TAG_LENGTH ∧
    gcm.decipher key (fromHex iv) (fromHex ciphertext) (fromHex authTag) = some bytes ∧
      q = fromUtf8 bytes

theorem parse_of_reads (h : Reads text iv' authTag ciphertext) :
    parseEncryptedText env text = parseParts env iv' authTag ciphertext := by
  rcases h with h | ⟨version, h, hone⟩
  · exact parse_legacy h
  · rw [parse_versioned h, if_neg (not_not.2 hone)]

theorem reads_of_parse {parsed : Parsed} (h : parseEncryptedText env text = .ok parsed) :
    ∃ iv authTag ciphertext, Reads text iv authTag ciphertext ∧
      parseParts env iv authTag ciphertext = .ok parsed := by
  by_cases hl : ∃ iv authTag ciphertext, Legacy text iv authTag ciphertext
  · obtain ⟨iv, authTag, ciphertext, hl⟩ := hl
    exact ⟨iv, authTag, ciphertext, Or.inl hl, parse_legacy hl ▸ h⟩
  by_cases hv : ∃ version iv authTag ciphertext, Versioned text version iv authTag ciphertext
  · obtain ⟨version, iv, authTag, ciphertext, hv⟩ := hv
    rw [parse_versioned hv] at h
    split at h
    · exact absurd h (by simp)
    · next hone => exact ⟨iv, authTag, ciphertext, Or.inr ⟨version, hv, not_not.1 hone⟩, h⟩
  · push Not at hl hv
    rw [parse_other hv hl] at h
    exact absurd h (by simp)

theorem opened_of_decrypt (h : decrypt gcm env text = .ok q) : Opened gcm env text q := by
  obtain ⟨parsed, hparsed, hopen⟩ := bind_eq_ok.1 h
  obtain ⟨iv, authTag, ciphertext, hreads, hparts⟩ := reads_of_parse hparsed
  obtain ⟨key, hkey, hiv, htag, rfl⟩ := parseParts_ok_iff.1 hparts
  obtain ⟨-, -, bytes, hbytes, hq⟩ := openParsed_ok_iff.1 hopen
  exact ⟨key, iv, authTag, ciphertext, bytes, hkey, hreads, hiv, htag, hbytes, hq⟩

/-! ## Writing -/

theorem colon_not_mem_toHex (bs : List UInt8) : colon ∉ toHex bs := by
  intro h
  have hcolon : colon.toNat = 58 := rfl
  have := isDigit_of_mem_toHex h
  omega

theorem splitOn_joined {parts : List Text} (h : ∀ part ∈ parts, colon ∉ part) (hne : parts ≠ []) :
    (joined parts).splitOn colon = parts :=
  List.splitOn_intercalate colon h hne

theorem legacy_joined (iv authTag ciphertext : List UInt8) :
    Legacy (joined [toHex iv, toHex authTag, toHex ciphertext]) (toHex iv) (toHex authTag) (toHex ciphertext) := by
  refine splitOn_joined ?_ (List.cons_ne_nil _ _)
  intro part hpart
  simp only [List.mem_cons, List.not_mem_nil, or_false] at hpart
  rcases hpart with rfl | rfl | rfl <;> exact colon_not_mem_toHex _

theorem versioned_joined (iv authTag ciphertext : List UInt8) :
    Versioned (joined [letterV :: units (toString CURRENT_KEY_VERSION), toHex iv, toHex authTag, toHex ciphertext])
      (units "1") (toHex iv) (toHex authTag) (toHex ciphertext) := by
  refine splitOn_joined ?_ (List.cons_ne_nil _ _)
  intro part hpart
  simp only [List.mem_cons, List.not_mem_nil, or_false] at hpart
  rcases hpart with rfl | rfl | rfl | rfl
  · decide
  all_goals exact colon_not_mem_toHex _

/-- Whatever format the text has, it is read back if its parts are those that were written. -/
theorem decrypt_of_reads {plaintext : Text} (hgcm : gcm.Lawful) (hkey : getKey env = .ok key)
    (hlen : key.length = 32) (hiv : iv.length = IV_LENGTH) {sealed : List UInt8 × List UInt8}
    (hsealed : sealed = gcm.encipher key iv (toUtf8 plaintext))
    (h : Reads text (toHex iv) (toHex sealed.2) (toHex sealed.1)) :
    parseEncryptedText env text = .ok ⟨key, iv, sealed.2, toHex sealed.1⟩ ∧
      decrypt gcm env text = .ok (toWellFormed plaintext) := by
  have hparse : parseEncryptedText env text = .ok ⟨key, iv, sealed.2, toHex sealed.1⟩ := by
    rw [parse_of_reads h, parseParts_ok_iff, fromHex_toHex, fromHex_toHex]
    exact ⟨key, hkey, Or.inl hiv, hsealed ▸ hgcm.length_authTag .., rfl⟩
  refine ⟨hparse, bind_eq_ok.2 ⟨_, hparse, openParsed_ok_iff.2 ⟨hlen, ?_, toUtf8 plaintext, ?_, ?_⟩⟩⟩
  · show (toHex sealed.1).length % 2 = 0
    rw [length_toHex]
    omega
  · show gcm.decipher key iv (fromHex (toHex sealed.1)) sealed.2 = _
    rw [fromHex_toHex, hsealed]
    exact hgcm.decipher_encipher key iv _ hlen
  · exact (fromUtf8_toUtf8 plaintext).symm

/-- Encrypted fields: what is written has the parts of the current format, and is read back, lone
surrogates replaced, with its version and, as legacy data, without; a plaintext that is read was opened
from a text of one of the formats, no text has both, and a text of neither or of another version is
refused. -/
theorem encryptedField_roundTrip (hgcm : gcm.Lawful) :
    (∀ env key iv plaintext, getKey env = .ok key → key.length = 32 → iv.length = IV_LENGTH →
      ∃ ciphertext authTag text legacy, gcm.encipher key iv (toUtf8 plaintext) = (ciphertext, authTag) ∧
        encrypt gcm env iv plaintext = .ok text ∧
        Versioned text (units "1") (toHex iv) (toHex authTag) (toHex ciphertext) ∧
        Legacy legacy (toHex iv) (toHex authTag) (toHex ciphertext) ∧
        (∀ t ∈ [text, legacy], parseEncryptedText env t = .ok ⟨key, iv, authTag, toHex ciphertext⟩ ∧
          decrypt gcm env t = .ok (toWellFormed plaintext)) ∧
        (isWellFormed plaintext = true → decrypt gcm env text = .ok plaintext)) ∧
    (∀ env text q, decrypt gcm env text = .ok q → Opened gcm env text q) ∧
    (∀ text version iv authTag ciphertext, Versioned text version iv authTag ciphertext →
      (∀ iv' authTag' ciphertext', ¬ Legacy text iv' authTag' ciphertext') ∧
      (parseInt version ≠ some 1 → ∀ env,
        decrypt gcm env text = .error (.unsupportedVersion (parseInt version)))) ∧
    (∀ text, (∀ version iv authTag ciphertext, ¬ Versioned text version iv authTag ciphertext) →
      (∀ iv authTag ciphertext, ¬ Legacy text iv authTag ciphertext) →
      ∀ env, decrypt gcm env text = .error .invalidFormat) := by
  refine ⟨fun env key iv plaintext hkey hlen hiv => ?_, fun env text q h => opened_of_decrypt h,
    fun text version iv authTag ciphertext hv => ⟨fun iv' authTag' ciphertext' hl => ?_, fun hone env => ?_⟩,
    fun text hv hl env => ?_⟩
  · have hv := versioned_joined iv (gcm.encipher key iv (toUtf8 plaintext)).2
      (gcm.encipher key iv (toUtf8 plaintext)).1
    have hl := legacy_joined iv (gcm.encipher key iv (toUtf8 plaintext)).2
      (gcm.encipher key iv (toUtf8 plaintext)).1
    have hreadv := decrypt_of_reads hgcm hkey hlen hiv rfl (Or.inr ⟨units "1", hv, by decide⟩)
    have hreadl := decrypt_of_reads hgcm hkey hlen hiv rfl (Or.inl hl)
    refine ⟨_, _, _, _, rfl, ?_, hv, hl, ?_, fun hwell => ?_⟩
    · rw [encrypt, bind_eq_ok]
      exact ⟨key, hkey, bind_eq_ok.2 ⟨(), checkKeyLength_ok_iff.2 hlen, rfl⟩⟩
    · exact List.forall_mem_cons.2 ⟨hreadv, List.forall_mem_singleton.2 hreadl⟩
    · rw [hreadv.2, toWellFormed_of_isWellFormed hwell]
  · unfold Versioned at hv
    unfold Legacy at hl
    rw [hv] at hl
    exact absurd (congrArg List.length hl) (show (4 : ℕ) ≠ 3 by decide)
  · rw [decrypt, parse_versioned hv, if_pos hone]
    rfl
  · rw [decrypt, parse_other hv hl]
    rfl

def sampleStream (bytes : List UInt8) : List UInt8 :=
  match bytes with
  | a :: b :: c :: bytes => (a ^^^ 0xB7) :: (b ^^^ 0x39) :: (c ^^^ 0x4B) :: bytes
  | [a, b] => [a ^^^ 0xB7, b ^^^ 0x39]
  | [a] => [a ^^^ 0xB7]
  | [] => []

def sampleTag (plaintext : List UInt8) : List UInt8 :=
  if plaintext = [0xEF, 0xBF, 0xBD] then
    [0x4B, 0xFE, 0xF4, 0xE7, 0x1F, 0x0A, 0x76, 0xCE, 0xBE, 0xFA, 0x9E, 0x9C, 0x82, 0x0A, 0x7A, 0x64]
  else [0x1A, 0x1E, 0x82, 0x28, 0xD9, 0xE5, 0x6F, 0x8D, 0xA8, 0xDA, 0x4D, 0xF3, 0x4D, 0xD6, 0xE7, 0x64]

/-- AES-256-GCM as far as the samples need it: the key of `sampleEnv`, the bytes 0 to 11 and the plaintexts
`hi` and U+FFFD. -/
def sampleGcm : Gcm where
  encipher _ _ plaintext := (sampleStream plaintext, sampleTag plaintext)
  decipher _ _ ciphertext authTag :=
    if authTag = sampleTag (sampleStream ciphertext) then some (sampleStream ciphertext) else none

theorem sampleGcm_lawful : sampleGcm.Lawful := by
  have hxor : ∀ x y : UInt8, x ^^^ y ^^^ y = x := fun x y => by
    rw [UInt8.xor_assoc, UInt8.xor_self, UInt8.xor_zero]
  have hstream : ∀ bytes, sampleStream (sampleStream bytes) = bytes := by
    intro bytes
    match bytes with
    | a :: b :: c :: bytes => simp only [sampleStream, hxor]
    | [a, b] => simp only [sampleStream, hxor]
    | [a] => simp only [sampleStream, hxor]
    | [] => rfl
  constructor
  · intro key iv plaintext _
    show (if sampleTag plaintext = sampleTag (sampleStream (sampleStream plaintext)) then
      some (sampleStream (sampleStream plaintext)) else none) = some plaintext
    rw [hstream, if_pos rfl]
  · intro key iv plaintext
    show (sampleTag plaintext).length = 16
    unfold sampleTag
    split <;> rfl

def sampleEnv : Option Text := some (units "aabbccddee11223344556677889900aabbccddee11223344556677889900aabb")

def sampleIv : List UInt8 := [0, 1, 2, 3, 4, 5, 6, 7, 8, 9, 10, 11]

theorem sample_roundTrip :
    sampleGcm.Lawful ∧
      encrypt sampleGcm sampleEnv sampleIv (units "hi") =
        .ok (units "v1:000102030405060708090a0b:1a1e8228d9e56f8da8da4df34dd6e764:df50") ∧
      ∃ text, encrypt sampleGcm sampleEnv sampleIv (units "hi") = .ok text ∧
        decrypt sampleGcm sampleEnv text = .ok (units "hi") := by
  refine ⟨sampleGcm_lawful, by decide +kernel, ?_⟩
  obtain ⟨_, _, text, _, _, htext, -, -, -, hread⟩ := (encryptedField_roundTrip sampleGcm_lawful).1 sampleEnv
    (fromHex (units "aabbccddee11223344556677889900aabbccddee11223344556677889900aabb")) sampleIv (units "hi")
    (by decide +kernel) (by decide +kernel) rfl
  exact ⟨text, htext, hread (by decide)⟩

/-- A lone surrogate is not read back, and a text with a version that only begins with 1, and with other
units behind its digits, is opened. -/
theorem lenient_text :
    encrypt sampleGcm sampleEnv sampleIv [0xD800] =
        .ok (units "v1:000102030405060708090a0b:4bfef4e71f0a76cebefa9e9c820a7a64:5886f6") ∧
      decrypt sampleGcm sampleEnv
        (units "v1:000102030405060708090a0b:4bfef4e71f0a76cebefa9e9c820a7a64:5886f6") = .ok [0xFFFD] ∧
      decrypt sampleGcm sampleEnv
        (units "v1abc:000102030405060708090a0bzz:1a1e8228d9e56f8da8da4df34dd6e764-:df50zz") =
          .ok (units "hi") := by
  refine ⟨?_, ?_, ?_⟩ <;> decide +kernel

end Ris.Crypto
