import DeXFG.Library.Base64
import DeXFG.Library.Utf8
import Mathlib.Logic.Equiv.Basic

/-!
# Encrypted wallets

A mnemonic is stored encrypted, with a tag over the ciphertext followed by the
initialization vector. Both are stored in Base64, as strings of any length.
-/
namespace DeXFG.Wallet
open Library

abbrev Bytes := List UInt8

abbrev FixedBytes (n : ℕ) := {bytes : Bytes // bytes.length = n}

abbrev Key := FixedBytes 32

abbrev Iv := FixedBytes 16

inductive EncryptionError where
  | unableToGenerateRandomBytes (reason : String)
  | aesCipherError (reason : String)
  deriving DecidableEq, Repr

inductive DecryptionError where
  | aesCipherError (reason : String)
  | decodeError (reason : String)
  | hmacError (reason : String)
  deriving DecidableEq, Repr

/-- How decryption fails: with an error of its own, or in a panic. -/
inductive DecryptionFault where
  | error (e : DecryptionError)
  | panic
  deriving DecidableEq, Repr

inductive EncryptionAlgorithm where
  /-- AES-256-CBC algorithm. -/
  | aes256Cbc
  deriving DecidableEq, Repr

structure Argon2Params where
  algorithm : String := "argon2id"
  version : ℕ := 19
  mCost : ℕ := 65536
  tCost : ℕ := 2
  pCost : ℕ := 1
  outputLen : ℕ := 32
  deriving DecidableEq, Repr

inductive KeyDerivationDetails where
  | argon2 (params : Argon2Params) (saltAes saltHmac : String)
  | slip0021 (encryptionPath authenticationPath : String)
  deriving DecidableEq, Repr

/-- Encrypted data with all that is needed to decrypt it, but the password. -/
structure EncryptedData where
  version : ℕ
  encryptionAlgorithm : EncryptionAlgorithm
  keyDerivationDetails : KeyDerivationDetails
  iv : String
  ciphertext : String
  tag : String
  deriving DecidableEq, Repr

/-- The cipher and the authentication code, and the texts of their errors. -/
structure Ciphers where
  /-- Encrypts the front of a buffer, with PKCS7 padding in the room after it. -/
  encryptPadded (key : Key) (iv : Iv) (buffer : Bytes) (msgLen : ℕ) : Option Bytes
  decryptPadded (key : Key) (iv : Iv) (buffer : Bytes) : Option Bytes
  hmacSha256 (key : Key) (message : Bytes) : FixedBytes 32
  padError : String
  unpadError : String
  macError : String
  decodeError : String

/-- With room for the padding a message is encrypted, and decrypted again. -/
def Ciphers.Correct (ciphers : Ciphers) : Prop :=
  ∀ key iv message room, 16 - message.length % 16 ≤ room.length →
    ∃ ciphertext, ciphers.encryptPadded key iv (message ++ room) message.length = some ciphertext ∧
      ciphers.decryptPadded key iv ciphertext = some message

namespace Standard

/-- The standard engine of the `base64` crate. -/
def encode (bytes : Bytes) : String := String.ofList (Base64.encode bytes)

def decode (ciphers : Ciphers) (string : String) : Except DecryptionError Bytes :=
  match Base64.decode string.toList with
  | some bytes => .ok bytes
  | none => .error (.decodeError ciphers.decodeError)

theorem decode_encode (ciphers : Ciphers) (bytes : Bytes) :
    decode ciphers (encode bytes) = .ok bytes := by
  rw [decode, encode, String.toList_ofList, Base64.decode_encode]

end Standard

def encryptedDataVersion : ℕ := 1

variable (ciphers : Ciphers) (keyAes keyHmac : Key)

/-- The record of a ciphertext, with its tag. -/
def authenticated (keyDerivationDetails : KeyDerivationDetails) (iv : Iv) (ciphertext : Bytes) :
    EncryptedData where
  version := encryptedDataVersion
  encryptionAlgorithm := .aes256Cbc
  keyDerivationDetails := keyDerivationDetails
  iv := Standard.encode iv.val
  ciphertext := Standard.encode ciphertext
  tag := Standard.encode (ciphers.hmacSha256 keyHmac (ciphertext ++ iv.val)).val

/-- `osRng` is what the generator of random bytes returns. -/
def encryptData (data : Bytes) (keyDerivationDetails : KeyDerivationDetails)
    (osRng : Except String Iv) : Except EncryptionError EncryptedData :=
  match osRng with
  | .error e => .error (.unableToGenerateRandomBytes e)
  | .ok iv =>
    let msgLen := data.length
    let bufferLen := msgLen + 16 - msgLen % 16
    let buffer := data ++ List.replicate (bufferLen - msgLen) 0
    match ciphers.encryptPadded keyAes iv buffer msgLen with
    | none => .error (.aesCipherError ciphers.padError)
    | some ciphertext => .ok (authenticated ciphers keyHmac keyDerivationDetails iv ciphertext)

/-- The initialization vector and the ciphertext, if the tag is theirs. -/
def verifyTag (encryptedData : EncryptedData) : Except DecryptionError (Bytes × Bytes) := do
  let iv ← Standard.decode ciphers encryptedData.iv
  let ciphertext ← Standard.decode ciphers encryptedData.ciphertext
  let tag ← Standard.decode ciphers encryptedData.tag
  if (ciphers.hmacSha256 keyHmac (ciphertext ++ iv)).val = tag then pure (iv, ciphertext)
  else throw (.hmacError ciphers.macError)

/-- A vector of another length than a block makes it panic. -/
def decryptCiphertext (iv ciphertext : Bytes) : Except DecryptionFault Bytes :=
  if h : iv.length = 16 then
    match ciphers.decryptPadded keyAes ⟨iv, h⟩ ciphertext with
    | some plaintext => .ok plaintext
    | none => .error (.error (.aesCipherError ciphers.unpadError))
  else .error .panic

def decryptData (encryptedData : EncryptedData) : Except DecryptionFault Bytes := do
  let (iv, ciphertext) ← (verifyTag ciphers keyHmac encryptedData).mapError .error
  decryptCiphertext ciphers keyAes iv ciphertext

/-! ## Mnemonics -/

inductive KeyDerivationError where
  | passwordHashingFailed (reason : String)
  | notSupported (reason : String)
  deriving DecidableEq, Repr

inductive MnemonicError where
  | keyDerivationError (e : KeyDerivationError)
  | decodeError
  | encryptionError (e : EncryptionError)
  | decryptionError (e : DecryptionError)
  | panic
  deriving DecidableEq, Repr

/-- Hashes a password with a salt, to as many bytes as the parameters say. -/
abbrev HashPassword := Argon2Params → (password salt : String) → Except String Bytes

def toKey (hash : Bytes) (reason : String) : Except KeyDerivationError Key :=
  if h : hash.length = 32 then .ok ⟨hash, h⟩ else .error (.passwordHashingFailed reason)

def deriveKeysForMnemonic (hashPassword : HashPassword) (password : String) :
    KeyDerivationDetails → Except KeyDerivationError (Key × Key)
  | .argon2 params saltAes saltHmac => do
    let aes ← (hashPassword params password saltAes).mapError .passwordHashingFailed
    let keyAes ← toKey aes "Invalid AES key length"
    let hmac ← (hashPassword params password saltHmac).mapError .passwordHashingFailed
    let keyHmac ← toKey hmac "Invalid HMAC key length"
    pure (keyAes, keyHmac)
  | .slip0021 _ _ =>
    .error (.notSupported "SLIP-0021 key derivation is not supported for mnemonic keys")

def encryptMnemonic (hashPassword : HashPassword) (mnemonic password : String)
    (saltAes saltHmac : String) (osRng : Except String Iv) :
    Except MnemonicError EncryptedData := do
  let keyDerivationDetails := .argon2 {} saltAes saltHmac
  let (keyAes, keyHmac) ←
    (deriveKeysForMnemonic hashPassword password keyDerivationDetails).mapError .keyDerivationError
  (encryptData ciphers keyAes keyHmac (Utf8.encode mnemonic) keyDerivationDetails osRng).mapError
    .encryptionError

def ofDecryptionFault : DecryptionFault → MnemonicError
  | .error e => .decryptionError e
  | .panic => .panic

def decryptMnemonic (hashPassword : HashPassword) (encryptedData : EncryptedData)
    (password : String) : Except MnemonicError String := do
  let (keyAes, keyHmac) ←
    (deriveKeysForMnemonic hashPassword password
      encryptedData.keyDerivationDetails).mapError .keyDerivationError
  let decrypted ← (decryptData ciphers keyAes keyHmac encryptedData).mapError ofDecryptionFault
  match Utf8.decode decrypted with
  | some mnemonic => pure mnemonic
  | none => throw .decodeError

/-! ## What a tag vouches for -/

variable {ciphers keyAes keyHmac} {data : Bytes} {details : KeyDerivationDetails} {iv : Iv}
  {record encryptedData : EncryptedData} {ivBytes ciphertext plaintext : Bytes}

theorem verifyTag_eq_ok : verifyTag ciphers keyHmac encryptedData = .ok (ivBytes, ciphertext) ↔
    Standard.decode ciphers encryptedData.iv = .ok ivBytes ∧
      Standard.decode ciphers encryptedData.ciphertext = .ok ciphertext ∧
      Standard.decode ciphers encryptedData.tag =
        .ok (ciphers.hmacSha256 keyHmac (ciphertext ++ ivBytes)).val := by
  rw [verifyTag]
  cases hiv : Standard.decode ciphers encryptedData.iv with
  | error e => simp [bind, Except.bind]
  | ok iv =>
    cases hciphertext : Standard.decode ciphers encryptedData.ciphertext with
    | error e => simp [bind, Except.bind]
    | ok text =>
      cases htag : Standard.decode ciphers encryptedData.tag with
      | error e => simp [bind, Except.bind]
      | ok tag =>
        simp only [bind, Except.bind, Except.ok.injEq]
        constructor
        · intro h
          split at h
          · rename_i heq
            cases h
            exact ⟨rfl, rfl, heq.symm⟩
          · cases h
        · intro h
          obtain ⟨rfl, rfl, rfl⟩ := h
          rw [if_pos rfl]
          rfl

theorem verifyTag_authenticated (ciphers : Ciphers) (keyHmac : Key) (details : KeyDerivationDetails)
    (iv : Iv) (ciphertext : Bytes) :
    verifyTag ciphers keyHmac (authenticated ciphers keyHmac details iv ciphertext) =
      .ok (iv.val, ciphertext) := by
  apply verifyTag_eq_ok.mpr
  simp only [authenticated, Standard.decode_encode, and_self]

theorem encryptData_eq (h : ciphers.Correct) (keyAes keyHmac : Key) (data : Bytes)
    (details : KeyDerivationDetails) (iv : Iv) :
    ∃ ciphertext, ciphers.decryptPadded keyAes iv ciphertext = some data ∧
      encryptData ciphers keyAes keyHmac data details (.ok iv) =
        .ok (authenticated ciphers keyHmac details iv ciphertext) := by
  have hroom : 16 - data.length % 16 ≤
      (List.replicate (data.length + 16 - data.length % 16 - data.length) (0 : UInt8)).length := by
    rw [List.length_replicate]
    omega
  obtain ⟨ciphertext, hencrypt, hdecrypt⟩ := h keyAes iv data _ hroom
  refine ⟨ciphertext, hdecrypt, ?_⟩
  simp only [encryptData, hencrypt]

theorem decryptData_of_ok
    (h : verifyTag ciphers keyHmac encryptedData = .ok (ivBytes, ciphertext)) :
    decryptData ciphers keyAes keyHmac encryptedData =
      decryptCiphertext ciphers keyAes ivBytes ciphertext := by
  rw [decryptData, h]
  rfl

theorem decryptData_of_error {e : DecryptionError}
    (h : verifyTag ciphers keyHmac encryptedData = .error e) :
    decryptData ciphers keyAes keyHmac encryptedData = .error (.error e) := by
  rw [decryptData, h]
  rfl

theorem decryptCiphertext_eq_panic :
    decryptCiphertext ciphers keyAes ivBytes ciphertext = .error .panic ↔ ivBytes.length ≠ 16 := by
  rw [decryptCiphertext]
  split
  · rename_i h
    split
    · simp [h]
    · simp [h]
  · rename_i h
    simp [h]

/-- What is encrypted is decrypted again. -/
theorem decryptData_encryptData (h : ciphers.Correct) (keyAes keyHmac : Key) (data : Bytes)
    (details : KeyDerivationDetails) (iv : Iv) :
    ∃ record, encryptData ciphers keyAes keyHmac data details (.ok iv) = .ok record ∧
      record.keyDerivationDetails = details ∧
      decryptData ciphers keyAes keyHmac record = .ok data := by
  obtain ⟨ciphertext, hdecrypt, hencrypt⟩ := encryptData_eq h keyAes keyHmac data details iv
  refine ⟨_, hencrypt, rfl, ?_⟩
  rw [decryptData_of_ok (verifyTag_authenticated _ _ _ _ _), decryptCiphertext, dif_pos iv.property]
  simp [hdecrypt]

/-- So is a mnemonic, with the same password. -/
theorem decryptMnemonic_encryptMnemonic (h : ciphers.Correct) {hashPassword : HashPassword}
    {mnemonic password saltAes saltHmac : String} {record : EncryptedData}
    (hencrypt : encryptMnemonic ciphers hashPassword mnemonic password saltAes saltHmac (.ok iv) =
      .ok record) :
    decryptMnemonic ciphers hashPassword record password = .ok mnemonic := by
  rw [encryptMnemonic] at hencrypt
  cases hkeys : deriveKeysForMnemonic hashPassword password (.argon2 {} saltAes saltHmac) with
  | error e =>
    rw [hkeys] at hencrypt
    cases hencrypt
  | ok keys =>
    obtain ⟨record', hok, hdetails, hdecrypt⟩ := decryptData_encryptData h keys.1 keys.2
      (Utf8.encode mnemonic) (.argon2 {} saltAes saltHmac) iv
    have heq : record' = record := by
      rw [hkeys] at hencrypt
      change (encryptData ciphers keys.1 keys.2 _ _ _).mapError _ = _ at hencrypt
      rw [hok] at hencrypt
      exact Except.ok.inj hencrypt
    subst heq
    rw [decryptMnemonic, hdetails, hkeys]
    change ((decryptData ciphers keys.1 keys.2 record').mapError _ >>= _) = _
    rw [hdecrypt]
    change (match Utf8.decode (Utf8.encode mnemonic) with
      | some mnemonic => _
      | none => _) = _
    rw [Utf8.decode_encode]
    rfl

/-! ## What has been tampered with -/

section Tampering

variable (ciphers keyAes keyHmac)

/-- A record that was encrypted with the keys. -/
def Produced (record : EncryptedData) : Prop :=
  ∃ data details iv, encryptData ciphers keyAes keyHmac data details (.ok iv) = .ok record

/-- A tag is right only for a string that the tag of a record was computed from. -/
def Unforged (issued : Set EncryptedData) (encryptedData : EncryptedData) : Prop :=
  ∀ iv ciphertext, verifyTag ciphers keyHmac encryptedData = .ok (iv, ciphertext) →
    ∃ record ∈ issued, ∃ iv' ciphertext',
      verifyTag ciphers keyHmac record = .ok (iv', ciphertext') ∧
      ciphertext ++ iv = ciphertext' ++ iv'

/-- Decryption does not panic, and succeeds only on what the records hold. -/
def Authentic (issued : Set EncryptedData) (encryptedData : EncryptedData) : Prop :=
  decryptData ciphers keyAes keyHmac encryptedData ≠ .error .panic ∧
  ∀ plaintext, decryptData ciphers keyAes keyHmac encryptedData = .ok plaintext →
    ∃ record ∈ issued, ∃ iv ciphertext,
      verifyTag ciphers keyHmac record = .ok (iv, ciphertext) ∧
      Standard.decode ciphers encryptedData.iv = .ok iv ∧
      Standard.decode ciphers encryptedData.ciphertext = .ok ciphertext

/-- Bytes were moved between the ciphertext and the initialization vector. -/
def Shifted (encryptedData : EncryptedData) : Prop :=
  ∃ iv ciphertext, Standard.decode ciphers encryptedData.iv = .ok iv ∧
    Standard.decode ciphers encryptedData.ciphertext = .ok ciphertext ∧
    Standard.decode ciphers encryptedData.tag =
      .ok (ciphers.hmacSha256 keyHmac (ciphertext ++ iv)).val ∧
    iv.length ≠ 16

end Tampering

theorem length_of_produced (h : ciphers.Correct)
    (hproduced : Produced ciphers keyAes keyHmac record)
    (hverify : verifyTag ciphers keyHmac record = .ok (ivBytes, ciphertext)) :
    ivBytes.length = 16 := by
  obtain ⟨data, details, iv, hencrypt⟩ := hproduced
  obtain ⟨ciphertext', _, hencrypt'⟩ := encryptData_eq h keyAes keyHmac data details iv
  cases hencrypt.symm.trans hencrypt'
  cases hverify.symm.trans (verifyTag_authenticated _ _ _ _ _)
  exact iv.property

/-- Encryption and decryption are inverse, and what was not produced by encryption is
refused without a panic, exactly if no bytes were moved out of or into the vector. -/
theorem authenticated_encryption_iff (ciphers : Ciphers) (keyAes keyHmac : Key)
    (issued : Set EncryptedData) (encryptedData : EncryptedData) (hciphers : ciphers.Correct)
    (hissued : ∀ record ∈ issued, Produced ciphers keyAes keyHmac record)
    (hunforged : Unforged ciphers keyHmac issued encryptedData) :
    ((∀ data details iv, ∃ record,
        encryptData ciphers keyAes keyHmac data details (.ok iv) = .ok record ∧
        decryptData ciphers keyAes keyHmac record = .ok data) ∧
      Authentic ciphers keyAes keyHmac issued encryptedData) ↔
    ¬ Shifted ciphers keyHmac encryptedData := by
  constructor
  · intro h hshifted
    obtain ⟨iv, ciphertext, hiv, hciphertext, htag, hlength⟩ := hshifted
    apply h.2.1
    rw [decryptData_of_ok (verifyTag_eq_ok.mpr ⟨hiv, hciphertext, htag⟩)]
    exact decryptCiphertext_eq_panic.mpr hlength
  · intro hshifted
    constructor
    · intro data details iv
      obtain ⟨record, hencrypt, _, hdecrypt⟩ :=
        decryptData_encryptData hciphers keyAes keyHmac data details iv
      exact ⟨record, hencrypt, hdecrypt⟩
    · cases hverify : verifyTag ciphers keyHmac encryptedData with
      | error e =>
        have hrun : decryptData ciphers keyAes keyHmac encryptedData = .error (.error e) :=
          decryptData_of_error hverify
        constructor
        · simp [hrun]
        · intro plaintext h
          rw [hrun] at h
          cases h
      | ok parts =>
        obtain ⟨iv, ciphertext⟩ := parts
        obtain ⟨hiv, hciphertext, htag⟩ := verifyTag_eq_ok.mp hverify
        have hlength : iv.length = 16 := by
          by_contra hne
          exact hshifted ⟨iv, ciphertext, hiv, hciphertext, htag, hne⟩
        constructor
        · rw [decryptData_of_ok hverify, Ne, decryptCiphertext_eq_panic]
          exact not_not.mpr hlength
        · intro plaintext _
          obtain ⟨record, hrecord, iv', ciphertext', hverify', heq⟩ :=
            hunforged iv ciphertext hverify
          have hlength' : iv'.length = 16 :=
            length_of_produced hciphers (hissued record hrecord) hverify'
          obtain ⟨rfl, rfl⟩ := List.append_inj' heq (hlength.trans hlength'.symm)
          exact ⟨record, hrecord, iv, ciphertext, hverify', hiv, hciphertext⟩

/-! ## A record with a byte moved -/

namespace Sample

theorem length_zeroKey : (List.replicate 32 (0 : UInt8)).length = 32 := List.length_replicate

def zeroKey : Key := ⟨List.replicate 32 0, length_zeroKey⟩

def zeroIv : Iv := ⟨List.replicate 16 0, rfl⟩

def message : Bytes := [115, 101, 101, 100]

/-- The message under AES with the key and the vector. -/
def sealedMessage : Bytes :=
  [205, 155, 213, 133, 123, 218, 147, 154, 3, 254, 4, 4, 50, 170, 23, 74]

def tag : FixedBytes 32 :=
  ⟨[0, 108, 0, 192, 46, 135, 78, 159, 144, 93, 3, 74, 125, 31, 48, 149, 15, 159, 209, 244, 95, 182,
    188, 140, 71, 141, 152, 151, 203, 212, 225, 22], rfl⟩

def padded (message : Bytes) : Bytes :=
  let k := 16 - message.length % 16
  message ++ List.replicate k (.ofNat k)

def unpadded (buffer : Bytes) : Option Bytes :=
  buffer.getLast?.map fun k => buffer.take (buffer.length - k.toNat)

/-- The one block for which the cipher is that of AES. -/
def block (key : Key) (iv : Iv) : Equiv.Perm Bytes :=
  if key = zeroKey ∧ iv = zeroIv then Equiv.swap (padded message) sealedMessage
  else Equiv.refl Bytes

def sampleCiphers : Ciphers where
  encryptPadded key iv buffer msgLen :=
    if msgLen + (16 - msgLen % 16) ≤ buffer.length then
      some (block key iv (padded (buffer.take msgLen)))
    else none
  decryptPadded key iv buffer := unpadded ((block key iv).symm buffer)
  hmacSha256 key message :=
    if key = zeroKey ∧ message = sealedMessage ++ zeroIv.val then tag
    else ⟨List.replicate 32 0, length_zeroKey⟩
  padError := "Padding error"
  unpadError := "Unpad error"
  macError := "MAC tag mismatch"
  decodeError := "Invalid padding"

theorem unpadded_padded (message : Bytes) : unpadded (padded message) = some message := by
  have hlt : 16 - message.length % 16 < 256 := by omega
  have hpos : 16 - message.length % 16 ≠ 0 := by omega
  have hlast : (padded message).getLast? = some (.ofNat (16 - message.length % 16)) := by
    rw [padded, List.getLast?_append_of_ne_nil, List.getLast?_replicate, if_neg hpos]
    simpa using hpos
  have htoNat : (UInt8.ofNat (16 - message.length % 16)).toNat = 16 - message.length % 16 :=
    UInt8.toNat_ofNat_of_lt' hlt
  rw [unpadded, hlast, Option.map_some, htoNat]
  simp [padded]

theorem sampleCiphers_correct : sampleCiphers.Correct := by
  intro key iv message room h
  refine ⟨block key iv (padded message), ?_, ?_⟩
  · have hroom : message.length + (16 - message.length % 16) ≤ (message ++ room).length := by
      rw [List.length_append]
      omega
    simp only [sampleCiphers, if_pos hroom, List.take_left']
  · simp only [sampleCiphers, Equiv.symm_apply_apply]
    exact unpadded_padded message

def sealedRecord : EncryptedData where
  version := 1
  encryptionAlgorithm := .aes256Cbc
  keyDerivationDetails := .argon2 {} "c2FsdA" "c2FsdA"
  iv := "AAAAAAAAAAAAAAAAAAAAAA=="
  ciphertext := "zZvVhXvak5oD/gQEMqoXSg=="
  tag := "AGwAwC6HTp+QXQNKfR8wlQ+f0fRftryMR42Yl8vU4RY="

/-- The first byte of the vector stands at the end of the ciphertext. -/
def shiftedRecord : EncryptedData :=
  { sealedRecord with iv := "AAAAAAAAAAAAAAAAAAAA", ciphertext := "zZvVhXvak5oD/gQEMqoXSgA=" }

theorem encode_iv : Standard.encode zeroIv.val = sealedRecord.iv := by
  simp only [Standard.encode, zeroIv, List.replicate, Base64.encode, Base64.first, Base64.between,
    Base64.third, Base64.symbol, Base64.fourth, Base64.alphabet_eq]
  rfl

theorem encode_sealedMessage : Standard.encode sealedMessage = sealedRecord.ciphertext := by
  simp only [Standard.encode, sealedMessage, Base64.encode, Base64.first, Base64.between,
    Base64.third, Base64.symbol, Base64.fourth, Base64.alphabet_eq]
  rfl

theorem encode_tag : Standard.encode tag.val = sealedRecord.tag := by
  simp only [Standard.encode, tag, Base64.encode, Base64.first, Base64.between,
    Base64.third, Base64.symbol, Base64.fourth, Base64.alphabet_eq]
  rfl

theorem encode_shiftedIv : Standard.encode (zeroIv.val.take 15) = shiftedRecord.iv := by
  simp only [Standard.encode, zeroIv, List.replicate, List.take, Base64.encode, Base64.first,
    Base64.between, Base64.third, Base64.symbol, Base64.fourth, Base64.alphabet_eq]
  rfl

theorem encode_shiftedMessage :
    Standard.encode (sealedMessage ++ [0]) = shiftedRecord.ciphertext := by
  simp only [Standard.encode, sealedMessage, List.cons_append, List.nil_append, Base64.encode,
    Base64.first, Base64.between, Base64.third, Base64.symbol, Base64.fourth, Base64.alphabet_eq]
  rfl

theorem hmac_sealedMessage :
    sampleCiphers.hmacSha256 zeroKey (sealedMessage ++ zeroIv.val) = tag := by
  simp [sampleCiphers]

theorem encryptData_message :
    encryptData sampleCiphers zeroKey zeroKey message (.argon2 {} "c2FsdA" "c2FsdA") (.ok zeroIv) =
      .ok sealedRecord := by
  have hblock : block zeroKey zeroIv (padded message) = sealedMessage := by
    rw [block, if_pos ⟨rfl, rfl⟩, Equiv.swap_apply_left]
  have hencrypted : sampleCiphers.encryptPadded zeroKey zeroIv
      (message ++ List.replicate 12 0) message.length = some sealedMessage := by
    rw [← hblock]
    rfl
  have hbuffer : message.length + 16 - message.length % 16 - message.length = 12 := rfl
  simp only [encryptData, hbuffer, hencrypted, authenticated, hmac_sealedMessage, encode_iv,
    encode_sealedMessage, encode_tag]
  rfl

theorem produced_sealedRecord : Produced sampleCiphers zeroKey zeroKey sealedRecord :=
  ⟨message, .argon2 {} "c2FsdA" "c2FsdA", zeroIv, encryptData_message⟩

/-- A record is verified with what its strings encode. -/
theorem verifyTag_of_encoded {record : EncryptedData} {iv ciphertext : Bytes}
    (hiv : Standard.encode iv = record.iv)
    (hciphertext : Standard.encode ciphertext = record.ciphertext)
    (htag : Standard.encode tag.val = record.tag)
    (hmac : ciphertext ++ iv = sealedMessage ++ zeroIv.val) :
    verifyTag sampleCiphers zeroKey record = .ok (iv, ciphertext) := by
  rw [verifyTag_eq_ok, ← hiv, ← hciphertext, ← htag, hmac, hmac_sealedMessage]
  exact ⟨Standard.decode_encode _ _, Standard.decode_encode _ _, Standard.decode_encode _ _⟩

theorem verifyTag_sealedRecord :
    verifyTag sampleCiphers zeroKey sealedRecord = .ok (zeroIv.val, sealedMessage) :=
  verifyTag_of_encoded encode_iv encode_sealedMessage encode_tag rfl

theorem verifyTag_shiftedRecord :
    verifyTag sampleCiphers zeroKey shiftedRecord =
      .ok (zeroIv.val.take 15, sealedMessage ++ [0]) :=
  verifyTag_of_encoded encode_shiftedIv encode_shiftedMessage encode_tag rfl

theorem unforged_shiftedRecord :
    Unforged sampleCiphers zeroKey {sealedRecord} shiftedRecord := by
  intro iv ciphertext h
  cases h.symm.trans verifyTag_shiftedRecord
  exact ⟨sealedRecord, rfl, _, _, verifyTag_sealedRecord, rfl⟩

theorem unforged_sealedRecord :
    Unforged sampleCiphers zeroKey {sealedRecord} sealedRecord := by
  intro iv ciphertext h
  cases h.symm.trans verifyTag_sealedRecord
  exact ⟨sealedRecord, rfl, _, _, verifyTag_sealedRecord, rfl⟩

theorem not_shifted_sealedRecord : ¬ Shifted sampleCiphers zeroKey sealedRecord := by
  intro h
  obtain ⟨iv, ciphertext, hiv, hciphertext, htag, hlength⟩ := h
  cases (verifyTag_eq_ok.mpr ⟨hiv, hciphertext, htag⟩).symm.trans verifyTag_sealedRecord
  exact hlength zeroIv.property

end Sample

open Sample

theorem authenticated_encryption_sample :
    Authentic sampleCiphers zeroKey zeroKey {sealedRecord} sealedRecord := by
  have hissued : ∀ record ∈ ({sealedRecord} : Set EncryptedData),
      Produced sampleCiphers zeroKey zeroKey record := by
    intro record hrecord
    cases hrecord
    exact produced_sealedRecord
  exact ((authenticated_encryption_iff sampleCiphers zeroKey zeroKey {sealedRecord} sealedRecord
    sampleCiphers_correct hissued unforged_sealedRecord).mpr not_shifted_sealedRecord).2

theorem decryptMnemonic_encryptMnemonic_sealed :
    decryptMnemonic sampleCiphers (fun _ _ _ => .ok zeroKey.val) sealedRecord "" = .ok "seed" := by
  have hmessage : Utf8.encode "seed" = message := by decide
  have hencrypt : encryptMnemonic sampleCiphers (fun _ _ _ => .ok zeroKey.val) "seed" ""
      "c2FsdA" "c2FsdA" (.ok zeroIv) = .ok sealedRecord := by
    rw [encryptMnemonic, hmessage]
    exact congrArg (Except.mapError MnemonicError.encryptionError) encryptData_message
  exact decryptMnemonic_encryptMnemonic sampleCiphers_correct hencrypt

/-- One byte moved out of the vector makes decryption panic, with the tag still right. -/
theorem shifted_record_panics :
    sampleCiphers.Correct ∧ Produced sampleCiphers zeroKey zeroKey sealedRecord ∧
      Unforged sampleCiphers zeroKey {sealedRecord} shiftedRecord ∧
      ¬ Authentic sampleCiphers zeroKey zeroKey {sealedRecord} shiftedRecord := by
  refine ⟨sampleCiphers_correct, produced_sealedRecord, unforged_shiftedRecord, ?_⟩
  intro h
  apply h.1
  rw [decryptData_of_ok verifyTag_shiftedRecord]
  exact decryptCiphertext_eq_panic.mpr (by decide)

end DeXFG.Wallet
