import Mathlib.Data.Finset.Image

/-!
# Outputs and their owners

The parts of a UTXO transaction that the wallet keeps track of. Amounts are in
satoshis.
-/
namespace DeXFG.Utxo

abbrev Bytes := List UInt8

theorem length_zeros20 : (List.replicate 20 (0 : UInt8)).length = 20 := List.length_replicate

theorem length_zeros32 : (List.replicate 32 (0 : UInt8)).length = 32 := List.length_replicate

theorem length_zeros64 : (List.replicate 64 (0 : UInt8)).length = 64 := List.length_replicate

abbrev H160 := {bytes : Bytes // bytes.length = 20}

abbrev H256 := {bytes : Bytes // bytes.length = 32}

/-- The types of the `primitives` crate that hold a fixed number of bytes. -/
abbrev FixedBytes (n : ℕ) := {bytes : Bytes // bytes.length = n}

abbrev H64 := FixedBytes 8

abbrev H512 := FixedBytes 64

abbrev OutCipherText := FixedBytes 80

abbrev ZkProofSapling := FixedBytes 192

abbrev ZkProof := FixedBytes 296

abbrev EncCipherText := FixedBytes 580

abbrev CipherText := FixedBytes 601

/-- Script code as bytes. -/
abbrev Script := Bytes

/-- A public key, compressed or not, as it is serialized. -/
abbrev Public := {bytes : Bytes // bytes.length = 33 ∨ bytes.length = 65}

/-- The hash functions of the `bitcrypto` crate that come from elsewhere. -/
structure Bitcrypto where
  sha256 : Bytes → H256
  ripemd160 : Bytes → H160

namespace Bitcrypto

def dhash160 (crypto : Bitcrypto) (input : Bytes) : H160 :=
  crypto.ripemd160 (crypto.sha256 input).val

def dhash256 (crypto : Bitcrypto) (input : Bytes) : H256 :=
  crypto.sha256 (crypto.sha256 input).val

end Bitcrypto

structure OutPoint where
  hash : H256
  index : UInt32
  deriving DecidableEq, Repr

structure TransactionOutput where
  value : ℕ
  scriptPubkey : Script
  deriving DecidableEq, Repr

/-- Unspent info required to build transactions. -/
structure UnspentInfo where
  outpoint : OutPoint
  value : ℕ
  /-- The block the transaction was mined in, none if it is not mined yet. -/
  height : Option ℕ
  /-- The script pubkey of the UTXO. -/
  script : Script
  deriving DecidableEq, Repr

end DeXFG.Utxo
