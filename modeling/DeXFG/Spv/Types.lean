import DeXFG.Utxo.BlockHeader

/-!
# Errors of header and inclusion checks
-/
namespace DeXFG.Spv
open Utxo

inductive BlockHeaderStorageError where
  | getFromStorageError (coin reason : String)
  | other (reason : String)
  deriving DecidableEq, Repr

inductive NextBlockBitsError where
  | storageError (e : BlockHeaderStorageError)
  | noSuchBlockHeader (coin : String) (height : ℕ)
  deriving DecidableEq, Repr

inductive SPVError where
  | initialValidationError (reason : String)
  | readOverrun
  | badCompactInt
  | malformattedOutput
  | unexpectedDifficultyChange
  /-- Header does not meet its own difficulty target. -/
  | insufficientWork
  | difficultyCalculationError (e : NextBlockBitsError)
  | invalidVin
  | invalidVout
  | badMerkleProof
  | headerStorageError (e : BlockHeaderStorageError)
  | wrongRetargetHeight (coin : String) (expectedHeight : ℕ)
  | internal (reason : String)
  | parentHashMismatch (coin : String) (mismatchedBlockHeight : ℕ)
  deriving DecidableEq, Repr

end DeXFG.Spv
