import DeXFG.Spv.BitcoinRule
import DeXFG.Spv.HeaderSync

/-!
# Reorganizations

Each round goes back before the header that did not follow. Where answers are no longer than what
was asked for, the rounds end: the headers from some height on are dropped, and those that the
server has from there follow what is left; or nothing is changed.
-/
namespace DeXFG.Spv
open Utxo

variable {crypto : Bitcrypto} {coin : String} {conf : SPVConf}

/-! ## Where a list does not link -/

section Mismatch

variable {storage : BlockHeaderStorageOps} {last : SPVBlockHeader} {headers : List BlockHeader}
  {other : String} {height : ℕ}

theorem validateBits_ne_mismatch {params : BlockHeaderValidationParams} {header : BlockHeader} :
    validateBits crypto coin storage params last header ≠
      some (.error (.parentHashMismatch other height)) := by
  rw [validateBits]
  split
  · simp
  · cases params.difficultyAlgorithm with
    | none => simp
    | some algorithm =>
      simp only
      cases nextBlockBits crypto coin storage header.time last algorithm with
      | none => simp
      | some result =>
        cases result with
        | error e => simp
        | ok bits =>
          simp only
          split <;> simp

theorem mismatch_of_validateFrom
    (h : validateFrom crypto coin storage conf last headers =
      some (.error (.parentHashMismatch other height))) :
    last.height < height ∧ height ≤ last.height + headers.length := by
  induction headers generalizing last with
  | nil => simp [validateFrom] at h
  | cons header headers ih =>
    rw [validateFrom] at h
    split at h
    · simp only [Option.some.injEq, Except.error.injEq, SPVError.parentHashMismatch.injEq] at h
      rw [← h.2, List.length_cons]
      omega
    · split at h
      · cases h
      · rename_i e hbits
        cases hparams : conf.validationParams with
        | none => simp [hparams] at hbits
        | some params =>
          cases h
          simp only [hparams, Option.map_some, Option.getD_some] at hbits
          exact absurd hbits validateBits_ne_mismatch
      · have hlater := ih h
        simp only [SPVBlockHeader.fromBlockHeaderAndHeight] at hlater
        rw [List.length_cons]
        omega

theorem mismatch_of_validateHeaders {lastHeight : ℕ}
    (h : validateHeaders crypto coin storage lastHeight headers conf =
      some (.error (.parentHashMismatch other height))) :
    lastHeight < height ∧ height ≤ lastHeight + headers.length := by
  rw [validateHeaders, lastValidatedHeader] at h
  split_ifs at h with hstart
  · rw [hstart]
    exact mismatch_of_validateFrom h
  · cases hget : storage.getBlockHeader lastHeight with
    | error e => simp [hget] at h
    | ok found =>
      cases found with
      | none => simp [hget] at h
      | some header =>
        simp only [hget] at h
        exact mismatch_of_validateFrom h

end Mismatch

theorem eq_ok_of_retrieveHeadersFrom {fromHeight toHeight : ℕ}
    {answer : Except HeadersError (List BlockHeader)} {headers : List BlockHeader}
    (h : retrieveHeadersFrom fromHeight toHeight answer = .ok headers) :
    answer = .ok headers ∧ 0 < fromHeight ∧ fromHeight ≤ toHeight := by
  by_cases hguard : fromHeight = 0 ∨ toHeight < fromHeight
  · simp [retrieveHeadersFrom, hguard] at h
  · have hanswer : retrieveHeadersFrom fromHeight toHeight answer = _ := if_neg hguard
    rw [hanswer] at h
    split at h
    · cases h
    · cases h
    · exact ⟨h, by omega, by omega⟩

/-- What is retrieved is one of the answers. -/
theorem mem_of_tryToRetrieveHeaders {server : String} {fromHeight toHeight attempts : ℕ}
    {chunkSize chunkSize' : ℕ} {answers : List (Except HeadersError (List BlockHeader))}
    {headers : List BlockHeader}
    (h : tryToRetrieveHeaders server fromHeight toHeight attempts chunkSize answers =
      (.ok headers, chunkSize')) :
    .ok headers ∈ answers ∧ 0 < fromHeight ∧ fromHeight ≤ toHeight := by
  induction answers generalizing attempts chunkSize with
  | nil => simp [tryToRetrieveHeaders] at h
  | cons answer answers ih =>
    have hlater : ∀ {attempts chunkSize : ℕ},
        tryToRetrieveHeaders server fromHeight toHeight attempts chunkSize answers =
          (.ok headers, chunkSize') →
        .ok headers ∈ answer :: answers ∧ 0 < fromHeight ∧ fromHeight ≤ toHeight :=
      fun hrest => ⟨List.mem_cons_of_mem _ (ih hrest).1, (ih hrest).2⟩
    rw [tryToRetrieveHeaders] at h
    split at h
    · rename_i retrieved hretrieved
      simp only [Prod.mk.injEq, Except.ok.injEq] at h
      obtain ⟨hanswer, hbounds⟩ := eq_ok_of_retrieveHeadersFrom hretrieved
      rw [hanswer, h.1]
      exact ⟨List.mem_cons_self, hbounds⟩
    · split at h
      · simp at h
      · exact hlater h
    · split at h
      · exact hlater h
      · simp at h
    · simp at h

/-! ## The rounds -/

section Rounds

variable {it : Iteration} {server : String} {lastHeight retrieveFrom retrieveTo n fuel : ℕ}
  {s : SyncState}

/-- The rows from some height on are dropped, and headers that the server has from there follow
the rows that are left. -/
def DropsFork (crypto : Bitcrypto) (coin : String) (conf : SPVConf) (it : Iteration)
    (server : String) (lastHeight : ℕ) (table table' : HeaderTable) : Prop :=
  ∃ n fromHeight toHeight headers,
    conf.startingBlockHeader.height < fromHeight ∧
    .ok headers ∈ it.answers server n fromHeight toHeight ∧
    validateHeaders crypto coin (table.ops it.faults) (fromHeight - 1) headers conf =
      some (.ok ()) ∧
    table' = table.removeHeaders fromHeight lastHeight

/-- What the rounds end with: the table without the fork, or the table as it was. -/
def Resolved (crypto : Bitcrypto) (coin : String) (conf : SPVConf) (it : Iteration)
    (server : String) (lastHeight : ℕ) (s : SyncState) :
    SyncState × Option (Except PossibleChainReorgError Unit) → Prop
  | (s', some (.ok ())) => DropsFork crypto coin conf it server lastHeight s.table s'.table
  | (s', _) => s'.table = s.table

end Rounds

/-- A server that has one header for every request. -/
def oneHeader : Iteration where
  getServersWithLatestBlockCount := .ok (["electrum"], 2020)
  blockchainBlockHeader := .ok (TwoRetargets.header 0)
  index := 0
  answers _ _ fromHeight toHeight :=
    if fromHeight ≤ toHeight then [.ok [TwoRetargets.header 0]] else []
  faults := .none

end DeXFG.Spv
