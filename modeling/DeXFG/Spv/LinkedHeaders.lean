import DeXFG.Spv.BitcoinRule
import DeXFG.Spv.HeaderSync

/-!
# The stored headers are linked

Whatever the servers answer and whichever operations of the storage fail, each stored header names
the hash of the one stored below it, and has its bits unless a retarget is between the two.
-/
namespace DeXFG.Spv
open Utxo Library

variable {crypto : Bitcrypto} {coin : String} {conf : SPVConf}

/-- The bits are checked by the mainnet rule. -/
def ChecksBits (conf : SPVConf) : Prop :=
  ∃ params, conf.validationParams = some params ∧ params.difficultyCheck = true ∧
    params.constantDifficulty = false ∧ params.difficultyAlgorithm = some .bitcoinMainnet

/-- A header follows one with a hash and bits. -/
structure Links (conf : SPVConf) (height : ℕ) (hash : H256) (bits : UInt32)
    (header : BlockHeader) : Prop where
  hash : header.previousHeaderHash = hash
  bits : ChecksBits conf → height ≠ 0 → isRetargetHeight (height + 1) = false →
    header.bits.toU32 = bits

/-- The invariant of the table. -/
structure LinkedTable (crypto : Bitcrypto) (conf : SPVConf) (table : HeaderTable) : Prop where
  unique : ∀ height header header', (height, header) ∈ table → (height, header') ∈ table →
    header = header'
  starting_le : ∀ height header, (height, header) ∈ table →
    conf.startingBlockHeader.height ≤ height
  starting : ∀ header, (conf.startingBlockHeader.height, header) ∈ table →
    header.hash crypto = conf.startingBlockHeader.hash ∧
      header.bits.toU32 = conf.startingBlockHeader.bits.toU32
  linked : ∀ height header header', (height, header) ∈ table → (height + 1, header') ∈ table →
    Links conf height (header.hash crypto) header.bits.toU32 header'

namespace LinkedTable

variable {table table' : HeaderTable}

theorem nil : LinkedTable crypto conf [] where
  unique := by simp
  starting_le := by simp
  starting := by simp
  linked := by simp

/-- Rows may be removed. -/
theorem mono (h : LinkedTable crypto conf table) (hsub : ∀ row ∈ table', row ∈ table) :
    LinkedTable crypto conf table' where
  unique height header header' hmem hmem' :=
    h.unique height header header' (hsub _ hmem) (hsub _ hmem')
  starting_le height header hmem := h.starting_le height header (hsub _ hmem)
  starting header hmem := h.starting header (hsub _ hmem)
  linked height header header' hmem hmem' :=
    h.linked height header header' (hsub _ hmem) (hsub _ hmem')

theorem removeHeaders (h : LinkedTable crypto conf table) (fromHeight toHeight : ℕ) :
    LinkedTable crypto conf (table.removeHeaders fromHeight toHeight) :=
  h.mono fun _ => List.mem_of_mem_filter

end LinkedTable

/-! ## The headers that are added -/

/-- All rows are up to the header, and the last of them is like it. -/
structure EndsWith (crypto : Bitcrypto) (table : HeaderTable) (last : SPVBlockHeader) : Prop where
  le : ∀ height header, (height, header) ∈ table → height ≤ last.height
  like : ∀ header, (last.height, header) ∈ table →
    header.hash crypto = last.hash ∧ header.bits.toU32 = last.bits.toU32

section Add

variable {table : HeaderTable} {last : SPVBlockHeader} {header : BlockHeader}
  {headers : List BlockHeader}

theorem mem_insertRow {row other : ℕ × BlockHeader} :
    other ∈ table.insertRow crypto row ↔
      other = row ∨
        (other ∈ table ∧ other.1 ≠ row.1 ∧ other.2.hash crypto ≠ row.2.hash crypto) := by
  simp [HeaderTable.insertRow]

theorem EndsWith.insertRow (h : EndsWith crypto table last) :
    EndsWith crypto (table.insertRow crypto (last.height + 1, header))
      (last.after crypto header) where
  le height other hmem := by
    rw [mem_insertRow] at hmem
    cases hmem with
    | inl hnew =>
      cases hnew
      exact le_rfl
    | inr hold => exact (h.le height other hold.1).trans (Nat.le_succ _)
  like other hmem := by
    rw [mem_insertRow] at hmem
    cases hmem with
    | inl hnew =>
      cases hnew
      exact ⟨rfl, rfl⟩
    | inr hold => exact absurd rfl hold.2.1

theorem LinkedTable.insertRow (h : LinkedTable crypto conf table)
    (hends : EndsWith crypto table last) (hstart : conf.startingBlockHeader.height ≤ last.height)
    (hlinks : Links conf last.height last.hash last.bits.toU32 header) :
    LinkedTable crypto conf (table.insertRow crypto (last.height + 1, header)) where
  unique height first second hfirst hsecond := by
    rw [mem_insertRow] at hfirst hsecond
    cases hfirst with
    | inl hnew =>
      cases hnew
      cases hsecond with
      | inl hsame =>
        cases hsame
        rfl
      | inr hold => exact absurd rfl hold.2.1
    | inr hold =>
      cases hsecond with
      | inl hnew =>
        cases hnew
        exact absurd rfl hold.2.1
      | inr hold' => exact h.unique height first second hold.1 hold'.1
  starting_le height other hmem := by
    rw [mem_insertRow] at hmem
    cases hmem with
    | inl hnew =>
      cases hnew
      exact hstart.trans (Nat.le_succ _)
    | inr hold => exact h.starting_le height other hold.1
  starting other hmem := by
    rw [mem_insertRow] at hmem
    cases hmem with
    | inl hnew =>
      have hheight : conf.startingBlockHeader.height = last.height + 1 := congrArg Prod.fst hnew
      omega
    | inr hold => exact h.starting other hold.1
  linked height first second hfirst hsecond := by
    rw [mem_insertRow] at hfirst hsecond
    cases hfirst with
    | inl hnew =>
      have hheight : height = last.height + 1 := congrArg Prod.fst hnew
      cases hsecond with
      | inl hnew' =>
        have hheight' : height + 1 = last.height + 1 := congrArg Prod.fst hnew'
        omega
      | inr hold =>
        have hle := hends.le _ second hold.1
        omega
    | inr hold =>
      cases hsecond with
      | inl hnew =>
        have hheight : height = last.height := Nat.succ_injective (congrArg Prod.fst hnew)
        subst hheight
        cases hnew
        obtain ⟨hhash, hbits⟩ := hends.like first hold.1
        rw [hhash, hbits]
        exact hlinks
      | inr hold' => exact h.linked height first second hold.1 hold'.1

/-- Headers that follow each other are added one after the other. -/
theorem LinkedTable.addBlockHeaders (h : LinkedTable crypto conf table)
    (hends : EndsWith crypto table last) (hstart : conf.startingBlockHeader.height ≤ last.height)
    (hfollows : Follows crypto
      (fun last header => Links conf last.height last.hash last.bits.toU32 header) last headers) :
    LinkedTable crypto conf
      (table.addBlockHeaders crypto (blockRegistry (last.height + 1) headers)) := by
  induction headers generalizing table last with
  | nil => exact h
  | cons header headers ih =>
    rw [follows_cons] at hfollows
    exact ih (h.insertRow hends hstart hfollows.2.1) hends.insertRow (Nat.le_succ_of_le hstart)
      hfollows.2.2

end Add

/-! ## The headers that are accepted -/

section Accepted

variable {storage : BlockHeaderStorageOps} {last : SPVBlockHeader} {headers : List BlockHeader}

/-- Off a retarget height the bits that are accepted are those of the header before. -/
theorem toU32_eq_of_accepted {header : BlockHeader}
    (h : BitsAccepted crypto coin storage conf last header) (hchecks : ChecksBits conf)
    (hheight : last.height ≠ 0) (hplain : isRetargetHeight (last.height + 1) = false) :
    header.bits.toU32 = last.bits.toU32 := by
  obtain ⟨params, hparams, hcheck, hconstant, halgorithm⟩ := hchecks
  have haccepted := (validateBits_mainnet hcheck hconstant halgorithm).mp (h params hparams)
  rw [btcMainnetNextBlockBits, if_neg hheight, hplain] at haccepted
  have hbits : last.bits = header.bits := by simpa using haccepted
  rw [hbits]

theorem links_of_validateFrom
    (h : validateFrom crypto coin storage conf last headers = some (.ok ())) :
    Follows crypto
      (fun last header => Links conf last.height last.hash last.bits.toU32 header) last headers := by
  rw [validateFrom_eq_ok] at h
  induction headers generalizing last with
  | nil => simp
  | cons header headers ih =>
    rw [follows_cons] at h ⊢
    exact ⟨h.1, ⟨h.1, toU32_eq_of_accepted h.2.1⟩, ih h.2.2⟩

end Accepted

/-! ## The turns of the loop -/

section Turns

variable {s : SyncState} {it : Iteration} {table : HeaderTable} {height : ℕ}
  {headers : List BlockHeader}

theorem mem_of_getBlockHeader {header : BlockHeader}
    (h : table.getBlockHeader height = some header) : (height, header) ∈ table := by
  rw [HeaderTable.getBlockHeader, Option.map_eq_some_iff] at h
  obtain ⟨row, hfind, hrow⟩ := h
  have hheight : row.1 = height := by simpa using List.find?_some hfind
  have hmem := List.mem_of_find?_eq_some hfind
  rw [← hheight, ← hrow]
  exact hmem

theorem le_getLastBlockHeight {header : BlockHeader} {last : ℕ}
    (h : table.getLastBlockHeight = some last) (hmem : (height, header) ∈ table) :
    height ≤ last :=
  (List.max?_eq_some_iff.mp h).2 height (List.mem_map_of_mem hmem)

theorem exists_mem_of_getLastBlockHeight {last : ℕ} (h : table.getLastBlockHeight = some last) :
    ∃ header, (last, header) ∈ table := by
  obtain ⟨row, hmem, hrow⟩ := List.mem_map.mp (List.max?_eq_some_iff.mp h).1
  exact ⟨row.2, hrow ▸ hmem⟩

/-- What passes the check can be added. -/
theorem LinkedTable.of_validateHeaders (h : LinkedTable crypto conf table)
    (hle : ∀ other header, (other, header) ∈ table → other ≤ height)
    (hstart : conf.startingBlockHeader.height ≤ height)
    (hok : validateHeaders crypto coin (table.ops it.faults) height headers conf =
      some (.ok ())) :
    LinkedTable crypto conf
      (table.addBlockHeaders crypto (blockRegistry (height + 1) headers)) := by
  rw [validateHeaders, lastValidatedHeader] at hok
  by_cases hfirst : height = conf.startingBlockHeader.height
  · rw [if_pos hfirst] at hok
    subst hfirst
    exact h.addBlockHeaders ⟨hle, h.starting⟩ le_rfl (links_of_validateFrom hok)
  · rw [if_neg hfirst] at hok
    simp only [HeaderTable.ops] at hok
    cases hfault : it.faults.getBlockHeader height with
    | some e => simp [hfault] at hok
    | none =>
      cases hget : table.getBlockHeader height with
      | none => simp [hfault, hget] at hok
      | some header =>
        simp only [hfault, hget] at hok
        have hmem := mem_of_getBlockHeader hget
        have hlike : ∀ other, (height, other) ∈ table →
            other.hash crypto = header.hash crypto ∧ other.bits.toU32 = header.bits.toU32 := by
          intro other hother
          rw [h.unique height other header hother hmem]
          exact ⟨rfl, rfl⟩
        exact @addBlockHeaders crypto conf table
          (SPVBlockHeader.fromBlockHeaderAndHeight crypto header height) headers h ⟨hle, hlike⟩
          hstart (links_of_validateFrom hok)

theorem starting_of_validate {header : BlockHeader}
    (h : conf.validateRpcStartingHeader crypto height header = .ok ()) :
    header.hash crypto = conf.startingBlockHeader.hash ∧
      header.bits.toU32 = conf.startingBlockHeader.bits.toU32 := by
  simp only [SPVConf.validateRpcStartingHeader] at h
  split_ifs at h with hbits hhash htime
  exact ⟨not_not.mp hhash, not_not.mp hbits⟩

/-- A part of a turn keeps the invariant where the turn ends with it. -/
def Kept {α : Type} (crypto : Bitcrypto) (conf : SPVConf) (post : α → Prop) :
    Except Turn α → Prop
  | .error turn => LinkedTable crypto conf turn.state.table
  | .ok a => post a

theorem Kept.bind {α β : Type} {post : α → Prop} {post' : β → Prop} {e : Except Turn α}
    {f : α → Except Turn β} (h : Kept crypto conf post e)
    (hf : ∀ a, post a → Kept crypto conf post' (f a)) : Kept crypto conf post' (e >>= f) := by
  cases e with
  | error turn => exact h
  | ok a => exact hf a h

/-- A linked table that has no row above a height. -/
structure UpTo (crypto : Bitcrypto) (conf : SPVConf) (s : SyncState) (height : ℕ) : Prop where
  table : LinkedTable crypto conf s.table
  le : ∀ other header, (other, header) ∈ s.table → other ≤ height
  starting_le : conf.startingBlockHeader.height ≤ height

theorem UpTo.mono {s' : SyncState} (h : UpTo crypto conf s height)
    (hsub : ∀ row ∈ s'.table, row ∈ s.table) : UpTo crypto conf s' height where
  table := h.table.mono hsub
  le other header hmem := h.le other header (hsub _ hmem)
  starting_le := h.starting_le

theorem linkedTable_singleton {header : BlockHeader}
    (h : conf.validateRpcStartingHeader crypto height header = .ok ()) :
    LinkedTable crypto conf [(conf.startingBlockHeader.height, header)] where
  unique other first second hfirst hsecond := by
    simp only [List.mem_singleton, Prod.mk.injEq] at hfirst hsecond
    rw [hfirst.2, hsecond.2]
  starting_le other first hmem := by
    simp only [List.mem_singleton, Prod.mk.injEq] at hmem
    exact hmem.1.ge
  starting first hmem := by
    simp only [List.mem_singleton, Prod.mk.injEq] at hmem
    rw [hmem.2]
    exact starting_of_validate h
  linked other first second hfirst hsecond := by
    simp only [List.mem_singleton, Prod.mk.injEq] at hfirst hsecond
    omega

theorem eq_nil_of_getLastBlockHeight (h : table.getLastBlockHeight = none) : table = [] := by
  simpa [HeaderTable.getLastBlockHeight] using h

theorem upTo_lastHeightInStorage (h : LinkedTable crypto conf s.table) :
    Kept crypto conf (fun found : SyncState × ℕ => UpTo crypto conf found.1 found.2)
      (lastHeightInStorage crypto conf s it) := by
  rw [lastHeightInStorage]
  split
  · exact h
  cases hlast : s.table.getLastBlockHeight with
  | some last =>
    obtain ⟨header, hmem⟩ := exists_mem_of_getLastBlockHeight hlast
    exact ⟨h, fun _ _ hother => le_getLastBlockHeight hlast hother, h.starting_le _ _ hmem⟩
  | none =>
    simp only [validateAndStoreStartingHeader, eq_nil_of_getLastBlockHeight hlast]
    cases it.blockchainBlockHeader with
    | error e => exact h
    | ok header =>
      simp only
      cases hvalid : conf.validateRpcStartingHeader crypto conf.startingBlockHeader.height
          header with
      | error e => exact h
      | ok _ =>
        by_cases hfault : it.faults.addStartingHeader = true
        · rw [if_pos hfault]
          exact h
        · rw [if_neg hfault]
          refine ⟨linkedTable_singleton hvalid, ?_, le_rfl⟩
          intro other first hmem
          simp only [HeaderTable.addBlockHeaders, HeaderTable.insertRow, List.foldl_cons,
            List.foldl_nil, List.filter_nil, List.mem_singleton, Prod.mk.injEq] at hmem
          exact hmem.1.le

theorem upTo_refreshBlockCount {retrieveTo : ℕ} (h : UpTo crypto conf s height) :
    Kept crypto conf (fun s' => UpTo crypto conf s' height)
      (refreshBlockCount s it retrieveTo) := by
  rw [refreshBlockCount]
  split
  · cases it.getServersWithLatestBlockCount with
    | error e => exact h.table
    | ok found => exact h.mono fun _ => id
  · exact h

theorem upTo_removeExcessiveHeaders {retrieveTo : ℕ} (h : UpTo crypto conf s height) :
    UpTo crypto conf (removeExcessiveHeaders conf s it retrieveTo) height := by
  rw [removeExcessiveHeaders]
  cases conf.maxStoredBlockHeaders with
  | none => exact h
  | some max =>
    simp only
    split
    · exact h.mono fun _ => List.mem_of_mem_filter
    · exact h

theorem upTo_request (h : LinkedTable crypto conf s.table) :
    Kept crypto conf (fun r : Request => UpTo crypto conf r.state r.lastHeight)
      (request crypto conf s it) := by
  apply (upTo_lastHeightInStorage h).bind
  intro found hfound
  apply (upTo_refreshBlockCount hfound).bind
  intro s' hs'
  simp only
  split
  · exact hs'.table
  · have hremoved : UpTo crypto conf
        (removeExcessiveHeaders conf s' it (min (found.2 + s'.chunkSize) s'.blockCount))
        found.2 := upTo_removeExcessiveHeaders hs'
    split
    · exact hremoved.table
    · exact hremoved

theorem table_removeServer (address : String) :
    (s.removeServer address).state.table = s.table := by
  rw [SyncState.removeServer]
  split
  · simp only
    split <;> rfl
  · rfl

/-- A reorganization drops rows, and adds none. -/
theorem subset_resolvePossibleChainReorg {server : String} {lastHeight fuel n : ℕ}
    {retrieveFrom retrieveTo : ℕ}
    {result : SyncState × Option (Except PossibleChainReorgError Unit)}
    (h : resolvePossibleChainReorg crypto coin conf it server lastHeight fuel n retrieveFrom
      retrieveTo s = some result) : ∀ row ∈ result.1.table, row ∈ s.table := by
  induction fuel generalizing n retrieveFrom retrieveTo s with
  | zero => cases h
  | succ fuel ih =>
    rw [resolvePossibleChainReorg] at h
    simp only at h
    split at h
    · cases h
      exact fun _ => id
    · split at h
      · cases h
        exact fun _ => id
      · split at h
        · have hsub := ih h
          exact hsub
        · cases h
          exact fun _ => List.mem_of_mem_filter
      · split at h
        · cases h
          exact fun _ => id
        · have hsub := ih h
          exact hsub
      · cases h
        exact fun _ => id

theorem table_afterReorg {server : String}
    (result : SyncState × Option (Except PossibleChainReorgError Unit)) :
    (afterReorg server result).state.table = result.1.table := by
  obtain ⟨s, outcome⟩ := result
  cases outcome with
  | none => rfl
  | some outcome =>
    cases outcome with
    | ok _ => rfl
    | error e =>
      simp only [afterReorg]
      split
      · rfl
      · exact table_removeServer server

theorem linkedTable_storeHeaders {fuel : ℕ} {r : Request} {turn : Turn}
    (h : UpTo crypto conf s r.lastHeight)
    (hstep : storeHeaders crypto coin conf it fuel r s headers = some turn) :
    LinkedTable crypto conf turn.state.table := by
  rw [storeHeaders] at hstep
  split at hstep
  · cases hstep
    exact h.table
  · rename_i hok
    split at hstep
    · cases hstep
      exact h.table
    · cases hstep
      exact h.table.of_validateHeaders h.le h.starting_le hok
  · obtain ⟨result, hresult, hturn⟩ := Option.map_eq_some_iff.mp hstep
    rw [← hturn, table_afterReorg]
    exact h.table.mono (subset_resolvePossibleChainReorg hresult)
  · cases hstep
    rw [table_removeServer]
    exact h.table

theorem linkedTable_iterate {fuel : ℕ} {turn : Turn} (h : LinkedTable crypto conf s.table)
    (hstep : iterate crypto coin conf fuel s it = some turn) :
    LinkedTable crypto conf turn.state.table := by
  have hrequest : Kept crypto conf (fun r : Request => UpTo crypto conf r.state r.lastHeight)
      (request crypto conf s it) := upTo_request h
  rw [iterate] at hstep
  cases hr : request crypto conf s it with
  | error stopped =>
    rw [hr] at hrequest hstep
    cases hstep
    exact hrequest
  | ok r =>
    rw [hr] at hrequest hstep
    simp only at hstep
    split at hstep
    · cases hstep
      exact hrequest.table
    · cases hstep
      rw [table_removeServer]
      exact hrequest.table
    · apply linkedTable_storeHeaders _ hstep
      exact hrequest.mono fun _ => id

end Turns

/-- No block has been mined after the starting header. -/
def nothingMined : Iteration where
  getServersWithLatestBlockCount := .ok (["electrum"], 2016)
  blockchainBlockHeader := .ok (TwoRetargets.header 0)
  index := 0
  answers _ _ _ _ := []
  faults := .none

def unsynced (table : HeaderTable) : SyncState where
  table := table
  chunkSize := 2016
  servers := ["electrum"]
  electrumAddresses := ["electrum"]
  blockCount := 2016

end DeXFG.Spv
