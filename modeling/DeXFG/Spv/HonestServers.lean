import DeXFG.Spv.BitcoinRule
import DeXFG.Spv.LinkedHeaders

/-!
# Servers that all serve one chain

Where the storage keeps the headers of two periods, no server that serves the chain is removed, and
the stored headers are those of an interval of it. The configuration may ask for less.
-/
namespace DeXFG.Spv
open Utxo Library

/-! ## A chain by the rule -/

/-- A chain that goes on from the starting header by the rule. No two of its headers have the same
hash. -/
structure ValidChain (crypto : Bitcrypto) (conf : SPVConf) (chain : ℕ → BlockHeader) : Prop where
  starting : SPVBlockHeader.fromBlockHeaderAndHeight crypto (chain conf.startingBlockHeader.height)
    conf.startingBlockHeader.height = conf.startingBlockHeader
  limited : targetOf conf.startingBlockHeader.bits ≤ maxTarget
  links : ∀ n, conf.startingBlockHeader.height ≤ n →
    (chain (n + 1)).previousHeaderHash = (chain n).hash crypto
  bits : ∀ n, conf.startingBlockHeader.height ≤ n →
    ruleBits (fun height => some (chain height).time)
      (SPVBlockHeader.fromBlockHeaderAndHeight crypto (chain n) n) = some (chain (n + 1)).bits
  hash_injective : ∀ n m, n < 2 ^ 64 → m < 2 ^ 64 →
    (chain n).hash crypto = (chain m).hash crypto → n = m

section Bits

variable {crypto : Bitcrypto} {coin : String} {conf : SPVConf} {chain : ℕ → BlockHeader}
  {storage : BlockHeaderStorageOps} {n : ℕ}

theorem targetOf_fromU256_le {val : U256} {c : Compact} (h : Compact.fromU256 val = some c) :
    targetOf (.compact c.bits) ≤ val.val := by
  obtain ⟨c', target, hc, htarget, hgreatest⟩ := Compact.fromU256_spec val
  cases h.symm.trans hc
  have hinto : c.intoU256 = target := by
    rw [Compact.intoU256, htarget]
  change c.intoU256.val ≤ val.val
  rw [hinto]
  exact hgreatest.1.2

/-- The rule keeps targets below the maximum. -/
theorem ValidChain.targetOf_le (h : ValidChain crypto conf chain)
    (hn : conf.startingBlockHeader.height ≤ n) : targetOf (chain n).bits ≤ maxTarget := by
  induction n, hn using Nat.le_induction with
  | base =>
    have hbits : (chain conf.startingBlockHeader.height).bits = conf.startingBlockHeader.bits :=
      congrArg SPVBlockHeader.bits h.starting
    rw [hbits]
    exact h.limited
  | succ n hn ih =>
    have hrule := h.bits n hn
    cases hretarget : isRetargetHeight (n + 1) with
    | false =>
      rw [ruleBits] at hrule
      simp only [SPVBlockHeader.fromBlockHeaderAndHeight, hretarget, Bool.false_eq_true, if_false,
        Option.some.injEq] at hrule
      rw [← hrule]
      exact ih
    | true =>
      rw [ruleBits_of_retarget hretarget, Option.bind_some, Option.map_eq_some_iff] at hrule
      obtain ⟨c, hc, hbits⟩ := hrule
      rw [← hbits]
      exact (targetOf_fromU256_le hc).trans (min_le_left _ _)

theorem ruleTimespan_lt (first last : UInt32) : ruleTimespan first last < 2 ^ 23 := by
  rw [ruleTimespan_eq]
  exact retargetTimespan_lt first last

/-- Along a chain by the rule the code expects the bits of the chain, if it finds the first block
of the period. -/
theorem ValidChain.expectedBits (h : ValidChain crypto conf chain)
    (hn : conf.startingBlockHeader.height ≤ n)
    (hstart : retargetingInterval.toNat ≤ conf.startingBlockHeader.height)
    (hfits : n + 1 < 2 ^ 64)
    (hfirst : isRetargetHeight (n + 1) = true →
      storedTime storage (n + 1 - retargetingInterval.toNat) =
        some (chain (n + 1 - retargetingInterval.toNat)).time) :
    Spv.expectedBits crypto coin storage
        (SPVBlockHeader.fromBlockHeaderAndHeight crypto (chain n) n) =
      some (chain (n + 1)).bits := by
  have hinterval : retargetingInterval.toNat = 2016 := by decide
  rw [← h.bits n hn]
  cases hretarget : isRetargetHeight (n + 1) with
  | false =>
    have hzero : n ≠ 0 := by omega
    rw [expectedBits_plain hzero hretarget, ruleBits]
    simp [SPVBlockHeader.fromBlockHeaderAndHeight, hretarget]
  | true =>
    have hlater : n + 1 ≠ retargetingInterval.toNat := by omega
    let last := SPVBlockHeader.fromBlockHeaderAndHeight crypto (chain n) n
    have hproduct : targetOf last.bits *
        ruleTimespan (chain (n + 1 - retargetingInterval.toNat)).time last.time < 2 ^ 256 := by
      calc targetOf last.bits *
            ruleTimespan (chain (n + 1 - retargetingInterval.toNat)).time last.time
          ≤ 2 ^ 224 * 2 ^ 23 :=
            Nat.mul_le_mul ((h.targetOf_le hn).trans maxTarget_lt.le) (ruleTimespan_lt _ _).le
        _ < 2 ^ 256 := by decide
    rw [expectedBits_retarget hretarget hfits hlater, ruleBits_of_retarget hretarget]
    change (storedTime storage (n + 1 - retargetingInterval.toNat)).bind _ = _
    rw [hfirst hretarget, Option.bind_some, if_pos hproduct]
    rfl

end Bits

/-! ## Segments of the chain -/

def segment (chain : ℕ → BlockHeader) (fromHeight n : ℕ) : List BlockHeader :=
  (List.range' fromHeight n).map chain

section Segments

variable {crypto : Bitcrypto} {chain : ℕ → BlockHeader}
  {expected : SPVBlockHeader → BlockHeader → Prop} {height n : ℕ}

theorem follows_segment
    (hlinks : ∀ m, height ≤ m → m < height + n →
      (chain (m + 1)).previousHeaderHash = (chain m).hash crypto)
    (hexpected : ∀ m, height ≤ m → m < height + n →
      expected (SPVBlockHeader.fromBlockHeaderAndHeight crypto (chain m) m) (chain (m + 1))) :
    Follows crypto expected (SPVBlockHeader.fromBlockHeaderAndHeight crypto (chain height) height)
      (segment chain (height + 1) n) := by
  induction n generalizing height with
  | zero => simp [segment]
  | succ n ih =>
    rw [segment, List.range'_succ, List.map_cons, follows_cons]
    refine ⟨hlinks height le_rfl (by omega), hexpected height le_rfl (by omega), ?_⟩
    apply ih
    · exact fun m hle hlt => hlinks m (by omega) (by omega)
    · exact fun m hle hlt => hexpected m (by omega) (by omega)

/-- The rows of a table are those of an interval of the chain. -/
def StoresInterval (chain : ℕ → BlockHeader) (table : HeaderTable) (first last : ℕ) : Prop :=
  ∀ row, row ∈ table ↔ first ≤ row.1 ∧ row.1 ≤ last ∧ row.2 = chain row.1

variable {table : HeaderTable} {first last : ℕ}

namespace StoresInterval

theorem getBlockHeader (h : StoresInterval chain table first last) (height : ℕ) :
    table.getBlockHeader height =
      if first ≤ height ∧ height ≤ last then some (chain height) else none := by
  split
  · rename_i hin
    cases hget : table.getBlockHeader height with
    | none =>
      have hnone : ∀ row ∈ table, row.1 ≠ height := by
        simpa [HeaderTable.getBlockHeader] using hget
      exact absurd rfl (hnone (height, chain height) ((h _).mpr ⟨hin.1, hin.2, rfl⟩))
    | some header =>
      have heq : header = chain height := ((h _).mp (mem_of_getBlockHeader hget)).2.2
      rw [heq]
  · rename_i hout
    cases hget : table.getBlockHeader height with
    | none => rfl
    | some header =>
      have hmem := (h _).mp (mem_of_getBlockHeader hget)
      exact absurd ⟨hmem.1, hmem.2.1⟩ hout

theorem getLastBlockHeight (h : StoresInterval chain table first last) (hle : first ≤ last) :
    table.getLastBlockHeight = some last := by
  rw [HeaderTable.getLastBlockHeight, List.max?_eq_some_iff]
  constructor
  · exact List.mem_map.mpr ⟨(last, chain last), (h _).mpr ⟨hle, le_rfl, rfl⟩, rfl⟩
  · intro height hmem
    obtain ⟨row, hrow, rfl⟩ := List.mem_map.mp hmem
    exact ((h row).mp hrow).2.1

theorem removeHeaders (h : StoresInterval chain table first last) (height : ℕ) :
    StoresInterval chain (table.removeHeaders 0 height) (max first (height + 1)) last := by
  intro row
  simp only [HeaderTable.removeHeaders, List.mem_filter, h row, decide_eq_true_eq, Nat.zero_le,
    true_and, not_le, max_le_iff, Nat.succ_le_iff]
  tauto

/-- Headers of other hashes are added at the end. -/
theorem insertRow (h : StoresInterval chain table first last) (hle : first ≤ last)
    (hlt : last + 1 < 2 ^ 64) (hinjective : ∀ n m, n < 2 ^ 64 → m < 2 ^ 64 →
      (chain n).hash crypto = (chain m).hash crypto → n = m) :
    StoresInterval chain (table.insertRow crypto (last + 1, chain (last + 1))) first
      (last + 1) := by
  intro row
  rw [mem_insertRow, h row]
  constructor
  · intro hmem
    cases hmem with
    | inl hnew =>
      subst hnew
      exact ⟨by simp only; omega, le_rfl, rfl⟩
    | inr hold => exact ⟨hold.1.1, hold.1.2.1.trans (Nat.le_succ _), hold.1.2.2⟩
  · intro hin
    obtain ⟨height, header⟩ := row
    simp only at hin ⊢
    by_cases hlast : height = last + 1
    · left
      rw [hin.2.2, hlast]
    · right
      refine ⟨⟨hin.1, by omega, hin.2.2⟩, hlast, ?_⟩
      rw [hin.2.2]
      exact fun heq => hlast (hinjective height _ (by omega) hlt heq)

theorem addBlockHeaders (h : StoresInterval chain table first last) (hle : first ≤ last)
    (hinjective : ∀ n m, n < 2 ^ 64 → m < 2 ^ 64 →
      (chain n).hash crypto = (chain m).hash crypto → n = m) (n : ℕ) (hlt : last + n < 2 ^ 64) :
    StoresInterval chain
      (table.addBlockHeaders crypto (blockRegistry (last + 1) (segment chain (last + 1) n)))
      first (last + n) := by
  induction n generalizing table last with
  | zero => exact h
  | succ n ih =>
    have hrest := ih (h.insertRow hle (by omega) hinjective) (by omega) (by omega)
    have hsum : last + (n + 1) = last + 1 + n := by omega
    rw [hsum]
    exact hrest

end StoresInterval

end Segments

/-! ## What honest servers answer -/

def isResponseTooLarge : Except HeadersError (List BlockHeader) → Bool
  | .error .responseTooLarge => true
  | _ => false

section Honest

variable (conf : SPVConf) (chain : ℕ → BlockHeader)

/-- The headers that were asked for, no answer, or a response that is too large. -/
def HonestAnswer (fromHeight toHeight : ℕ)
    (answer : Except HeadersError (List BlockHeader)) : Prop :=
  answer = .error .transport ∨ answer = .error .responseTooLarge ∨
    answer = .ok (segment chain fromHeight (toHeight + 1 - fromHeight))

/-- A turn in which all servers serve the chain, which grows, and the storage works. Responses are
not too large so often that no size is left to try. -/
structure HonestTurn (s : SyncState) (it : Iteration) : Prop where
  faults : it.faults = .none
  starting : it.blockchainBlockHeader = .ok (chain conf.startingBlockHeader.height)
  blockCount : ∀ addresses count, it.getServersWithLatestBlockCount = .ok (addresses, count) →
    addresses ≠ [] ∧ s.blockCount ≤ count ∧ count < 2 ^ 64
  answers : ∀ server n fromHeight toHeight, ∀ answer ∈ it.answers server n fromHeight toHeight,
    HonestAnswer chain fromHeight toHeight answer
  tooLarge : ∀ server n fromHeight toHeight,
    chunkSizeReducerValue * (it.answers server n fromHeight toHeight).countP isResponseTooLarge <
      s.chunkSize

/-- What does not concern the table. -/
structure Connected (s : SyncState) : Prop where
  chunk_pos : 0 < s.chunkSize
  chunk_le : s.chunkSize ≤ retargetingInterval.toNat
  addresses : s.electrumAddresses ≠ []
  blockCount_lt : s.blockCount < 2 ^ 64

/-- The table holds an interval of the chain that goes back to the starting header or for a
period. -/
structure Holds (s : SyncState) (first last : ℕ) : Prop where
  interval : StoresInterval chain s.table first last
  starting_le : conf.startingBlockHeader.height ≤ first
  le : first ≤ last
  period : first = conf.startingBlockHeader.height ∨ first + retargetingInterval.toNat ≤ last + 1
  le_blockCount : last ≤ s.blockCount

/-- The state between two turns. -/
structure Synced (s : SyncState) : Prop where
  connected : Connected s
  table : (s.table = [] ∧ conf.startingBlockHeader.height ≤ s.blockCount) ∨
    ∃ first last, Holds conf chain s first last

/-- The headers that are removed before a request leave a period. -/
def RoomFor (lastHeight retrieveTo : ℕ) : Prop :=
  ∀ max, conf.maxStoredBlockHeaders = some max → max.val.toNat < retrieveTo →
    retrieveTo - max.val.toNat < conf.startingBlockHeader.height ∨
      retrieveTo - max.val.toNat + retargetingInterval.toNat ≤ lastHeight

end Honest

section Turns

variable {crypto : Bitcrypto} {coin : String} {conf : SPVConf} {chain : ℕ → BlockHeader}
  {params : BlockHeaderValidationParams} {s : SyncState} {it : Iteration} {first last : ℕ}

/-- A state with the connections of another. -/
structure SameConnections (s s' : SyncState) : Prop where
  servers : s'.servers = s.servers
  chunkSize : s'.chunkSize = s.chunkSize

theorem StoresInterval.singleton (chain : ℕ → BlockHeader) (height : ℕ) :
    StoresInterval chain [(height, chain height)] height height := by
  intro row
  obtain ⟨other, header⟩ := row
  simp only [List.mem_singleton, Prod.mk.injEq]
  constructor
  · intro h
    exact ⟨h.1.ge, h.1.le, h.1 ▸ h.2⟩
  · intro h
    have heq := le_antisymm h.2.1 h.1
    exact ⟨heq, heq ▸ h.2.2⟩

theorem validateRpcStartingHeader_of_starting
    (h : SPVBlockHeader.fromBlockHeaderAndHeight crypto (chain conf.startingBlockHeader.height)
      conf.startingBlockHeader.height = conf.startingBlockHeader) :
    conf.validateRpcStartingHeader crypto conf.startingBlockHeader.height
      (chain conf.startingBlockHeader.height) = .ok () := by
  simp [SPVConf.validateRpcStartingHeader, h]

theorem lastHeightInStorage_honest (hchain : ValidChain crypto conf chain)
    (hs : Synced conf chain s) (hit : HonestTurn conf chain s it) :
    ∃ s' first last, lastHeightInStorage crypto conf s it = .ok (s', last) ∧
      Connected s' ∧ Holds conf chain s' first last ∧ SameConnections s s' ∧
      s'.blockCount = s.blockCount := by
  have hfault : it.faults.getLastBlockHeight = false := by
    rw [hit.faults]
    rfl
  have hstoring : it.faults.addStartingHeader = false := by
    rw [hit.faults]
    rfl
  rw [lastHeightInStorage, hfault]
  cases hs.table with
  | inl hempty =>
    have hnone : s.table.getLastBlockHeight = none := by
      rw [hempty.1]
      rfl
    rw [if_neg Bool.false_ne_true, hnone]
    simp only [validateAndStoreStartingHeader, hit.starting,
      validateRpcStartingHeader_of_starting hchain.starting, hstoring, hempty.1]
    refine ⟨_, _, _, rfl, ⟨hs.connected.chunk_pos, hs.connected.chunk_le, hs.connected.addresses,
      hs.connected.blockCount_lt⟩, ⟨.singleton chain _, le_rfl, le_rfl, .inl rfl, hempty.2⟩,
      ⟨rfl, rfl⟩, rfl⟩
  | inr hholds =>
    obtain ⟨first, last, h⟩ := hholds
    rw [if_neg Bool.false_ne_true, h.interval.getLastBlockHeight h.le]
    exact ⟨s, first, last, rfl, hs.connected, h, ⟨rfl, rfl⟩, rfl⟩

theorem refreshBlockCount_honest (hs : Connected s) (h : Holds conf chain s first last)
    (hblockCount : ∀ addresses count,
      it.getServersWithLatestBlockCount = .ok (addresses, count) →
        addresses ≠ [] ∧ s.blockCount ≤ count ∧ count < 2 ^ 64) (retrieveTo : ℕ) :
    refreshBlockCount s it retrieveTo = .error (.continues s) ∨
      ∃ s', refreshBlockCount s it retrieveTo = .ok s' ∧ Connected s' ∧
        Holds conf chain s' first last ∧ SameConnections s s' := by
  rw [refreshBlockCount]
  split
  · cases hcount : it.getServersWithLatestBlockCount with
    | error e => exact .inl rfl
    | ok found =>
      obtain ⟨addresses, count⟩ := found
      obtain ⟨haddresses, hle, hlt⟩ := hblockCount addresses count hcount
      exact .inr ⟨_, rfl, ⟨hs.chunk_pos, hs.chunk_le, haddresses, hlt⟩,
        ⟨h.interval, h.starting_le, h.le, h.period, h.le_blockCount.trans hle⟩, ⟨rfl, rfl⟩⟩
  · exact .inr ⟨s, rfl, hs, h, ⟨rfl, rfl⟩⟩

theorem removeExcessiveHeaders_honest {retrieveTo : ℕ} (hs : Connected s)
    (h : Holds conf chain s first last) (hroom : RoomFor conf last retrieveTo)
    (hto : retrieveTo ≤ last + retargetingInterval.toNat) :
    ∃ first', Connected (removeExcessiveHeaders conf s it retrieveTo) ∧
      Holds conf chain (removeExcessiveHeaders conf s it retrieveTo) first' last ∧
      SameConnections s (removeExcessiveHeaders conf s it retrieveTo) := by
  have hinterval : retargetingInterval.toNat = 2016 := by decide
  rw [removeExcessiveHeaders]
  cases hmax : conf.maxStoredBlockHeaders with
  | none => exact ⟨first, hs, h, ⟨rfl, rfl⟩⟩
  | some max =>
    simp only
    split
    · rename_i hremoves
      have hleft := hroom max hmax hremoves.1
      have hstart := h.starting_le
      have hle := h.le
      have hperiod := h.period
      refine ⟨_, ⟨hs.chunk_pos, hs.chunk_le, hs.addresses, hs.blockCount_lt⟩,
        ⟨h.interval.removeHeaders _, ?_, ?_, ?_, h.le_blockCount⟩, ⟨rfl, rfl⟩⟩
      · omega
      · omega
      · omega
    · exact ⟨first, hs, h, ⟨rfl, rfl⟩⟩

/-- A request to honest servers is made for at most a chunk after the interval that is stored. -/
structure HonestRequest (conf : SPVConf) (chain : ℕ → BlockHeader) (s : SyncState) (r : Request)
    (first : ℕ) : Prop where
  connected : Connected r.state
  holds : Holds conf chain r.state first r.lastHeight
  same : SameConnections s r.state
  lt : r.lastHeight < r.retrieveTo
  le_chunk : r.retrieveTo ≤ r.lastHeight + retargetingInterval.toNat
  le_blockCount : r.retrieveTo ≤ r.state.blockCount

theorem removeExcessiveHeaders_blockCount {retrieveTo : ℕ} :
    (removeExcessiveHeaders conf s it retrieveTo).blockCount = s.blockCount := by
  rw [removeExcessiveHeaders]
  cases conf.maxStoredBlockHeaders with
  | none => rfl
  | some max =>
    simp only
    split <;> rfl

/-- Before a request a turn is left only to wait, and a request is an honest one. -/
theorem request_honest (hchain : ValidChain crypto conf chain) (hs : Synced conf chain s)
    (hit : HonestTurn conf chain s it)
    (hroom : ∀ last retrieveTo, retrieveTo ≤ last + retargetingInterval.toNat →
      RoomFor conf last retrieveTo) :
    (∃ s', request crypto conf s it = .error (.continues s') ∧ Synced conf chain s' ∧
      SameConnections s s') ∨
    ∃ r first, request crypto conf s it = .ok r ∧ HonestRequest conf chain s r first := by
  obtain ⟨s₁, first, last, hlast, hs₁, h₁, hsame₁, hcount₁⟩ :=
    lastHeightInStorage_honest hchain hs hit
  have hblockCount : ∀ addresses count,
      it.getServersWithLatestBlockCount = .ok (addresses, count) →
        addresses ≠ [] ∧ s₁.blockCount ≤ count ∧ count < 2 ^ 64 := by
    rw [hcount₁]
    exact hit.blockCount
  simp only [request, hlast]
  change (∃ s', (refreshBlockCount s₁ it (last + s₁.chunkSize) >>= _) = _ ∧ _) ∨
    ∃ r first, (refreshBlockCount s₁ it (last + s₁.chunkSize) >>= _) = _ ∧ _
  cases refreshBlockCount_honest hs₁ h₁ hblockCount (last + s₁.chunkSize) with
  | inl hwaits =>
    left
    rw [hwaits]
    exact ⟨s₁, rfl, ⟨hs₁, .inr ⟨first, last, h₁⟩⟩, hsame₁⟩
  | inr hrefreshed =>
    obtain ⟨s₂, hok, hs₂, h₂, hsame₂⟩ := hrefreshed
    have hsame : SameConnections s s₂ :=
      ⟨hsame₂.servers.trans hsame₁.servers, hsame₂.chunkSize.trans hsame₁.chunkSize⟩
    rw [hok]
    change (∃ s', (if last = s₂.blockCount then _ else _) = _ ∧ _) ∨
      ∃ r first, (if last = s₂.blockCount then _ else _) = _ ∧ _
    by_cases hfinished : last = s₂.blockCount
    · left
      rw [if_pos hfinished]
      exact ⟨s₂, rfl, ⟨hs₂, .inr ⟨first, last, h₂⟩⟩, hsame⟩
    · right
      rw [if_neg hfinished]
      have hchunk := hs₂.chunk_le
      have hpos := hs₂.chunk_pos
      have hle := h₂.le_blockCount
      have hto : min (last + s₂.chunkSize) s₂.blockCount ≤
          last + retargetingInterval.toNat := by omega
      obtain ⟨first', hs₃, h₃, hsame₃⟩ :=
        @removeExcessiveHeaders_honest conf chain s₂ it first last _ hs₂ h₂ (hroom last _ hto) hto
      have hindex : it.index % (removeExcessiveHeaders conf s₂ it
          (min (last + s₂.chunkSize) s₂.blockCount)).electrumAddresses.length <
          (removeExcessiveHeaders conf s₂ it
            (min (last + s₂.chunkSize) s₂.blockCount)).electrumAddresses.length :=
        Nat.mod_lt _ (List.length_pos_iff.mpr hs₃.addresses)
      simp only [List.getElem?_eq_getElem hindex]
      refine ⟨_, first', rfl, hs₃, h₃,
        ⟨hsame₃.servers.trans hsame.servers, hsame₃.chunkSize.trans hsame.chunkSize⟩, ?_, hto, ?_⟩
      · simp only
        omega
      · simp only [removeExcessiveHeaders_blockCount]
        exact min_le_right _ _

/-! ## Retrieving and checking -/

theorem length_segment (chain : ℕ → BlockHeader) (height n : ℕ) :
    (segment chain height n).length = n := by
  simp [segment]

/-- Honest answers end with the headers or without any, and leave a size of chunks. -/
theorem tryToRetrieveHeaders_honest {server : String} {fromHeight toHeight : ℕ}
    {answers : List (Except HeadersError (List BlockHeader))} {attempts chunkSize : ℕ}
    (hfrom : 0 < fromHeight) (hto : fromHeight ≤ toHeight)
    (hhonest : ∀ answer ∈ answers, HonestAnswer chain fromHeight toHeight answer)
    (hlarge : chunkSizeReducerValue * answers.countP isResponseTooLarge < chunkSize) :
    ∃ result chunkSize',
      tryToRetrieveHeaders server fromHeight toHeight attempts chunkSize answers =
        (result, chunkSize') ∧ 0 < chunkSize' ∧ chunkSize' ≤ chunkSize ∧
      (result = .error (.networkError server) ∨
        result = .ok (segment chain fromHeight (toHeight + 1 - fromHeight))) := by
  induction answers generalizing attempts chunkSize with
  | nil => exact ⟨_, _, rfl, by omega, le_rfl, .inl rfl⟩
  | cons answer answers ih =>
    have hguard : ¬ (fromHeight = 0 ∨ toHeight < fromHeight) := by omega
    rw [List.forall_mem_cons] at hhonest
    have hanswer : retrieveHeadersFrom fromHeight toHeight answer = _ := if_neg hguard
    rcases hhonest.1 with rfl | rfl | rfl
    · rw [tryToRetrieveHeaders, hanswer]
      simp only
      split
      · exact ⟨_, _, rfl, by omega, le_rfl, .inl rfl⟩
      · exact ih hhonest.2 (by simpa [List.countP_cons, isResponseTooLarge] using hlarge)
    · have hcount : chunkSizeReducerValue * answers.countP isResponseTooLarge +
          chunkSizeReducerValue < chunkSize := by
        simpa [List.countP_cons, isResponseTooLarge, Nat.mul_add] using hlarge
      rw [tryToRetrieveHeaders, hanswer]
      simp only
      rw [if_pos (by omega)]
      obtain ⟨result, chunkSize', hrun, hpos, hle, hresult⟩ :=
        @ih attempts (chunkSize - chunkSizeReducerValue) hhonest.2 (by omega)
      exact ⟨result, chunkSize', hrun, hpos, hle.trans (Nat.sub_le _ _), hresult⟩
    · have hlength := length_segment chain fromHeight (toHeight + 1 - fromHeight)
      rw [tryToRetrieveHeaders, hanswer]
      cases hsegment : segment chain fromHeight (toHeight + 1 - fromHeight) with
      | nil =>
        rw [hsegment, List.length_nil] at hlength
        omega
      | cons header headers => exact ⟨_, _, rfl, by omega, le_rfl, .inr rfl⟩

/-- The stored interval, as the check of headers reads it. -/
def Holds.storedChain (h : Holds conf chain s first last) :
    StoredChain (s.table.ops .none) conf last where
  first := first
  chain := chain
  start_le := h.starting_le
  first_le := h.le
  getBlockHeader height := congrArg Except.ok (h.interval.getBlockHeader height)

theorem Holds.last_storedChain (hchain : ValidChain crypto conf chain)
    (h : Holds conf chain s first last) :
    h.storedChain.last crypto =
      SPVBlockHeader.fromBlockHeaderAndHeight crypto (chain last) last := by
  rw [StoredChain.last]
  split
  · rename_i hstart
    rw [hstart, hchain.starting]
  · rfl

theorem Holds.storedTime (h : Holds conf chain s first last) {height : ℕ} (hfirst : first ≤ height)
    (hlast : height ≤ last) : storedTime (s.table.ops .none) height = some (chain height).time := by
  rw [Spv.storedTime, h.storedChain.getBlockHeader, if_pos ⟨hfirst, hlast⟩]
  rfl

theorem starting_of_checks (checks : ChecksDifficulty conf coin params) :
    conf.startingBlockHeader.height % retargetingInterval.toNat = 0 := by
  have hvalid := checks.valid
  simp only [SPVConf.validate, checks.validationParams, Option.bind_some, checks.algorithm,
    validateBtcSpvHeaderHeight] at hvalid
  by_contra hne
  rw [if_pos hne] at hvalid
  cases hvalid

/-- The next headers of the chain pass the check. -/
theorem validateHeaders_honest (checks : ChecksDifficulty conf coin params)
    (hstart : conf.startingBlockHeader.height ≠ 0) (hchain : ValidChain crypto conf chain)
    (h : Holds conf chain s first last) {n : ℕ} (hn : n ≤ retargetingInterval.toNat)
    (hfits : last + n < 2 ^ 64) :
    validateHeaders crypto coin (s.table.ops .none) last (segment chain (last + 1) n) conf =
      some (.ok ()) := by
  have hinterval : retargetingInterval.toNat = 2016 := by decide
  have hmod := starting_of_checks checks
  rw [hinterval] at hmod
  have hle := h.starting_le
  have hfirst := h.le
  have hperiod := h.period
  rw [validateHeaders_eq_ok checks h.storedChain, h.last_storedChain hchain]
  apply follows_segment
  · exact fun m hm _ => hchain.links m (by omega)
  · intro m hm hlt
    apply hchain.expectedBits (by omega) (by omega) (by omega)
    intro hretarget
    rw [isRetargetHeight, decide_eq_true_eq, hinterval] at hretarget
    apply h.storedTime
    · omega
    · omega

/-! ## Runs -/

/-- A turn with honest servers removes none of them, and adds to the interval that is stored. -/
theorem syncStep_honest (checks : ChecksDifficulty conf coin params)
    (hstart : conf.startingBlockHeader.height ≠ 0) (hchain : ValidChain crypto conf chain)
    (hroom : ∀ last retrieveTo, retrieveTo ≤ last + retargetingInterval.toNat →
      RoomFor conf last retrieveTo) (fuel : ℕ) (hs : Synced conf chain s)
    (hit : HonestTurn conf chain s it) :
    ∃ s', syncStep crypto coin conf fuel s it = some s' ∧ Synced conf chain s' ∧
      s'.servers = s.servers := by
  rw [syncStep, iterate]
  cases request_honest hchain hs hit hroom with
  | inl hwaits =>
    obtain ⟨s', hrequest, hs', hsame⟩ := hwaits
    rw [hrequest]
    exact ⟨s', rfl, hs', hsame.servers⟩
  | inr hrequests =>
    obtain ⟨r, first, hrequest, hr⟩ := hrequests
    have hlt := hr.lt
    have hchunk := hit.tooLarge r.server 0 (r.lastHeight + 1) r.retrieveTo
    rw [← hr.same.chunkSize] at hchunk
    obtain ⟨result, chunkSize, hretrieved, hpos, hle, hresult⟩ :=
      @tryToRetrieveHeaders_honest chain r.server _ _ _ tryToRetrieveHeadersAttempts _
        (Nat.succ_pos _) hlt (hit.answers r.server 0 (r.lastHeight + 1) r.retrieveTo) hchunk
    have hconnected : Connected { r.state with chunkSize := chunkSize } :=
      ⟨hpos, hle.trans hr.connected.chunk_le, hr.connected.addresses, hr.connected.blockCount_lt⟩
    have hholds : Holds conf chain { r.state with chunkSize := chunkSize } first r.lastHeight :=
      ⟨hr.holds.interval, hr.holds.starting_le, hr.holds.le, hr.holds.period,
        hr.holds.le_blockCount⟩
    rw [hrequest]
    simp only [hretrieved]
    cases hresult with
    | inl hnetwork =>
      rw [hnetwork]
      exact ⟨_, rfl, ⟨hconnected, .inr ⟨first, _, hholds⟩⟩, hr.same.servers⟩
    | inr hheaders =>
      have hn : r.retrieveTo + 1 - (r.lastHeight + 1) = r.retrieveTo - r.lastHeight := by omega
      have hblocks := hr.le_blockCount
      have hcount := hr.connected.blockCount_lt
      have hinterval := hr.le_chunk
      have hvalid : validateHeaders crypto coin (r.state.table.ops .none) r.lastHeight
          (segment chain (r.lastHeight + 1) (r.retrieveTo - r.lastHeight)) conf =
            some (.ok ()) :=
        validateHeaders_honest checks hstart hchain hr.holds (by omega) (by omega)
      rw [hheaders, hn]
      simp only [storeHeaders, hit.faults, hvalid]
      refine ⟨_, rfl, ⟨⟨hpos, hle.trans hr.connected.chunk_le, hr.connected.addresses,
        hr.connected.blockCount_lt⟩, .inr ⟨first, r.retrieveTo, ?_⟩⟩, hr.same.servers⟩
      have hadded := hr.holds.interval.addBlockHeaders hr.holds.le hchain.hash_injective
        (r.retrieveTo - r.lastHeight) (by omega)
      have hsum : r.lastHeight + (r.retrieveTo - r.lastHeight) = r.retrieveTo := by omega
      rw [hsum] at hadded
      have hfirst := hr.holds.le
      have hperiod := hr.holds.period
      exact ⟨hadded, hr.holds.starting_le, by omega, by omega, hblocks⟩

theorem run_honest (checks : ChecksDifficulty conf coin params)
    (hstart : conf.startingBlockHeader.height ≠ 0) (hchain : ValidChain crypto conf chain)
    (hroom : ∀ last retrieveTo, retrieveTo ≤ last + retargetingInterval.toNat →
      RoomFor conf last retrieveTo) (fuel : ℕ) {its : List Iteration} (hs : Synced conf chain s)
    (hits : Runs.Meets (syncStep crypto coin conf fuel) (HonestTurn conf chain) s its) :
    ∃ s', Runs.run (syncStep crypto coin conf fuel) s its = some s' ∧ Synced conf chain s' ∧
      s'.servers = s.servers := by
  induction its generalizing s with
  | nil => exact ⟨s, rfl, hs, rfl⟩
  | cons it its ih =>
    rw [Runs.meets_cons] at hits
    obtain ⟨t, hstep, ht, hservers⟩ := syncStep_honest checks hstart hchain hroom fuel hs hits.1
    obtain ⟨s', hrun, hs', hservers'⟩ := ih ht (hits.2 t hstep)
    exact ⟨s', Runs.run_cons_eq_some.mpr ⟨t, hstep, hrun⟩, hs', hservers'.trans hservers⟩

/-- Two periods are room enough. -/
theorem roomFor_of_two_periods
    (h : ∀ max, conf.maxStoredBlockHeaders = some max →
      2 * retargetingInterval.toNat ≤ max.val.toNat) (last retrieveTo : ℕ)
    (hto : retrieveTo ≤ last + retargetingInterval.toNat) : RoomFor conf last retrieveTo := by
  intro max hmax hlt
  have hle := h max hmax
  omega

/-! ## A table that is too small -/

section Small

variable (crypto conf chain)

/-- A period is stored, and two periods more have been mined. -/
def periodStored : SyncState where
  table := HeaderTable.addBlockHeaders crypto
    [(conf.startingBlockHeader.height, chain conf.startingBlockHeader.height)]
    (blockRegistry (conf.startingBlockHeader.height + 1)
      (segment chain (conf.startingBlockHeader.height + 1) 2015))
  chunkSize := 2016
  servers := ["electrum"]
  electrumAddresses := ["electrum"]
  blockCount := conf.startingBlockHeader.height + 4031

/-- The server sends what it is asked for. -/
def serves : Iteration where
  getServersWithLatestBlockCount := .error "Couldn't get block count from any server"
  blockchainBlockHeader := .ok (chain conf.startingBlockHeader.height)
  index := 0
  answers _ _ fromHeight toHeight := [.ok (segment chain fromHeight (toHeight + 1 - fromHeight))]
  faults := .none

end Small

theorem holds_periodStored (hchain : ValidChain crypto conf chain)
    (hfits : conf.startingBlockHeader.height + 4031 < 2 ^ 64) :
    Holds conf chain (periodStored crypto conf chain) conf.startingBlockHeader.height
      (conf.startingBlockHeader.height + 2015) where
  interval := by
    have h := (StoresInterval.singleton chain conf.startingBlockHeader.height).addBlockHeaders
      le_rfl hchain.hash_injective 2015 (by omega)
    simp only [periodStored]
    exact h
  starting_le := le_rfl
  le := Nat.le_add_right _ _
  period := .inl rfl
  le_blockCount := by
    simp only [periodStored]
    omega

theorem synced_periodStored (hchain : ValidChain crypto conf chain)
    (hfits : conf.startingBlockHeader.height + 4031 < 2 ^ 64) :
    Synced conf chain (periodStored crypto conf chain) where
  connected := ⟨by simp [periodStored], by simp only [periodStored]; decide,
    by simp [periodStored], hfits⟩
  table := .inr ⟨_, _, holds_periodStored hchain hfits⟩

theorem honestTurn_serves (conf : SPVConf) (chain : ℕ → BlockHeader) (hs : 0 < s.chunkSize) :
    HonestTurn conf chain s (serves conf chain) where
  faults := rfl
  starting := rfl
  blockCount addresses count h := by cases h
  answers server n fromHeight toHeight answer hmem := .inr (.inr (List.mem_singleton.mp hmem))
  tooLarge server n fromHeight toHeight := hs

/-- Without the first header of a period the header after it is rejected, and not for its link. -/
theorem validateHeaders_without_first (checks : ChecksDifficulty conf coin params)
    (hchain : ValidChain crypto conf chain) {table : HeaderTable} (hretarget :
      isRetargetHeight (last + 1) = true) (hstart : conf.startingBlockHeader.height < last)
    (hlater : last + 1 ≠ retargetingInterval.toNat)
    (hfirst : last + 1 - retargetingInterval.toNat < first) (hfits : last + 1 < 2 ^ 64)
    (h : StoresInterval chain table first last) (headers : List BlockHeader) :
    ∃ e, validateHeaders crypto coin (table.ops .none) last (chain (last + 1) :: headers) conf =
        some (.error e) ∧ ∀ other height, e ≠ .parentHashMismatch other height := by
  have hmissing : (table.ops .none).getBlockHeader (last + 1 - retargetingInterval.toNat) =
      .ok none := by
    have hget := h.getBlockHeader (last + 1 - retargetingInterval.toNat)
    rw [if_neg (by omega)] at hget
    exact congrArg Except.ok hget
  have hlast : (table.ops .none).getBlockHeader last =
      .ok (if first ≤ last ∧ last ≤ last then some (chain last) else none) :=
    congrArg Except.ok (h.getBlockHeader last)
  rw [validateHeaders, lastValidatedHeader, if_neg hstart.ne', hlast]
  by_cases hin : first ≤ last
  · have hinterval : retargetingInterval.toNat = 2016 := by decide
    have href : retargetRef last = last + 1 - retargetingInterval.toNat :=
      (@retargetRef_eq ⟨last, H256.default, 0, .compact 0⟩ hretarget hfits).1
    have hzero : last ≠ 0 := by omega
    have hrefzero : last + 1 - retargetingInterval.toNat ≠ 0 := by
      rw [isRetargetHeight, decide_eq_true_eq, hinterval] at hretarget
      omega
    have hbits : btcMainnetNextBlockBits crypto coin
        (SPVBlockHeader.fromBlockHeaderAndHeight crypto (chain last) last)
        (table.ops .none).getBlockHeader =
          some (.error (.noSuchBlockHeader coin (last + 1 - retargetingInterval.toNat))) := by
      simp only [btcMainnetNextBlockBits, btcRetargetBits, SPVBlockHeader.fromBlockHeaderAndHeight,
        href, hretarget, hmissing, hzero, hrefzero, if_true, if_false]
    have hlink : (chain (last + 1)).previousHeaderHash =
        (SPVBlockHeader.fromBlockHeaderAndHeight crypto (chain last) last).hash :=
      hchain.links last hstart.le
    refine ⟨.difficultyCalculationError
      (.noSuchBlockHeader coin (last + 1 - retargetingInterval.toNat)), ?_, by simp⟩
    simp only [if_pos (show first ≤ last ∧ last ≤ last from ⟨hin, le_rfl⟩)]
    rw [validateFrom, if_neg (not_not.mpr hlink)]
    simp only [checks.validationParams, Option.map_some, Option.getD_some, validateBits,
      checks.check, checks.constant, checks.algorithm, nextBlockBits, hbits]
    simp
  · simp only [hin, false_and, if_false]
    exact ⟨_, rfl, by simp⟩

/-- Where less than two periods are stored, the turn removes the server. -/
theorem syncStep_periodStored (checks : ChecksDifficulty conf coin params)
    (hstart : conf.startingBlockHeader.height ≠ 0) (hchain : ValidChain crypto conf chain)
    (hfits : conf.startingBlockHeader.height + 4031 < 2 ^ 64)
    {max : {n : UInt64 // n ≠ 0}} (hmax : conf.maxStoredBlockHeaders = some max)
    (hlt : max.val.toNat < 2 * retargetingInterval.toNat) (fuel : ℕ) :
    syncStep crypto coin conf fuel (periodStored crypto conf chain) (serves conf chain) = none := by
  have hholds := holds_periodStored hchain hfits
  have hinterval : retargetingInterval.toNat = 2016 := by decide
  have hmod := starting_of_checks checks
  rw [hinterval] at hmod hlt
  obtain ⟨height, hheight⟩ : ∃ height, conf.startingBlockHeader.height = height := ⟨_, rfl⟩
  rw [hheight] at hstart hfits hmod hholds
  obtain ⟨s, hs⟩ : ∃ s, periodStored crypto conf chain = s := ⟨_, rfl⟩
  have hblockCount : s.blockCount = height + 4031 := by
    rw [← hs, ← hheight]
    rfl
  have hchunk : s.chunkSize = 2016 := by
    rw [← hs]
    rfl
  have haddresses : s.electrumAddresses = ["electrum"] := by
    rw [← hs]
    rfl
  have hservers : s.servers = ["electrum"] := by
    rw [← hs]
    rfl
  rw [hs] at hholds ⊢
  -- the first header of the period is removed before the next ones are asked for
  have hremoved := hholds.interval.removeHeaders (height + 4031 - max.val.toNat)
  have hlastHeight : lastHeightInStorage crypto conf s (serves conf chain) =
      .ok (s, height + 2015) := by
    rw [lastHeightInStorage, if_neg (by simp [serves, StorageFaults.none]),
      hholds.interval.getLastBlockHeight hholds.le]
  have hrefresh : refreshBlockCount s (serves conf chain) (height + 2015 + s.chunkSize) =
      .ok s := by
    rw [refreshBlockCount, if_neg (by omega)]
  have hto : min (height + 2015 + s.chunkSize) s.blockCount = height + 4031 := by omega
  have hexcessive : removeExcessiveHeaders conf s (serves conf chain) (height + 4031) =
      { s with table := s.table.removeHeaders 0 (height + 4031 - max.val.toNat) } := by
    simp only [removeExcessiveHeaders, hmax]
    rw [if_pos ⟨by omega, by simp [serves, StorageFaults.none]⟩]
  have hrequest : request crypto conf s (serves conf chain) = .ok
      { state := { s with table := s.table.removeHeaders 0 (height + 4031 - max.val.toNat) }
        lastHeight := height + 2015
        retrieveTo := height + 4031
        server := "electrum" } := by
    simp only [request, hlastHeight]
    change (refreshBlockCount s (serves conf chain) (height + 2015 + s.chunkSize) >>= _) = _
    rw [hrefresh]
    change (if height + 2015 = s.blockCount then _ else _) = _
    rw [if_neg (by omega)]
    simp only [hto, hexcessive, haddresses]
    rfl
  have hn : height + 4031 + 1 - (height + 2015 + 1) = 2015 + 1 := by omega
  have hretrieved : tryToRetrieveHeaders "electrum" (height + 2015 + 1) (height + 4031)
      tryToRetrieveHeadersAttempts 2016
      ((serves conf chain).answers "electrum" 0 (height + 2015 + 1) (height + 4031)) =
        (.ok (chain (height + 2015 + 1) :: segment chain (height + 2015 + 1 + 1) 2015), 2016) := by
    simp only [serves, hn, tryToRetrieveHeaders, retrieveHeadersFrom]
    rw [if_neg (by omega)]
    rfl
  obtain ⟨e, hrejected, hnot⟩ := @validateHeaders_without_first crypto coin conf chain params
    _ _ checks hchain _
    (by rw [isRetargetHeight, decide_eq_true_eq, hinterval]; omega)
    (by rw [hheight]; omega) (by omega) (by omega) (by omega) hremoved
    (segment chain (height + 2015 + 1 + 1) 2015)
  have hfaults : (serves conf chain).faults = .none := rfl
  rw [syncStep, iterate, hrequest]
  simp only [hchunk, hretrieved, storeHeaders, hfaults, hrejected]
  cases e with
  | parentHashMismatch other height => exact absurd rfl (hnot other height)
  | _ => simp [SyncState.removeServer, hservers]

end Turns

/-! ## A chain of which every period takes two weeks -/

namespace TwoWeekPeriods
open Library.Reading (leBytes leNat)

theorem length_take_root (bytes : Bytes) :
    ((bytes.drop 36 ++ List.replicate 32 0).take 32).length = 32 := by
  simp

/-- The hash of a header is its merkle root. -/
def sha256 (bytes : Bytes) : H256 :=
  if h : bytes.length = 32 then ⟨bytes, h⟩
  else ⟨(bytes.drop 36 ++ List.replicate 32 0).take 32, length_take_root bytes⟩

theorem sha256_root {bytes : Bytes} (h : bytes.length = 32) : sha256 bytes = ⟨bytes, h⟩ :=
  dif_pos h

theorem sha256_header {version previous bytes rest : Bytes} (hversion : version.length = 4)
    (hprevious : previous.length = 32) (h : bytes.length = 32) :
    sha256 (version ++ (previous ++ (bytes ++ rest))) = ⟨bytes, h⟩ := by
  have hlong : (version ++ (previous ++ (bytes ++ rest))).length ≠ 32 := by
    simp only [List.length_append]
    omega
  rw [sha256, dif_neg hlong]
  apply Subtype.ext
  simp only
  rw [← List.append_assoc version, List.drop_left' (by rw [List.length_append]; omega),
    List.append_assoc]
  exact List.take_left' h

def crypto : Bitcrypto := ⟨sha256, fun _ => ⟨List.replicate 20 0, length_zeros20⟩⟩

def root (n : ℕ) : H256 := ⟨leBytes 32 n, Reading.length_leBytes 32 n⟩

def chain (n : ℕ) : BlockHeader :=
  { TwoRetargets.header (if n % 2016 = 2015 then 1209600 else 0) with
    previousHeaderHash := root (n - 1)
    merkleRootHash := root n }

def conf : SPVConf where
  startingBlockHeader := SPVBlockHeader.fromBlockHeaderAndHeight crypto (chain 2016) 2016
  maxStoredBlockHeaders := none
  validationParams := some TwoRetargets.params

theorem time_chain (n : ℕ) :
    (chain n).time = if n % 2016 = 2015 then 1209600 else 0 :=
  rfl

/-- The roots are after the version. -/
theorem serialize_front (header : BlockHeaderFields) :
    ∃ version rest : Bytes, version.length = 4 ∧ BlockHeader.serialize ⟨header, none⟩ =
      version ++ (header.previousHeaderHash.val ++ (header.merkleRootHash.val ++ rest)) := by
  simp only [BlockHeader.serialize, BlockHeaderFields.serializeBefore, List.append_assoc]
  exact ⟨_, _, rfl, rfl⟩

theorem hash_chain (n : ℕ) : (chain n).hash crypto = root n := by
  have hserialize : ∃ version rest : Bytes, version.length = 4 ∧
      (chain n).serialize = version ++ ((root (n - 1)).val ++ ((root n).val ++ rest)) :=
    serialize_front (chain n).toBlockHeaderFields
  obtain ⟨version, rest, hversion, heq⟩ := hserialize
  rw [BlockHeader.hash, heq]
  change sha256 (sha256 (version ++ ((root (n - 1)).val ++ ((root n).val ++ rest)))).val = root n
  rw [sha256_header hversion (root (n - 1)).property (root n).property,
    sha256_root (root n).property]

theorem root_injective {n m : ℕ} (hn : n < 2 ^ 64) (hm : m < 2 ^ 64) (h : root n = root m) :
    n = m := by
  have hpow : (2 : ℕ) ^ 64 < 256 ^ 32 := by decide
  rw [← Reading.leNat_leBytes (hn.trans hpow), ← Reading.leNat_leBytes (hm.trans hpow)]
  exact congrArg leNat (congrArg Subtype.val h)

theorem validChain : ValidChain crypto conf chain where
  starting := rfl
  limited := le_rfl
  links n _ := (hash_chain n).symm
  bits n hn := by
    have hinterval : retargetingInterval.toNat = 2016 := by decide
    have hstart : conf.startingBlockHeader.height = 2016 := rfl
    rw [hstart] at hn
    cases hretarget : isRetargetHeight (n + 1) with
    | false => simp [ruleBits, SPVBlockHeader.fromBlockHeaderAndHeight, hretarget, chain,
        TwoRetargets.header]
    | true =>
      have hmod : (n + 1) % 2016 = 0 := by
        rwa [isRetargetHeight, decide_eq_true_eq, hinterval] at hretarget
      have hfirst : (chain (n + 1 - retargetingInterval.toNat)).time = 0 := by
        rw [hinterval, time_chain, if_neg (by omega)]
      have hlast : (chain n).time = 1209600 := by
        rw [time_chain, if_pos (by omega)]
      rw [ruleBits_of_retarget hretarget, Option.bind_some]
      simp only [SPVBlockHeader.fromBlockHeaderAndHeight, hfirst, hlast]
      change (Compact.fromU256 (ruleTarget (.compact maxBitsBtc.bits) 0 1209600)).map _ = _
      rw [TwoRetargets.fromU256_ruleTarget (by decide)]
      rfl
  hash_injective n m hn hm h := by
    rw [hash_chain, hash_chain] at h
    exact root_injective hn hm h

theorem checksDifficulty : ChecksDifficulty conf "BTC" TwoRetargets.params where
  valid := rfl
  validationParams := rfl
  check := rfl
  constant := rfl
  algorithm := rfl

end TwoWeekPeriods

end DeXFG.Spv
