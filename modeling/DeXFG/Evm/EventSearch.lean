import DeXFG.Evm.Coin

/-!
# The search for the event of a spend

Until a deadline the node is asked again and again for its height, and then for the events of all
blocks up to it, some blocks at a time. The deadline is not looked at while events are asked for.
-/
namespace DeXFG.Evm
open Library.StaticAbi

/-- An event as a node shows it. -/
structure Log where
  data : List UInt8
  transactionHash : Option (FixedBytes 32)
  deriving DecidableEq

inductive FindPaymentSpendError where
  | timeout (waitUntil now : UInt64)
  | invalidInputTx (msg : String)
  | internal (msg : String)
  | abiError (msg : String)
  | invalidData (msg : String)
  | transport (msg : String)
  deriving DecidableEq

structure SpendTxSearchParams where
  swapId : FixedBytes 32
  fromBlock : UInt64
  waitUntil : UInt64

/-- What the clock shows and the node answers in one turn of a loop. -/
structure Turn where
  now : UInt64
  currentBlock : Except String UInt64
  eventsFromBlock : UInt64 → UInt64 → Except FindPaymentSpendError (List Log)

/-- Before a turn of the outer loop, before one of the inner loop, or at the end. -/
inductive EventSearch where
  | waiting
  | scanning (nextFromBlock currentBlock : UInt64)
  | returned (result : Except FindPaymentSpendError (FixedBytes 32))
  deriving DecidableEq

/-- The condition of the inner loop. -/
def EventSearch.scan (nextFromBlock currentBlock : UInt64) : EventSearch :=
  if nextFromBlock ≤ currentBlock then .scanning nextFromBlock currentBlock else .waiting

/-- The last block that is asked for from some block on. -/
def windowEnd (logsBlockRange nextFromBlock currentBlock : UInt64) : UInt64 :=
  min (nextFromBlock + logsBlockRange - 1) currentBlock

namespace SpendTxSearchParams

variable (params : SpendTxSearchParams) (logsBlockRange : UInt64)

/-- The data of the event begins with the id of the swap. -/
def isOfSwap (event : Log) : Bool :=
  decide (32 ≤ event.data.length) && decide (event.data.take 32 = params.swapId.val)

/-- The hash of the first event of the swap, if it has one. -/
def foundHash (events : List Log) : Option (FixedBytes 32) :=
  (events.find? params.isOfSwap).bind Log.transactionHash

/-- A turn of the inner loop. -/
def scanBlocks (nextFromBlock currentBlock : UInt64) (turn : Turn) : EventSearch :=
  match turn.eventsFromBlock nextFromBlock
      (windowEnd logsBlockRange nextFromBlock currentBlock) with
  | .error _ => .scanning nextFromBlock currentBlock
  | .ok events =>
    match params.foundHash events with
    | some hash => .returned (.ok hash)
    | none => .scan (nextFromBlock + logsBlockRange) currentBlock

/-- A turn of `find_transaction_hash_by_event`. -/
def findTransactionHashByEvent (search : EventSearch) (turn : Turn) : EventSearch :=
  match search with
  | .waiting =>
    if params.waitUntil < turn.now then .returned (.error (.timeout params.waitUntil turn.now))
    else
      match turn.currentBlock with
      | .ok b => .scan params.fromBlock b
      | .error _ => .waiting
  | .scanning nextFromBlock currentBlock =>
    params.scanBlocks logsBlockRange nextFromBlock currentBlock turn
  | .returned result => .returned result

/-- The search before its `n`-th turn. -/
def searchAt (turns : ℕ → Turn) : ℕ → EventSearch
  | 0 => .waiting
  | n + 1 => params.findTransactionHashByEvent logsBlockRange (searchAt turns n) (turns n)

end SpendTxSearchParams

/-! ## When the search returns -/

/-- Blocks are asked for by at least one, and far below what a `u64` holds. -/
structure Regular (logsBlockRange : UInt64) (turns : ℕ → Turn) : Prop where
  pos : 0 < logsBlockRange.toNat
  fits : ∀ n b, (turns n).currentBlock = .ok b → b.toNat + logsBlockRange.toNat < 2 ^ 64

namespace SpendTxSearchParams

variable {params : SpendTxSearchParams} {logsBlockRange : UInt64} {turns : ℕ → Turn} {n : ℕ}
  {nextFromBlock currentBlock : UInt64}

/-- The search asks for events in the turn, and gets an error. -/
def Fails (params : SpendTxSearchParams) (logsBlockRange : UInt64) (turns : ℕ → Turn) (n : ℕ) :
    Prop :=
  ∃ nextFromBlock currentBlock e,
    params.searchAt logsBlockRange turns n = .scanning nextFromBlock currentBlock ∧
    (turns n).eventsFromBlock nextFromBlock
      (windowEnd logsBlockRange nextFromBlock currentBlock) = .error e

theorem scanning_of_scan {first last : UInt64}
    (h : EventSearch.scan first last = .scanning nextFromBlock currentBlock) :
    first = nextFromBlock ∧ last = currentBlock ∧ nextFromBlock ≤ currentBlock := by
  rw [EventSearch.scan] at h
  split at h
  next hle =>
    cases h
    exact ⟨rfl, rfl, hle⟩
  next => cases h

theorem toNat_next (hregular : Regular logsBlockRange turns)
    (hreported : ∃ m, (turns m).currentBlock = .ok currentBlock)
    (hle : nextFromBlock ≤ currentBlock) :
    (nextFromBlock + logsBlockRange).toNat = nextFromBlock.toNat + logsBlockRange.toNat := by
  obtain ⟨m, hm⟩ := hreported
  have hfits := hregular.fits m currentBlock hm
  rw [UInt64.le_iff_toNat_le] at hle
  rw [UInt64.toNat_add, Nat.mod_eq_of_lt (by omega)]

/-- The height is one that the node reported, and has not been passed. -/
theorem reported_of_scanning
    (h : params.searchAt logsBlockRange turns n = .scanning nextFromBlock currentBlock) :
    (∃ m, (turns m).currentBlock = .ok currentBlock) ∧ nextFromBlock ≤ currentBlock := by
  induction n generalizing nextFromBlock with
  | zero => cases h
  | succ n ih =>
    rw [searchAt] at h
    cases hsearch : params.searchAt logsBlockRange turns n with
    | waiting =>
      simp only [hsearch, findTransactionHashByEvent] at h
      split at h
      · cases h
      · split at h
        next b hb =>
          obtain ⟨_, rfl, hle⟩ := scanning_of_scan h
          exact ⟨⟨n, hb⟩, hle⟩
        next => cases h
    | scanning first last =>
      simp only [hsearch, findTransactionHashByEvent, scanBlocks] at h
      split at h
      next =>
        cases h
        exact ih hsearch
      next =>
        split at h
        · cases h
        · obtain ⟨_, rfl, hle⟩ := scanning_of_scan h
          exact ⟨(ih hsearch).1, hle⟩
    | returned result =>
      simp only [hsearch, findTransactionHashByEvent] at h
      cases h

/-- What has returned stays so. -/
theorem searchAt_of_returned {result : Except FindPaymentSpendError (FixedBytes 32)}
    (h : params.searchAt logsBlockRange turns n = .returned result) {m : ℕ} (hle : n ≤ m) :
    params.searchAt logsBlockRange turns m = .returned result := by
  induction m, hle using Nat.le_induction with
  | base => exact h
  | succ m hle ih => rw [searchAt, ih, findTransactionHashByEvent]

/-- The blocks up to the height that have not been asked for. -/
def blocksLeft : EventSearch → ℕ
  | .scanning nextFromBlock currentBlock => currentBlock.toNat - nextFromBlock.toNat
  | _ => 0

/-- A query that is answered leaves fewer blocks, unless it ends the pass. -/
theorem blocksLeft_lt (hregular : Regular logsBlockRange turns)
    (h : params.searchAt logsBlockRange turns n = .scanning nextFromBlock currentBlock)
    (hnot : ¬ params.Fails logsBlockRange turns n) {nextFromBlock' currentBlock' : UInt64}
    (h' : params.searchAt logsBlockRange turns (n + 1) =
      .scanning nextFromBlock' currentBlock') :
    blocksLeft (params.searchAt logsBlockRange turns (n + 1)) <
      blocksLeft (params.searchAt logsBlockRange turns n) := by
  have hreported := reported_of_scanning h
  have hnext := toNat_next hregular hreported.1 hreported.2
  have hle := (reported_of_scanning h').2
  have hpos := hregular.pos
  rw [h', h]
  rw [searchAt, h, findTransactionHashByEvent, scanBlocks] at h'
  split at h'
  next e he => exact absurd ⟨_, _, e, h, he⟩ hnot
  next =>
    split at h'
    · cases h'
    · obtain ⟨rfl, rfl, _⟩ := scanning_of_scan h'
      rw [UInt64.le_iff_toNat_le] at hle
      simp only [blocksLeft]
      omega

/-- A query that fails is made again. -/
theorem searchAt_succ_of_fails (h : params.Fails logsBlockRange turns n) :
    params.searchAt logsBlockRange turns (n + 1) = params.searchAt logsBlockRange turns n := by
  obtain ⟨first, last, e, hscanning, he⟩ := h
  rw [searchAt, hscanning, findTransactionHashByEvent, scanBlocks, he]

/-- A pass from the turn in which the node reports its height to the one before which the search
has left the blocks up to it. -/
structure Pass (params : SpendTxSearchParams) (logsBlockRange : UInt64) (turns : ℕ → Turn)
    (m n : ℕ) (currentBlock : UInt64) : Prop where
  lt : m < n
  waiting : params.searchAt logsBlockRange turns m = .waiting
  early : (turns m).now ≤ params.waitUntil
  reported : (turns m).currentBlock = .ok currentBlock
  scanning : ∀ k, m < k → k < n → ∃ nextFromBlock,
    params.searchAt logsBlockRange turns k = .scanning nextFromBlock currentBlock
  left : ∀ nextFromBlock,
    params.searchAt logsBlockRange turns n ≠ .scanning nextFromBlock currentBlock

/-- In the turns of a pass the node answers with the events of a chain, each of a transaction. -/
structure Truthful (turns : ℕ → Turn) (m n : ℕ) (chain : UInt64 → List Log) : Prop where
  answers : ∀ k, m < k → k < n → ∀ first last events,
    (turns k).eventsFromBlock first last = .ok events →
    ∀ event, event ∈ events ↔ ∃ block, first ≤ block ∧ block ≤ last ∧ event ∈ chain block
  mined : ∀ block, ∀ event ∈ chain block, event.transactionHash.isSome

/-- An event of the swap in some block up to the height, with the hash of its transaction. -/
def Holds (params : SpendTxSearchParams) (chain : UInt64 → List Log) (currentBlock : UInt64)
    (hash : FixedBytes 32) : Prop :=
  ∃ block event, params.fromBlock ≤ block ∧ block ≤ currentBlock ∧ event ∈ chain block ∧
    params.isOfSwap event = true ∧ event.transactionHash = some hash

/-- What is known of the blocks in each state of a pass. -/
def Progress (params : SpendTxSearchParams) (chain : UInt64 → List Log) (currentBlock : UInt64) :
    EventSearch → Prop
  | .scanning nextFromBlock last => last = currentBlock ∧ params.fromBlock ≤ nextFromBlock ∧
      ∀ block, params.fromBlock ≤ block → block < nextFromBlock →
        ∀ event ∈ chain block, params.isOfSwap event = false
  | .waiting => ∀ block, params.fromBlock ≤ block → block ≤ currentBlock →
      ∀ event ∈ chain block, params.isOfSwap event = false
  | .returned (.ok hash) => params.Holds chain currentBlock hash
  | .returned (.error _) => False

variable {chain : UInt64 → List Log} {m : ℕ}

theorem progress_scan {first : UInt64} (hle : params.fromBlock ≤ first)
    (h : ∀ block, params.fromBlock ≤ block → block < first → block ≤ currentBlock →
      ∀ event ∈ chain block, params.isOfSwap event = false) :
    params.Progress chain currentBlock (.scan first currentBlock) := by
  rw [EventSearch.scan]
  split
  next hfirst =>
    exact ⟨rfl, hle, fun block hfrom hlt =>
      h block hfrom hlt (UInt64.le_of_lt (UInt64.lt_of_lt_of_le hlt hfirst))⟩
  next hfirst =>
    intro block hfrom hblock
    exact h block hfrom (UInt64.lt_of_le_of_lt hblock (UInt64.not_le.mp hfirst)) hblock

/-- The blocks of a window are those from its first one on that are not past its end. -/
theorem mem_window (hregular : Regular logsBlockRange turns)
    (hreported : ∃ m, (turns m).currentBlock = .ok currentBlock)
    (hle : nextFromBlock ≤ currentBlock) {block : UInt64} :
    block ≤ windowEnd logsBlockRange nextFromBlock currentBlock ↔
      block < nextFromBlock + logsBlockRange ∧ block ≤ currentBlock := by
  have hnext := toNat_next hregular hreported hle
  have hpos := hregular.pos
  have hend : (nextFromBlock + logsBlockRange - 1).toNat + 1 =
      (nextFromBlock + logsBlockRange).toNat := by
    have hone : (1 : UInt64).toNat = 1 := rfl
    rw [UInt64.toNat_sub_of_le _ _ (by rw [UInt64.le_iff_toNat_le]; omega)]
    omega
  rw [windowEnd, Std.le_min_iff, UInt64.le_iff_toNat_le, UInt64.lt_iff_toNat_lt]
  apply and_congr_left
  intro _
  omega

theorem progress_scanBlocks (hregular : Regular logsBlockRange turns)
    (htruthful : Truthful turns m n chain)
    (hreported : ∃ m, (turns m).currentBlock = .ok currentBlock)
    (hle : nextFromBlock ≤ currentBlock) {k : ℕ} (hm : m < k) (hn : k < n)
    (h : params.Progress chain currentBlock (.scanning nextFromBlock currentBlock)) :
    params.Progress chain currentBlock
      (params.scanBlocks logsBlockRange nextFromBlock currentBlock (turns k)) := by
  obtain ⟨_, hfrom, hnone⟩ := h
  rw [scanBlocks]
  cases hevents : (turns k).eventsFromBlock nextFromBlock
    (windowEnd logsBlockRange nextFromBlock currentBlock) with
  | error e => exact ⟨rfl, hfrom, hnone⟩
  | ok events =>
    have hanswers := htruthful.answers k hm hn _ _ _ hevents
    simp only
    cases hfound : params.foundHash events with
    | some hash =>
      obtain ⟨event, hfind, hhash⟩ := Option.bind_eq_some_iff.mp hfound
      obtain ⟨block, hfirst, hlast, hmem⟩ := (hanswers event).mp (List.mem_of_find?_eq_some hfind)
      rw [mem_window hregular hreported hle] at hlast
      exact ⟨block, event, UInt64.le_trans hfrom hfirst, hlast.2, hmem,
        List.find?_some hfind, hhash⟩
    | none =>
      have hnot : ∀ event ∈ events, params.isOfSwap event = false := by
        cases hfind : events.find? params.isOfSwap with
        | none => simpa using hfind
        | some event =>
          obtain ⟨block, _, _, hmem⟩ := (hanswers event).mp (List.mem_of_find?_eq_some hfind)
          have hsome := htruthful.mined block event hmem
          rw [foundHash, hfind, Option.bind_some] at hfound
          rw [hfound] at hsome
          cases hsome
      have hnext := toNat_next hregular hreported hle
      apply progress_scan
      · rw [UInt64.le_iff_toNat_le] at hfrom ⊢
        omega
      · intro block hblock hlt hcurrent event hmem
        by_cases hbefore : block < nextFromBlock
        · exact hnone block hblock hbefore event hmem
        · apply hnot event
          rw [hanswers]
          exact ⟨block, UInt64.not_lt.mp hbefore,
            (mem_window hregular hreported hle).mpr ⟨hlt, hcurrent⟩, hmem⟩

/-- A pass with a truthful node returns the hash of an event of the swap that is in the blocks, and
goes back to waiting only if there is none. -/
theorem hash_of_pass (hregular : Regular logsBlockRange turns)
    (hpass : params.Pass logsBlockRange turns m n currentBlock)
    (htruthful : Truthful turns m n chain) :
    (params.searchAt logsBlockRange turns n = .waiting ∧
        ∀ hash, ¬ params.Holds chain currentBlock hash) ∨
      ∃ hash, params.searchAt logsBlockRange turns n = .returned (.ok hash) ∧
        params.Holds chain currentBlock hash := by
  have hprogress : ∀ k, m + 1 ≤ k → k ≤ n →
      params.Progress chain currentBlock (params.searchAt logsBlockRange turns k) := by
    intro k hm
    induction k, hm using Nat.le_induction with
    | base =>
      intro _
      rw [searchAt, hpass.waiting, findTransactionHashByEvent,
        if_neg (UInt64.not_lt.mpr hpass.early), hpass.reported]
      apply progress_scan (UInt64.le_refl _)
      intro block hfrom hlt
      exact absurd hlt (UInt64.not_lt.mpr hfrom)
    | succ k hm ih =>
      intro hn
      obtain ⟨nextFromBlock, hscanning⟩ := hpass.scanning k hm hn
      have hk := ih (by omega)
      have hle := (reported_of_scanning hscanning).2
      rw [hscanning] at hk
      rw [searchAt, hscanning, findTransactionHashByEvent]
      exact progress_scanBlocks hregular htruthful ⟨m, hpass.reported⟩ hle hm hn hk
  have hn := hprogress n hpass.lt le_rfl
  cases hsearch : params.searchAt logsBlockRange turns n with
  | waiting =>
    rw [hsearch] at hn
    left
    refine ⟨rfl, ?_⟩
    intro hash hholds
    obtain ⟨block, event, hfrom, hblock, hmem, hof, _⟩ := hholds
    rw [hn block hfrom hblock event hmem] at hof
    cases hof
  | scanning next last =>
    rw [hsearch] at hn
    obtain ⟨rfl, _⟩ := hn
    exact absurd hsearch (hpass.left next)
  | returned result =>
    rw [hsearch] at hn
    cases result with
    | error e => exact hn.elim
    | ok hash => exact .inr ⟨hash, rfl, hn⟩

end SpendTxSearchParams

/-! ## An event in the third of five blocks -/

namespace ThirdBlock

open SpendTxSearchParams

theorem length_zeros : (List.replicate 32 (0 : UInt8)).length = 32 := List.length_replicate

def spend : Log where
  data := List.replicate 32 0
  transactionHash := some ⟨List.replicate 32 0, length_zeros⟩

/-- The chain with an event in its third block. -/
def chainOf (event : Log) (block : UInt64) : List Log := if block = 3 then [event] else []

def eventsOf (event : Log) (first last : UInt64) : List Log :=
  if first ≤ 3 ∧ 3 ≤ last then [event] else []

theorem mem_eventsOf (event other : Log) (first last : UInt64) :
    other ∈ eventsOf event first last ↔
      ∃ block, first ≤ block ∧ block ≤ last ∧ other ∈ chainOf event block := by
  rw [eventsOf]
  constructor
  · intro hmem
    split at hmem
    next hwindow => exact ⟨3, hwindow.1, hwindow.2, hmem⟩
    next => cases hmem
  · intro h
    obtain ⟨block, hfirst, hlast, hmem⟩ := h
    rw [chainOf] at hmem
    split at hmem
    next heq =>
      rw [heq] at hfirst hlast
      rw [if_pos ⟨hfirst, hlast⟩]
      exact hmem
    next => cases hmem

def params : SpendTxSearchParams where
  swapId := ⟨List.replicate 32 0, length_zeros⟩
  fromBlock := 1
  waitUntil := 50

def answering (now : UInt64) : Turn where
  now := now
  currentBlock := .ok 5
  eventsFromBlock first last := .ok (eventsOf spend first last)

theorem regular (now : UInt64) : Regular 1000 fun _ => answering now where
  pos := by decide
  fits _ b h := by
    cases h
    decide

theorem truthful (now : UInt64) (m n : ℕ) :
    Truthful (fun _ => answering now) m n (chainOf spend) where
  answers _ _ _ first last events h event := by
    cases h
    exact mem_eventsOf spend event first last
  mined block event hmem := by
    rw [chainOf] at hmem
    split at hmem
    · cases List.mem_singleton.mp hmem
      rfl
    · cases hmem

theorem pass : Pass params 1000 (fun _ => answering 0) 0 2 5 where
  lt := by decide
  waiting := rfl
  early := by decide
  reported := rfl
  scanning k hm hn := by
    obtain rfl : k = 1 := by omega
    exact ⟨1, rfl⟩
  left nextFromBlock h := by cases h

end ThirdBlock

open SpendTxSearchParams

theorem hash_of_pass_thirdBlock :
    (ThirdBlock.params.searchAt 1000 (fun _ => ThirdBlock.answering 0) 2 = .waiting ∧
        ∀ hash, ¬ ThirdBlock.params.Holds (ThirdBlock.chainOf ThirdBlock.spend) 5 hash) ∨
      ∃ hash, ThirdBlock.params.searchAt 1000 (fun _ => ThirdBlock.answering 0) 2 =
          .returned (.ok hash) ∧
        ThirdBlock.params.Holds (ThirdBlock.chainOf ThirdBlock.spend) 5 hash :=
  hash_of_pass (ThirdBlock.regular 0) ThirdBlock.pass (ThirdBlock.truthful 0 0 2)

end DeXFG.Evm
