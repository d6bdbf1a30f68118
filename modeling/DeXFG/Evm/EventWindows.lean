import DeXFG.Evm.EventSearch
import DeXFG.Evm.LegacyPayment
import DeXFG.Evm.PaymentLifecycle
import DeXFG.Library.Loops

/-!
# Searches to the end of the chain

A payment, and what became of it, is looked for in the events of the contract, from some block to
the height of the chain. The windows of blocks that the node is asked for overlap in one block.
-/
namespace DeXFG.Evm
open Library.StaticAbi
open Library.Loops (Flow loop loop_ends)

/-! ## Windows of blocks -/

section Windows

variable {α : Type} (logsBlockRange currentBlock : UInt64)
  (look : UInt64 → UInt64 → Res String (Option α))

/-- A turn of a search, which ends where something is found or the current block was reached. -/
def searchBlocks (fromBlock : UInt64) : Flow (Res String (Option α)) UInt64 :=
  let toBlock := min currentBlock (fromBlock + logsBlockRange)
  match look fromBlock toBlock with
  | .error e => .done (.error e)
  | .ok (some found) => .done (.ok (some found))
  | .ok none => if currentBlock ≤ toBlock then .done (.ok none) else .again toBlock

/-- Each block from one to before another is in a window in which nothing was found. -/
def NothingIn (first until' : UInt64) : Prop :=
  ∀ block, first ≤ block → block < until' → ∃ first' last, first ≤ first' ∧ first' ≤ block ∧
    block ≤ last ∧ look first' last = .ok none

/-- What a search comes to. -/
def Searched (first : UInt64) : Res String (Option α) → Prop
  | .ok none => ∀ block, first ≤ block → block ≤ currentBlock → ∃ first' last, first ≤ first' ∧
      first' ≤ block ∧ block ≤ last ∧ look first' last = .ok none
  | .ok (some found) => ∃ first' last, first ≤ first' ∧ last ≤ currentBlock ∧
      look first' last = .ok (some found) ∧ NothingIn look first first'
  | .error e => ∃ first' last, first ≤ first' ∧ last ≤ currentBlock ∧ look first' last = .error e

variable {logsBlockRange currentBlock look}

theorem searchBlocks_holds {first fromBlock : UInt64} (hpos : 0 < logsBlockRange.toNat)
    (hfits : currentBlock.toNat + logsBlockRange.toNat < 2 ^ 64) (hfirst : first ≤ fromBlock)
    (hle : fromBlock ≤ currentBlock) (hnothing : NothingIn look first fromBlock) :
    (searchBlocks logsBlockRange currentBlock look fromBlock).Holds
      (Searched currentBlock look first) fun toBlock =>
        (first ≤ toBlock ∧ toBlock ≤ currentBlock ∧ NothingIn look first toBlock) ∧
          currentBlock.toNat - toBlock.toNat < currentBlock.toNat - fromBlock.toNat := by
  have hsum : (fromBlock + logsBlockRange).toNat = fromBlock.toNat + logsBlockRange.toNat := by
    rw [UInt64.le_iff_toNat_le] at hle
    rw [UInt64.toNat_add, Nat.mod_eq_of_lt (by omega)]
  have hto : min currentBlock (fromBlock + logsBlockRange) ≤ currentBlock :=
    (Std.le_min_iff.mp (UInt64.le_refl _)).1
  simp only [searchBlocks]
  cases hlook : look fromBlock (min currentBlock (fromBlock + logsBlockRange)) with
  | error e => exact ⟨_, _, hfirst, hto, hlook⟩
  | ok found =>
    cases found with
    | some a => exact ⟨_, _, hfirst, hto, hlook, hnothing⟩
    | none =>
      have hcovered : ∀ block, first ≤ block →
          block ≤ min currentBlock (fromBlock + logsBlockRange) → ∃ first' last, first ≤ first' ∧
            first' ≤ block ∧ block ≤ last ∧ look first' last = .ok none := by
        intro block hblock hlast
        by_cases hbefore : block < fromBlock
        · exact hnothing block hblock hbefore
        · exact ⟨_, _, hfirst, UInt64.not_lt.mp hbefore, hlast, hlook⟩
      simp only
      split
      next hend =>
        intro block hblock hcurrent
        exact hcovered block hblock (UInt64.le_trans hcurrent hend)
      next hend =>
        have hlt : fromBlock + logsBlockRange < currentBlock := by
          rw [Std.le_min_iff, not_and, UInt64.not_le] at hend
          exact hend (UInt64.le_refl _)
        have hmin : min currentBlock (fromBlock + logsBlockRange) =
            fromBlock + logsBlockRange := by
          apply UInt64.le_antisymm (Std.le_min_iff.mp (UInt64.le_refl _)).2
          exact Std.le_min_iff.mpr ⟨UInt64.le_of_lt hlt, UInt64.le_refl _⟩
        rw [hmin] at hcovered ⊢
        rw [UInt64.lt_iff_toNat_lt] at hlt
        refine ⟨⟨?_, UInt64.le_of_lt (UInt64.lt_iff_toNat_lt.mpr hlt), ?_⟩, by omega⟩
        · rw [UInt64.le_iff_toNat_le] at hfirst ⊢
          omega
        · intro block hblock hbefore
          exact hcovered block hblock (UInt64.le_of_lt hbefore)

/-- A search ends, and what it comes to covers all blocks up to where it ended. -/
theorem searchBlocks_ends {first : UInt64} {fuel : ℕ} (hpos : 0 < logsBlockRange.toNat)
    (hfits : currentBlock.toNat + logsBlockRange.toNat < 2 ^ 64) (hle : first ≤ currentBlock)
    (hfuel : currentBlock.toNat - first.toNat < fuel) :
    ∃ result, loop (searchBlocks logsBlockRange currentBlock look) fuel first = some result ∧
      Searched currentBlock look first result := by
  have hnothing : NothingIn look first first :=
    fun _ hblock hbefore => absurd hbefore (UInt64.not_lt.mpr hblock)
  refine loop_ends (I := fun fromBlock => first ≤ fromBlock ∧ fromBlock ≤ currentBlock ∧
    NothingIn look first fromBlock) (fun fromBlock => currentBlock.toNat - fromBlock.toNat) ?_
    ⟨UInt64.le_refl _, hle, hnothing⟩ hfuel
  intro fromBlock h
  exact searchBlocks_holds hpos hfits h.1 h.2.1 h.2.2

end Windows

/-! ## The searches -/

/-- What else the node is asked for, and what is made of bytes and of its transactions. -/
structure EventNode extends EthNode where
  currentBlock : Except String UInt64
  paymentSentEvents : Address → UInt64 → UInt64 → Except String (List Log)
  /-- The events `ReceiverSpent`. -/
  spendEvents : Address → UInt64 → UInt64 → Except String (List Log)
  refundEvents : Address → UInt64 → UInt64 → Except String (List Log)
  signedTx : List UInt8 → Except String SignedEthTx
  signedTxFromWeb3Tx : Web3Tx → Except String SignedEthTx

/-- `&event.data.0[..32] == id` for one event after the other. -/
def findEvent {ε : Type} (id : List UInt8) : List Log → Res ε (Option Log)
  | [] => .ok none
  | event :: events =>
    if event.data.length < 32 then
      .error (.panic "range end index 32 out of range for slice")
    else if event.data.take 32 = id then .ok (some event)
    else findEvent id events

structure CheckIfMyPaymentSentArgs where
  timeLock : UInt64
  secretHash : List UInt8
  searchFromBlock : UInt64
  swapContractAddress : Option (List UInt8)

/-- `PaymentState::Uninitialized`. -/
def paymentStateUninitialized : U256 := U256.zero

inductive FoundSwapTxSpend where
  | spent (tx : SignedEthTx)
  | refunded (tx : SignedEthTx)
  deriving DecidableEq

/-- A hash in the text of an error. -/
def hexText (hash : List UInt8) : String :=
  String.ofList (hash.flatMap fun byte =>
    [Nat.digitChar (byte.toNat / 16), Nat.digitChar (byte.toNat % 16)])

/-- The blocks of a search. -/
structure BlockSearch where
  address : Address
  id : List UInt8
  currentBlock : UInt64
  deriving DecidableEq

namespace EventNode

variable (node : EventNode)

/-- The height, or the block that the search begins with where that is later. -/
def currentBlockFrom (searchFromBlock : UInt64) : Res String UInt64 := do
  let currentBlock ← orErr node.currentBlock id
  pure (if currentBlock < searchFromBlock then searchFromBlock else currentBlock)

/-! ### Is my payment sent? -/

/-- What is looked for in some blocks; a payment without a transaction ends the search too. -/
def lookForPayment (search : BlockSearch) (fromBlock toBlock : UInt64) :
    Res String (Option (Option SignedEthTx)) := do
  let events ← orErr (node.paymentSentEvents search.address fromBlock toBlock) id
  match ← findEvent search.id events with
  | none => pure none
  | some event =>
    match event.transactionHash with
    | none => .error (.panic "called `Option::unwrap()` on a `None` value")
    | some hash =>
      match ← orErr (node.transaction hash) id with
      | none => pure (some none)
      | some t =>
        let tx ← orErr (node.signedTxFromWeb3Tx t) id
        pure (some (some tx))

/-- What happens before any event is asked for. -/
def beforeCheck (lib : EvmLib) (args : CheckIfMyPaymentSentArgs) :
    Res String (Option BlockSearch) := do
  let timeLock ← okOr (tryIntoU32 args.timeLock)
    "out of range integral type conversion attempted"
  let swapId := etomicSwapId lib timeLock args.secretHash
  let address ← orErr (tryToAddress args.swapContractAddress) id
  let status ← orErr (node.paymentStatus address swapId) id
  if status = paymentStateUninitialized then pure none
  else
    let currentBlock ← node.currentBlockFrom args.searchFromBlock
    pure (some { address := address, id := swapId, currentBlock := currentBlock })

def checkIfMyPaymentSent (lib : EvmLib) (logsBlockRange : UInt64)
    (args : CheckIfMyPaymentSentArgs) (fuel : ℕ) : Option (Res String (Option SignedEthTx)) :=
  match node.beforeCheck lib args with
  | .error e => some (.error e)
  | .ok none => some (.ok none)
  | .ok (some search) =>
    (loop (searchBlocks logsBlockRange search.currentBlock (node.lookForPayment search)) fuel
      args.searchFromBlock).map fun result => result.map Option.join

/-! ### What became of a payment? -/

/-- The transaction of the event of one kind. -/
def transactionOfEvent (name : String) (swapId : List UInt8)
    (events : Except String (List Log)) : Res String (Option SignedEthTx) := do
  let events ← orErr events id
  match ← findEvent swapId events with
  | none => pure none
  | some event =>
    match event.transactionHash with
    | none => fail ("Found " ++ name ++ " event, but it doesn't have tx_hash")
    | some hash =>
      match ← orErr (node.transaction hash) id with
      | none =>
        fail ("Found " ++ name ++ " event, but transaction " ++ hexText hash.val ++
          " is missing")
      | some t =>
        let tx ← orErr (node.signedTxFromWeb3Tx t) id
        pure (some tx)

/-- Spends are looked for first, then refunds. -/
def lookForSpend (search : BlockSearch) (fromBlock toBlock : UInt64) :
    Res String (Option FoundSwapTxSpend) := do
  match ← node.transactionOfEvent "ReceiverSpent" search.id
      (node.spendEvents search.address fromBlock toBlock) with
  | some tx => pure (some (.spent tx))
  | none =>
    match ← node.transactionOfEvent "SenderRefunded" search.id
        (node.refundEvents search.address fromBlock toBlock) with
    | some tx => pure (some (.refunded tx))
    | none => pure none

/-- The error of a call of no payment function, without the selectors. -/
def notAPayment : String := "Transaction is not a payment call."

/-- The payment function with the selector of a call; the contract need not have one with a
reward. -/
def funcToUse (abi : Ethabi) (contract : Contract) (coinType : EthCoinType)
    (selector : List UInt8) : Res String AbiFunction := do
  let name ← match coinType with
    | .eth => pure "ethPayment"
    | .erc20 _ _ => pure "erc20Payment"
    | .nft _ => fail "NFT is not supported yet!"
  let paymentFunc ← orErr (contract.function name) fun _ => "Invalid name"
  if selector = (abi.shortSignature paymentFunc).val then pure paymentFunc
  else
    match contract.function (name ++ "Reward") with
    | .ok rewardFunc =>
      if selector = (abi.shortSignature rewardFunc).val then pure rewardFunc
      else fail notAPayment
    | .error _ => fail notAPayment

/-- The id of the payment that a transaction makes, and the blocks of the search for it. -/
def beforeSearch (abi : Ethabi) (contract : Contract) (coinType : EthCoinType) (tx : List UInt8)
    (swapContractAddress : Address) (searchFromBlock : UInt64) : Res String BlockSearch := do
  let tx ← orErr (node.signedTx tx) id
  let txData := tx.unsigned.data
  ensure (4 ≤ txData.length) "Transaction data too short to contain function selector"
  let func ← funcToUse abi contract coinType (txData.take 4)
  let decoded ← orErr (decodeContractCall abi func txData) fun _ => "Contract call"
  let swapId ← match decoded.head? with
    | some (.fixedBytes bytes) => pure bytes
    | _ => fail "Expected Token::FixedBytes"
  let currentBlock ← node.currentBlockFrom searchFromBlock
  pure { address := swapContractAddress, id := swapId, currentBlock := currentBlock }

def searchForSwapTxSpend (abi : Ethabi) (contract : Contract) (coinType : EthCoinType)
    (logsBlockRange : UInt64) (tx : List UInt8) (swapContractAddress : Address)
    (searchFromBlock : UInt64) (fuel : ℕ) : Option (Res String (Option FoundSwapTxSpend)) :=
  match node.beforeSearch abi contract coinType tx swapContractAddress searchFromBlock with
  | .error e => some (.error e)
  | .ok search =>
    loop (searchBlocks logsBlockRange search.currentBlock (node.lookForSpend search)) fuel
      searchFromBlock

end EventNode

/-! ## What the searches find -/

/-- The node answers with the events of the blocks asked for. -/
def Answers (answer : UInt64 → UInt64 → Except String (List Log))
    (chain : UInt64 → List Log) : Prop :=
  ∀ first last events, answer first last = .ok events →
    ∀ event, event ∈ events ↔ ∃ block, first ≤ block ∧ block ≤ last ∧ event ∈ chain block

/-- No event in some blocks has data that begins with the id. -/
def NoEvent (chain : UInt64 → List Log) (swapId : List UInt8) (first last : UInt64) : Prop :=
  ∀ block, first ≤ block → block ≤ last → ∀ event ∈ chain block, event.data.take 32 ≠ swapId

/-- Some event in some blocks has less data than an id. -/
def ShortEvent (chain : UInt64 → List Log) (first last : UInt64) : Prop :=
  ∃ block event, first ≤ block ∧ block ≤ last ∧ event ∈ chain block ∧ event.data.length < 32

theorem ShortEvent.mono {chain : UInt64 → List Log} {first last first' last' : UInt64}
    (h : ShortEvent chain first' last') (hfirst : first ≤ first') (hlast : last' ≤ last) :
    ShortEvent chain first last := by
  obtain ⟨block, event, hle, hle', hmem, hshort⟩ := h
  exact ⟨block, event, UInt64.le_trans hfirst hle, UInt64.le_trans hle' hlast, hmem, hshort⟩

section Events

variable {swapId : List UInt8} {events : List Log}

theorem not_of_findEvent {ε : Type}
    (h : (findEvent swapId events : Res ε (Option Log)) = .ok none) :
    ∀ event ∈ events, event.data.take 32 ≠ swapId := by
  induction events with
  | nil => simp
  | cons event events ih =>
    rw [findEvent] at h
    split_ifs at h with _ hid
    · cases h
    · simpa using ⟨hid, ih h⟩

theorem of_findEvent {ε : Type} {event : Log}
    (h : (findEvent swapId events : Res ε (Option Log)) = .ok (some event)) :
    event ∈ events ∧ event.data.take 32 = swapId := by
  induction events with
  | nil => cases h
  | cons first events ih =>
    rw [findEvent] at h
    split_ifs at h with _ hid
    · cases h
      exact ⟨List.mem_cons_self, hid⟩
    · exact ⟨List.mem_cons_of_mem first (ih h).1, (ih h).2⟩

/-- The search for an id fails only in a panic on an event of less data. -/
theorem short_of_findEvent {ε : Type} {failure : Failure ε}
    (h : (findEvent swapId events : Res ε (Option Log)) = .error failure) :
    (∃ msg, failure = .panic msg) ∧ ∃ event ∈ events, event.data.length < 32 := by
  induction events with
  | nil => cases h
  | cons first events ih =>
    rw [findEvent] at h
    split_ifs at h with hshort
    · cases h
      exact ⟨⟨_, rfl⟩, first, List.mem_cons_self, hshort⟩
    · obtain ⟨hpanic, event, hmem, hlt⟩ := ih h
      exact ⟨hpanic, event, List.mem_cons_of_mem first hmem, hlt⟩

end Events

namespace EventNode

variable {node : EventNode} {search : BlockSearch} {sent spends refunds : UInt64 → List Log}
  {first last : UInt64}

theorem le_currentBlockFrom {searchFromBlock currentBlock : UInt64}
    (h : node.currentBlockFrom searchFromBlock = .ok currentBlock) :
    searchFromBlock ≤ currentBlock := by
  rw [currentBlockFrom] at h
  cases hnode : node.currentBlock with
  | error e => simp [hnode, orErr, Except.mapError, bind, Except.bind] at h
  | ok block =>
    simp only [hnode, orErr_ok, except_ok_bind, pure, Except.pure, Except.ok.injEq] at h
    split at h
    next => exact h ▸ UInt64.le_refl _
    next hle => exact h ▸ UInt64.not_lt.mp hle

/-- An event of the payment in a block, whose transaction the node has. -/
def EventOf (node : EventNode) (chain : UInt64 → List Log) (swapId : List UInt8)
    (block : UInt64) (tx : SignedEthTx) : Prop :=
  ∃ event ∈ chain block, event.data.take 32 = swapId ∧ ∃ hash t,
    event.transactionHash = some hash ∧ node.transaction hash = .ok (some t) ∧
      node.signedTxFromWeb3Tx t = .ok tx

/-- What the event of one kind in some blocks comes to. -/
def OfWindow (node : EventNode) (chain : UInt64 → List Log) (swapId : List UInt8)
    (first last : UInt64) : Res String (Option SignedEthTx) → Prop
  | .ok none => NoEvent chain swapId first last
  | .ok (some tx) => ∃ block, first ≤ block ∧ block ≤ last ∧ node.EventOf chain swapId block tx
  | .error (.panic _) => ShortEvent chain first last
  | .error (.error _) => True

theorem ofWindow_transactionOfEvent {name : String} {swapId : List UInt8}
    {chain : UInt64 → List Log} {answer : UInt64 → UInt64 → Except String (List Log)}
    (hanswers : Answers answer chain) :
    node.OfWindow chain swapId first last
      (node.transactionOfEvent name swapId (answer first last)) := by
  rw [transactionOfEvent]
  cases hevents : answer first last with
  | error e => trivial
  | ok events =>
    have hmem := hanswers first last events hevents
    simp only [orErr_ok, except_ok_bind]
    cases hfind : (findEvent swapId events : Res String (Option Log)) with
    | error failure =>
      obtain ⟨⟨msg, rfl⟩, event, hevent, hshort⟩ := short_of_findEvent hfind
      obtain ⟨block, hfirst, hlast, hblock⟩ := (hmem event).mp hevent
      exact ⟨block, event, hfirst, hlast, hblock, hshort⟩
    | ok found =>
      cases found with
      | none =>
        intro block hfirst hlast event hblock
        exact not_of_findEvent hfind event ((hmem event).mpr ⟨block, hfirst, hlast, hblock⟩)
      | some event =>
        obtain ⟨hevent, hid⟩ := of_findEvent hfind
        obtain ⟨block, hfirst, hlast, hblock⟩ := (hmem event).mp hevent
        simp only [except_ok_bind]
        cases hhash : event.transactionHash with
        | none => trivial
        | some hash =>
          simp only
          cases htx : node.transaction hash with
          | error e => trivial
          | ok t =>
            cases t with
            | none => trivial
            | some t =>
              simp only [orErr_ok, except_ok_bind]
              cases hsigned : node.signedTxFromWeb3Tx t with
              | error e => trivial
              | ok tx =>
                exact ⟨block, hfirst, hlast, event, hblock, hid, hash, t, hhash, htx, hsigned⟩

/-- What the events in some blocks say that a payment has become. -/
def SpendFound (node : EventNode) (spends refunds : UInt64 → List Log) (swapId : List UInt8)
    (first last : UInt64) : Res String (Option FoundSwapTxSpend) → Prop
  | .ok none => NoEvent spends swapId first last ∧ NoEvent refunds swapId first last
  | .ok (some (.spent tx)) => ∃ block, first ≤ block ∧ block ≤ last ∧
      node.EventOf spends swapId block tx
  | .ok (some (.refunded tx)) => ∃ block, first ≤ block ∧ block ≤ last ∧
      node.EventOf refunds swapId block tx ∧ NoEvent spends swapId first block
  | .error (.panic _) => ShortEvent spends first last ∨ ShortEvent refunds first last
  | .error (.error _) => True

theorem spendFound_lookForSpend (hspends : Answers (node.spendEvents search.address) spends)
    (hrefunds : Answers (node.refundEvents search.address) refunds) :
    node.SpendFound spends refunds search.id first last
      (node.lookForSpend search first last) := by
  have hspend : node.OfWindow spends search.id first last
      (node.transactionOfEvent "ReceiverSpent" search.id
        (node.spendEvents search.address first last)) := ofWindow_transactionOfEvent hspends
  have hrefund : node.OfWindow refunds search.id first last
      (node.transactionOfEvent "SenderRefunded" search.id
        (node.refundEvents search.address first last)) := ofWindow_transactionOfEvent hrefunds
  rw [lookForSpend]
  cases hspent : node.transactionOfEvent "ReceiverSpent" search.id
    (node.spendEvents search.address first last) with
  | error failure =>
    rw [hspent] at hspend
    cases failure with
    | error e => trivial
    | panic msg => exact .inl hspend
  | ok spent =>
    rw [hspent] at hspend
    cases spent with
    | some tx => exact hspend
    | none =>
      simp only [except_ok_bind]
      cases hrefunded : node.transactionOfEvent "SenderRefunded" search.id
        (node.refundEvents search.address first last) with
      | error failure =>
        rw [hrefunded] at hrefund
        cases failure with
        | error e => trivial
        | panic msg => exact .inr hrefund
      | ok refunded =>
        rw [hrefunded] at hrefund
        cases refunded with
        | none => exact ⟨hspend, hrefund⟩
        | some tx =>
          obtain ⟨block, hfirst, hlast, hevent⟩ := hrefund
          exact ⟨block, hfirst, hlast, hevent, fun other hother hle =>
            hspend other hother (UInt64.le_trans hle hlast)⟩

theorem le_of_beforeSearch {abi : Ethabi} {contract : Contract} {coinType : EthCoinType}
    {searchFromBlock : UInt64} {tx : List UInt8} {swapContractAddress : Address}
    (h : node.beforeSearch abi contract coinType tx swapContractAddress searchFromBlock =
      .ok search) : searchFromBlock ≤ search.currentBlock := by
  simp only [beforeSearch, bind, Except.bind, pure, Except.pure] at h
  repeat' split at h
  all_goals cases h
  all_goals exact le_currentBlockFrom ‹_›

/-- What the events in some blocks say about a payment; one without its transaction is known. -/
def PaymentFound (node : EventNode) (sent : UInt64 → List Log) (swapId : List UInt8)
    (first last : UInt64) : Res String (Option (Option SignedEthTx)) → Prop
  | .ok none => NoEvent sent swapId first last
  | .ok (some none) => ∃ block, first ≤ block ∧ block ≤ last ∧ ∃ event ∈ sent block,
      event.data.take 32 = swapId ∧ ∃ hash, event.transactionHash = some hash ∧
        node.transaction hash = .ok none
  | .ok (some (some tx)) => ∃ block, first ≤ block ∧ block ≤ last ∧
      node.EventOf sent swapId block tx
  | .error (.panic _) => ShortEvent sent first last ∨ ∃ block, first ≤ block ∧ block ≤ last ∧
      ∃ event ∈ sent block, event.data.take 32 = swapId ∧ event.transactionHash = none
  | .error (.error _) => True

theorem paymentFound_lookForPayment
    (hsent : Answers (node.paymentSentEvents search.address) sent) :
    node.PaymentFound sent search.id first last (node.lookForPayment search first last) := by
  rw [lookForPayment]
  cases hevents : node.paymentSentEvents search.address first last with
  | error e => trivial
  | ok events =>
    have hmem := hsent first last events hevents
    simp only [orErr_ok, except_ok_bind]
    cases hfind : (findEvent search.id events : Res String (Option Log)) with
    | error failure =>
      obtain ⟨⟨msg, rfl⟩, event, hevent, hshort⟩ := short_of_findEvent hfind
      obtain ⟨block, hfirst, hlast, hblock⟩ := (hmem event).mp hevent
      exact .inl ⟨block, event, hfirst, hlast, hblock, hshort⟩
    | ok found =>
      cases found with
      | none =>
        intro block hfirst hlast event hblock
        exact not_of_findEvent hfind event ((hmem event).mpr ⟨block, hfirst, hlast, hblock⟩)
      | some event =>
        obtain ⟨hevent, hid⟩ := of_findEvent hfind
        obtain ⟨block, hfirst, hlast, hblock⟩ := (hmem event).mp hevent
        simp only [except_ok_bind]
        cases hhash : event.transactionHash with
        | none => exact .inr ⟨block, hfirst, hlast, event, hblock, hid, hhash⟩
        | some hash =>
          simp only
          cases htx : node.transaction hash with
          | error e => trivial
          | ok t =>
            cases t with
            | none => exact ⟨block, hfirst, hlast, event, hblock, hid, hash, hhash, htx⟩
            | some t =>
              simp only [orErr_ok, except_ok_bind]
              cases hsigned : node.signedTxFromWeb3Tx t with
              | error e => trivial
              | ok tx =>
                exact ⟨block, hfirst, hlast, event, hblock, hid, hash, t, hhash, htx, hsigned⟩

theorem le_of_beforeCheck {lib : EvmLib} {args : CheckIfMyPaymentSentArgs}
    (h : node.beforeCheck lib args = .ok (some search)) :
    args.searchFromBlock ≤ search.currentBlock := by
  simp only [beforeCheck, bind, Except.bind, pure, Except.pure] at h
  repeat' split at h
  all_goals cases h
  all_goals exact le_currentBlockFrom ‹_›

end EventNode

/-! ## A payment in the third of five blocks -/

namespace ThirdBlock

open Sample (lib legacySwapId legacySecretHash)

def event : Log where
  data := legacySwapId.val
  transactionHash := some (beBytes 32 1)

def func : AbiFunction where
  name := "ethPayment"
  inputs := [("id", .fixedBytes 32), ("receiver", .address), ("secretHash", .fixedBytes 20),
    ("lockTime", .uint 64)]

/-- The call of the payment, to the contract. -/
def payment : SignedEthTx where
  sender := beBytes 20 1
  unsigned :=
    { action := .call (beBytes 20 2), value := U256.zero
      data := (Sample.shortSignature func).val ++ lib.abi.encode
        [.fixedBytes legacySwapId.val, .address (beBytes 20 3), .fixedBytes legacySecretHash,
          .uint (.ofUInt64 1700007200)] }

def web3Tx : Web3Tx where
  sender := some (beBytes 20 1)
  target := some (beBytes 20 2)
  value := U256.zero
  input := payment.unsigned.data

def node : EventNode where
  txHash _ := .ok (beBytes 32 1)
  paymentStatus _ _ := .ok paymentStateSent
  transaction _ := .ok (some web3Tx)
  currentBlock := .ok 5
  paymentSentEvents _ first last := .ok (eventsOf event first last)
  spendEvents _ first last := .ok (eventsOf event first last)
  refundEvents _ _ _ := .ok []
  signedTx _ := .ok payment
  signedTxFromWeb3Tx _ := .ok payment

def search : BlockSearch where
  address := beBytes 20 2
  id := legacySwapId.val
  currentBlock := 5

def args : CheckIfMyPaymentSentArgs where
  timeLock := 1700007200
  secretHash := legacySecretHash
  searchFromBlock := 1
  swapContractAddress := some (beBytes 20 2).val

theorem answers_event :
    Answers (fun first last => .ok (eventsOf event first last)) (chainOf event) := by
  intro first last events h other
  cases h
  exact mem_eventsOf event other first last

theorem answers_nil : Answers (fun _ _ => .ok []) fun _ => [] := by
  intro first last events h other
  cases h
  simp

theorem beforeSearch_payment : node.beforeSearch lib.abi [func] .eth [] (beBytes 20 2) 1 =
    .ok search := by decide +kernel

theorem beforeCheck_args : node.beforeCheck lib args = .ok (some search) := by decide +kernel

end ThirdBlock

namespace EventNode

end EventNode

end DeXFG.Evm
