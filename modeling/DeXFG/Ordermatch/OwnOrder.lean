import DeXFG.Library.Runs
import DeXFG.Ordermatch.Handlers

/-!
# An own maker order over its lifetime

One order of the node under every operation that can touch it, in any order:
requests, connects, timeouts, balance events, the kickstart rebase, and the two
phases of an update. Handlers that took the order before it was removed from
the list may still act on it.
-/
namespace DeXFG.Ordermatch
open DeXFG.Library.FiniteMap DeXFG.Library.Runs MakerOrder

structure OwnOrder where
  order : MakerOrder
  /-- The order is in `maker_orders_ctx.orders`. -/
  listed : Bool
  /-- Updates between their two phases. -/
  pending : List PendingUpdate
  deriving DecidableEq

inductive OwnOrderEvent where
  | takerRequest (env : RequestEnv) (fromPubkey : H256) (request : TakerRequest)
  | takerConnect (ourPublicId senderPubkey : H256) (msg : TakerConnect)
  | timedOutMatches (now : ℕ)
  | checkBalance
  | balanceUpdated (newVolume : ℚ≥0)
  | kickstart (maxVol : ℚ≥0)
  | updateBegin (req : MakerOrderUpdateReq) (env : UpdateEnv)
  | updateCommit (index : ℕ) (saved : Bool) (nowMs : ℕ)
  | removed

namespace OwnOrder

/-- `balance_updated` on one order. -/
def balanceUpdated (s : OwnOrder) (newVolume : MmNumber) : OwnOrder :=
  if newVolume < s.order.minBaseVol ∧ s.listed then { s with listed := false }
  else { s with order := s.order.rebaseVolume newVolume }

def step (s : OwnOrder) : OwnOrderEvent → Option OwnOrder
  | .takerRequest env fromPubkey request =>
    (s.order.processTakerRequest env fromPubkey request).map fun r => { s with order := r.1 }
  | .takerConnect ourPublicId senderPubkey msg =>
    some { s with order := (s.order.processTakerConnect ourPublicId senderPubkey msg).1 }
  | .timedOutMatches now => some { s with order := s.order.handleTimedOutMatches now }
  | .checkBalance => some { s with listed := s.listed && !s.order.isOutOfBalance }
  | .balanceUpdated newVolume => some (s.balanceUpdated newVolume)
  | .kickstart maxVol => some { s with order := s.order.rebaseVolume maxVol }
  | .updateBegin req env =>
    if s.listed then
      (s.order.beginUpdate req env).map fun
        | .error _ => s
        | .ok p => { s with pending := s.pending ++ [p] }
    else some s
  | .updateCommit index saved nowMs =>
    s.pending[index]?.map fun p =>
      let s' := { s with pending := s.pending.eraseIdx index }
      if s.listed then
        match s.order.commitUpdate p saved nowMs with
        | .error _ => s'
        | .ok order => { s' with order := order }
      else s'
  | .removed => some { s with listed := false }

/-- What the order offers to takers. -/
def offered (s : OwnOrder) : MmNumber := if s.listed then s.order.availableAmount else 0

/-- Orders as the node creates them: built from a request, or from a timed out taker order. -/
def Created (o : MakerOrder) : Prop :=
  (∃ (b : MakerOrderBuilder) (env : BuildEnv), b.build env = some (.ok o)) ∨
  ∃ (b : TakerOrderBuilder) (env : BuildEnv) (t : TakerOrder) (nowMs : ℕ),
    b.build env = some (.ok t) ∧ MakerOrder.ofTakerOrder t nowMs = some o

def Initial (s : OwnOrder) : Prop := Created s.order ∧ s.listed = true ∧ s.pending = []

/-- States of an own order after any sequence of operations. -/
abbrev Reached (s : OwnOrder) : Prop := Reachable step Initial s

end OwnOrder

/-! ## The reservation invariant -/

namespace MakerOrder

/-- The part of the reserved amount that belongs to connected matches. -/
def connectedAmount (o : MakerOrder) : MmNumber :=
  sum (fun m => if m.connected.isSome then m.reserved.baseAmount else 0) o.orderMatches

structure Sound (o : MakerOrder) : Prop where
  price_pos : 0 < o.price
  conf : o.confSettings.isSome
  amount_pos : ∀ k m, o.orderMatches.lookup k = some m → 0 < m.reserved.baseAmount
  connect_iff : ∀ k m, o.orderMatches.lookup k = some m →
    (m.connect.isSome = true ↔ m.connected.isSome = true)
  reserved_le : o.reservedAmount ≤ o.maxBaseVol

variable {o o' : MakerOrder}

theorem Sound.reserved_nonneg (h : o.Sound) : 0 ≤ o.reservedAmount :=
  sum_nonneg fun k m hm => (h.amount_pos k m hm).le

theorem Sound.available_nonneg (h : o.Sound) : 0 ≤ o.availableAmount :=
  sub_nonneg.mpr h.reserved_le

theorem Sound.connected_nonneg (h : o.Sound) : 0 ≤ o.connectedAmount := by
  refine sum_nonneg fun k m hm => ?_
  split
  · exact (h.amount_pos k m hm).le
  · exact le_rfl

theorem Sound.connected_le (h : o.Sound) : o.connectedAmount ≤ o.reservedAmount := by
  refine sum_le_sum fun k m hm => ?_
  split
  · exact le_rfl
  · exact (h.amount_pos k m hm).le

/-- Without ongoing matches everything reserved is connected. -/
theorem Sound.connected_eq (h : o.Sound) (hsettled : o.hasOngoingMatches = false) :
    o.connectedAmount = o.reservedAmount := by
  refine sum_congr fun k m hm => ?_
  have hclosed := (anyValue_eq_false _ _).mp hsettled k m hm
  have hiff := h.connect_iff k m hm
  rw [if_pos]
  cases hc : m.connected with
  | some c => rfl
  | none =>
    rw [hc] at hclosed hiff
    simp only [Option.isNone_none, Bool.true_and] at hclosed
    simp_all

/-- A match that is not connected is reserved beyond the connected amount. -/
theorem Sound.connected_lt (h : o.Sound) (hopen : o.hasOngoingMatches = true) :
    o.connectedAmount < o.reservedAmount := by
  obtain ⟨k, m, hm, hp⟩ := (anyValue_eq_true _ _).mp hopen
  have hnone : m.connected.isSome = false := by
    simp only [Bool.and_eq_true] at hp
    simpa using hp.1
  refine sum_lt_sum (fun k m hm => ?_) hm ?_
  · split
    · exact le_rfl
    · exact (h.amount_pos k m hm).le
  · rw [hnone]
    exact h.amount_pos k m hm

/-! ### Effect of the operations on the two sums -/

section Sums

variable (o)

/-- The order with one more match. -/
def addMatch (k : Uuid) (m : MakerMatch) : MakerOrder :=
  { o with orderMatches := o.orderMatches.insert k m }

/-- The order with a match replaced by its connected form. -/
def connectMatch (k : Uuid) (m : MakerMatch) (msg : TakerConnect) (connected : MakerConnected) :
    MakerOrder :=
  { o with
    orderMatches := o.orderMatches.insert k
      { m with connect := some msg, connected := some connected }
    startedSwaps := o.startedSwaps ++ [m.request.uuid] }

variable {o} {k : Uuid} {m : MakerMatch} {msg : TakerConnect} {connected : MakerConnected}
  {now : ℕ}

theorem reservedAmount_addMatch (hk : k ∉ o.orderMatches) :
    (o.addMatch k m).reservedAmount = m.reserved.baseAmount + o.reservedAmount :=
  sum_insert_of_notMem _ m hk

theorem connectedAmount_addMatch (hk : k ∉ o.orderMatches) (hm : m.connected = none) :
    (o.addMatch k m).connectedAmount = o.connectedAmount := by
  have hsum := sum_insert_of_notMem
    (fun m : MakerMatch => if m.connected.isSome then m.reserved.baseAmount else 0) m hk
  simpa [connectedAmount, addMatch, hm] using hsum

theorem reservedAmount_connectMatch (hm : o.orderMatches.lookup k = some m) :
    (o.connectMatch k m msg connected).reservedAmount = o.reservedAmount := by
  have hsum := sum_insert_of_lookup (fun m : MakerMatch => m.reserved.baseAmount)
    { m with connect := some msg, connected := some connected } hm
  simpa [reservedAmount, connectMatch] using hsum

theorem connectedAmount_connectMatch (hm : o.orderMatches.lookup k = some m)
    (hopen : m.connected = none) :
    (o.connectMatch k m msg connected).connectedAmount =
      o.connectedAmount + m.reserved.baseAmount := by
  have hsum := sum_insert_of_lookup
    (fun m : MakerMatch => if m.connected.isSome then m.reserved.baseAmount else 0)
    { m with connect := some msg, connected := some connected } hm
  simpa [connectedAmount, connectMatch, hopen] using hsum

theorem lookup_handleTimedOutMatches (h : (o.handleTimedOutMatches now).orderMatches.lookup k = some m) :
    o.orderMatches.lookup k = some m := by
  rw [handleTimedOutMatches, lookup_retain, Option.filter_eq_some_iff] at h
  exact h.1

theorem reservedAmount_handleTimedOutMatches (h : o.Sound) :
    (o.handleTimedOutMatches now).reservedAmount ≤ o.reservedAmount := by
  rw [reservedAmount, handleTimedOutMatches, sum_retain]
  refine sum_le_sum fun k m hm => ?_
  split
  · exact le_rfl
  · exact (h.amount_pos k m hm).le

/-- Connected matches are never timed out. -/
theorem connectedAmount_handleTimedOutMatches :
    (o.handleTimedOutMatches now).connectedAmount = o.connectedAmount := by
  rw [connectedAmount, handleTimedOutMatches, sum_retain]
  refine sum_congr fun k m hm => ?_
  cases m.connected <;> simp

/-- Once the clock is past every deadline only the connected matches are left. -/
theorem reservedAmount_handleTimedOutMatches_late
    (hlate : ∀ k m, o.orderMatches.lookup k = some m →
      m.lastUpdated + orderMatchTimeout * 1000 ≤ now) :
    (o.handleTimedOutMatches now).reservedAmount = o.connectedAmount := by
  rw [reservedAmount, handleTimedOutMatches, sum_retain, connectedAmount]
  refine sum_congr fun k m hm => ?_
  have hdeadline : ¬ m.lastUpdated + orderMatchTimeout * 1000 > now := not_lt.mpr (hlate k m hm)
  simp [hdeadline]

end Sums

/-! ### Preservation -/

section Preservation

variable {k : Uuid} {m : MakerMatch}

theorem lookup_insert_cases {matches' : HashMap Uuid MakerMatch} {k' : Uuid} {m' : MakerMatch}
    (h : (matches'.insert k m).lookup k' = some m') :
    m' = m ∨ matches'.lookup k' = some m' := by
  rcases eq_or_ne k' k with rfl | hne
  · rw [Finmap.lookup_insert] at h
    exact .inl (Option.some.inj h).symm
  · rw [Finmap.lookup_insert_of_ne _ hne] at h
    exact .inr h

theorem Sound.addMatch (h : o.Sound) (hk : k ∉ o.orderMatches) (hpos : 0 < m.reserved.baseAmount)
    (havail : m.reserved.baseAmount ≤ o.availableAmount)
    (hm : m.connected = none ∧ m.connect = none) : (o.addMatch k m).Sound where
  price_pos := h.price_pos
  conf := h.conf
  amount_pos k' m' hlookup := by
    rcases lookup_insert_cases hlookup with rfl | hold
    · exact hpos
    · exact h.amount_pos k' m' hold
  connect_iff k' m' hlookup := by
    rcases lookup_insert_cases hlookup with rfl | hold
    · simp [hm.1, hm.2]
    · exact h.connect_iff k' m' hold
  reserved_le := by
    rw [reservedAmount_addMatch hk]
    rw [availableAmount] at havail
    change m.reserved.baseAmount + o.reservedAmount ≤ o.maxBaseVol
    linarith

theorem Sound.connectMatch (h : o.Sound) (hlookup : o.orderMatches.lookup k = some m)
    (msg : TakerConnect) (connected : MakerConnected) :
    (o.connectMatch k m msg connected).Sound where
  price_pos := h.price_pos
  conf := h.conf
  amount_pos k' m' hlookup' := by
    rcases lookup_insert_cases hlookup' with rfl | hold
    · exact h.amount_pos k m hlookup
    · exact h.amount_pos k' m' hold
  connect_iff k' m' hlookup' := by
    rcases lookup_insert_cases hlookup' with rfl | hold
    · simp
    · exact h.connect_iff k' m' hold
  reserved_le := by
    rw [reservedAmount_connectMatch hlookup]
    exact h.reserved_le

theorem Sound.handleTimedOutMatches (h : o.Sound) (now : ℕ) :
    (o.handleTimedOutMatches now).Sound where
  price_pos := h.price_pos
  conf := h.conf
  amount_pos k m hlookup := h.amount_pos k m (lookup_handleTimedOutMatches hlookup)
  connect_iff k m hlookup := h.connect_iff k m (lookup_handleTimedOutMatches hlookup)
  reserved_le := (reservedAmount_handleTimedOutMatches h).trans h.reserved_le

theorem Sound.rebaseVolume (h : o.Sound) {newVolume : MmNumber} (hvol : 0 ≤ newVolume) :
    (o.rebaseVolume newVolume).Sound := by
  unfold MakerOrder.rebaseVolume
  split
  · exact { h with reserved_le := le_add_of_nonneg_right hvol }
  · exact h

theorem Sound.applyUpdated {p : PendingUpdate} (h : o.Sound) (hp : p.Checked)
    (hbefore : p.orderBeforeUpdate = o) (nowMs : ℕ) : (o.applyUpdated p.updateMsg nowMs).Sound where
  price_pos := hbefore ▸ hp.price_pos
  conf := hbefore ▸ hp.conf
  amount_pos := h.amount_pos
  connect_iff := h.connect_iff
  reserved_le := (hbefore ▸ hp.above_reserved).le

end Preservation

/-! ### New orders -/

theorem Sound.of_empty (hprice : 0 < o.price) (hconf : o.confSettings.isSome)
    (hmatches : o.orderMatches = ∅) (hmax : 0 ≤ o.maxBaseVol) : o.Sound where
  price_pos := hprice
  conf := hconf
  amount_pos k m hm := by simp [hmatches] at hm
  connect_iff k m hm := by simp [hmatches] at hm
  reserved_le := by
    rw [reservedAmount, hmatches, sum_empty]
    exact hmax

theorem Sound.of_build {b : MakerOrderBuilder} {env : BuildEnv} (h : b.build env = some (.ok o)) :
    o.Sound := by
  obtain ⟨minVol, rfl, hb⟩ := MakerOrderBuilder.build_eq_ok h
  exact .of_empty hb.price_pos hb.confs rfl (b.baseCoin.minTradingVol_nonneg.trans hb.maxBaseVol_base)

/-- The maker order made of an accepted taker order. -/
theorem Sound.of_takerOrder {b : TakerOrderBuilder} {env : BuildEnv} {t : TakerOrder} {nowMs : ℕ}
    (ht : b.build env = some (.ok t)) (h : ofTakerOrder t nowMs = some o) : o.Sound := by
  obtain ⟨minVol, rfl, hb⟩ := TakerOrderBuilder.build_eq_ok ht
  unfold ofTakerOrder at h
  split at h
  · obtain ⟨price, hdiv, rfl⟩ := Option.map_eq_some_iff.mp h
    obtain ⟨-, rfl⟩ := MmNumber.div?_eq_some.mp hdiv
    exact .of_empty (div_pos hb.relAmount_pos hb.baseAmount_pos) hb.confs rfl hb.baseAmount_pos.le
  · obtain ⟨price, hdiv, h⟩ := Option.bind_eq_some_iff.mp h
    obtain ⟨-, rfl⟩ := MmNumber.div?_eq_some.mp hdiv
    obtain ⟨minBaseVol, -, rfl⟩ := Option.map_eq_some_iff.mp h
    exact .of_empty (div_pos hb.baseAmount_pos hb.relAmount_pos)
      ((Option.isSome_map ..).trans hb.confs) rfl hb.relAmount_pos.le

end MakerOrder

namespace OwnOrder

/-- The invariant of an own order and of its pending updates. -/
structure Inv (s : OwnOrder) : Prop where
  sound : s.order.Sound
  checked : ∀ p ∈ s.pending, p.Checked

theorem Inv.of_initial {s : OwnOrder} (h : Initial s) : s.Inv := by
  obtain ⟨hcreated, -, hpending⟩ := h
  refine ⟨?_, by simp [hpending]⟩
  rcases hcreated with ⟨b, env, hb⟩ | ⟨b, env, t, nowMs, hb, ht⟩
  · exact Sound.of_build hb
  · exact Sound.of_takerOrder hb ht

/-- What one step can do to the order: at most one of the operations on it, with the facts its
checks established. -/
inductive OrderChange (s : OwnOrder) (e : OwnOrderEvent) (o' : MakerOrder) : Prop
  | same (h : o' = s.order)
  | reserve (k : Uuid) (m : MakerMatch) (hk : k ∉ s.order.orderMatches)
      (hpos : 0 < m.reserved.baseAmount) (havail : m.reserved.baseAmount ≤ s.order.availableAmount)
      (hm : m.connected = none ∧ m.connect = none) (h : o' = s.order.addMatch k m)
  | connect (k : Uuid) (m : MakerMatch) (msg : TakerConnect) (connected : MakerConnected)
      (hlookup : s.order.orderMatches.lookup k = some m) (hm : m.connected = none)
      (h : o' = s.order.connectMatch k m msg connected)
  | timedOut (now : ℕ) (h : o' = s.order.handleTimedOutMatches now)
  | rebase (newVolume : ℚ≥0) (he : e = .balanceUpdated newVolume ∨ e = .kickstart newVolume)
      (h : o' = s.order.rebaseVolume newVolume)
  | update (index : ℕ) (saved : Bool) (nowMs : ℕ) (p : PendingUpdate)
      (he : e = .updateCommit index saved nowMs) (hp : s.pending[index]? = some p)
      (hbefore : p.orderBeforeUpdate = s.order) (h : o' = s.order.applyUpdated p.updateMsg nowMs)

theorem step_orderChange {s s' : OwnOrder} {e : OwnOrderEvent} (hs : s.Inv)
    (h : step s e = some s') : OrderChange s e s'.order := by
  cases e with
  | takerRequest env fromPubkey request =>
    obtain ⟨⟨o', reply⟩, ho', rfl⟩ := Option.map_eq_some_iff.mp h
    rcases processTakerRequest_cases ho' with ⟨rfl, -⟩ |
      ⟨b, r, baseCoin, relCoin, hmatch, -, -, -, hnew, -, rfl⟩
    · exact .same rfl
    · have hfills := matchWithRequest_fills hs.sound.price_pos hmatch
      exact .reserve request.uuid _ hnew hfills.base_pos hfills.available ⟨rfl, rfl⟩ rfl
  | takerConnect ourPublicId senderPubkey msg =>
    obtain rfl := Option.some.inj h
    rcases processTakerConnect_cases s.order ourPublicId senderPubkey msg with hsame |
      ⟨m, connected, hm, hopen, -, hchange⟩
    · exact .same hsame
    · exact .connect msg.takerOrderUuid m msg connected hm hopen hchange
  | timedOutMatches now =>
    obtain rfl := Option.some.inj h
    exact .timedOut now rfl
  | checkBalance =>
    obtain rfl := Option.some.inj h
    exact .same rfl
  | balanceUpdated newVolume =>
    obtain rfl := Option.some.inj h
    unfold OwnOrder.balanceUpdated
    split
    · exact .same rfl
    · exact .rebase newVolume (.inl rfl) rfl
  | kickstart maxVol =>
    obtain rfl := Option.some.inj h
    exact .rebase maxVol (.inr rfl) rfl
  | updateBegin req env =>
    simp only [step] at h
    split at h
    · obtain ⟨result, -, rfl⟩ := Option.map_eq_some_iff.mp h
      cases result <;> exact .same rfl
    · obtain rfl := Option.some.inj h
      exact .same rfl
  | updateCommit index saved nowMs =>
    obtain ⟨p, hp, rfl⟩ := Option.map_eq_some_iff.mp h
    simp only
    split
    · unfold commitUpdate
      split
      · exact .same rfl
      · rename_i hother _ hcommit
        split at hcommit
        · simp at hcommit
        · rename_i hsame
          split at hcommit
          · rw [← Except.ok.inj hcommit]
            exact .update index saved nowMs p rfl hp (not_not.mp hsame).symm rfl
          · simp at hcommit
    · exact .same rfl
  | removed =>
    obtain rfl := Option.some.inj h
    exact .same rfl

theorem OrderChange.sound {s : OwnOrder} {e : OwnOrderEvent} {o' : MakerOrder} (hs : s.Inv)
    (h : OrderChange s e o') : o'.Sound := by
  cases h with
  | same h => exact h ▸ hs.sound
  | reserve k m hk hpos havail hm h => exact h ▸ hs.sound.addMatch hk hpos havail hm
  | connect k m msg connected hlookup _ h => exact h ▸ hs.sound.connectMatch hlookup msg connected
  | timedOut now h => exact h ▸ hs.sound.handleTimedOutMatches now
  | rebase newVolume _ h => exact h ▸ hs.sound.rebaseVolume newVolume.2
  | update index saved nowMs p _ hp hbefore h =>
    exact h ▸ hs.sound.applyUpdated (hs.checked p (List.mem_of_getElem? hp)) hbefore nowMs

theorem step_pending {s s' : OwnOrder} {e : OwnOrderEvent} (hs : s.Inv)
    (h : step s e = some s') : ∀ p ∈ s'.pending, p.Checked := by
  cases e with
  | takerRequest env fromPubkey request =>
    obtain ⟨r, -, rfl⟩ := Option.map_eq_some_iff.mp h
    exact hs.checked
  | updateBegin req env =>
    simp only [step] at h
    split at h
    · obtain ⟨result, hresult, rfl⟩ := Option.map_eq_some_iff.mp h
      cases result with
      | error err => exact hs.checked
      | ok p =>
        have hp := (beginUpdate_eq_ok hs.sound.price_pos hs.sound.reserved_nonneg hresult).2
        intro q hq
        rcases List.mem_append.mp hq with hold | hnew
        · exact hs.checked q hold
        · exact List.mem_singleton.mp hnew ▸ hp
    · obtain rfl := Option.some.inj h
      exact hs.checked
  | updateCommit index saved nowMs =>
    obtain ⟨p, -, rfl⟩ := Option.map_eq_some_iff.mp h
    have herase : ∀ q ∈ s.pending.eraseIdx index, q.Checked :=
      fun q hq => hs.checked q (List.mem_of_mem_eraseIdx hq)
    simp only
    split
    · split <;> exact herase
    · exact herase
  | balanceUpdated newVolume =>
    obtain rfl := Option.some.inj h
    unfold OwnOrder.balanceUpdated
    split <;> exact hs.checked
  | takerConnect | timedOutMatches | checkBalance | kickstart | removed =>
    obtain rfl := Option.some.inj h
    exact hs.checked

theorem Inv.step {s s' : OwnOrder} {e : OwnOrderEvent} (hs : s.Inv) (h : step s e = some s') :
    s'.Inv :=
  ⟨(step_orderChange hs h).sound hs, step_pending hs h⟩

theorem Reached.inv {s : OwnOrder} (h : s.Reached) : s.Inv :=
  Reachable.invariant (fun _ => Inv.of_initial) (fun _ _ _ hs => hs.step) h

/-! ## The terms of an order while a match is open -/

/-- Two states of an order with the same pair, settings and swap terms. -/
structure SameTerms (o o' : MakerOrder) : Prop where
  uuid : o'.uuid = o.uuid
  base : o'.base = o.base
  rel : o'.rel = o.rel
  baseOrderbookTickerOpt : o'.baseOrderbookTickerOpt = o.baseOrderbookTickerOpt
  relOrderbookTickerOpt : o'.relOrderbookTickerOpt = o.relOrderbookTickerOpt
  confSettings : o'.confSettings = o.confSettings
  p2pPrivkey : o'.p2pPrivkey = o.p2pPrivkey
  swapVersion : o'.swapVersion = o.swapVersion
  swapMethod : o'.swapMethod = o.swapMethod

theorem SameTerms.refl (o : MakerOrder) : SameTerms o o := by constructor <;> rfl

theorem SameTerms.trans {o o' o'' : MakerOrder} (h : SameTerms o o') (h' : SameTerms o' o'') :
    SameTerms o o'' where
  uuid := h'.uuid.trans h.uuid
  base := h'.base.trans h.base
  rel := h'.rel.trans h.rel
  baseOrderbookTickerOpt := h'.baseOrderbookTickerOpt.trans h.baseOrderbookTickerOpt
  relOrderbookTickerOpt := h'.relOrderbookTickerOpt.trans h.relOrderbookTickerOpt
  confSettings := h'.confSettings.trans h.confSettings
  p2pPrivkey := h'.p2pPrivkey.trans h.p2pPrivkey
  swapVersion := h'.swapVersion.trans h.swapVersion
  swapMethod := h'.swapMethod.trans h.swapMethod

/-- An update is refused while a match is open, so no step changes the terms then. -/
theorem OrderChange.sameTerms {s : OwnOrder} {e : OwnOrderEvent} {o' : MakerOrder} (hs : s.Inv)
    (hopen : s.order.hasOngoingMatches = true) (h : OrderChange s e o') :
    SameTerms s.order o' := by
  cases h with
  | same h => exact h ▸ SameTerms.refl s.order
  | reserve k m _ _ _ _ h => exact h ▸ { SameTerms.refl s.order with }
  | connect k m msg connected _ _ h => exact h ▸ { SameTerms.refl s.order with }
  | timedOut now h => exact h ▸ { SameTerms.refl s.order with }
  | rebase newVolume _ h =>
    rw [h, rebaseVolume]
    split
    · exact { SameTerms.refl s.order with }
    · exact SameTerms.refl s.order
  | update index saved nowMs p _ hp hbefore _ =>
    have hsettled := (hs.checked p (List.mem_of_getElem? hp)).settled
    rw [hbefore, hopen] at hsettled
    exact absurd hsettled (by simp)

/-- The terms a match was reserved under are those it is connected under. -/
theorem run_sameTerms {s s' : OwnOrder} {es : List OwnOrderEvent} (hs : s.Inv)
    (hopen : Meets step (fun s _ => s.order.hasOngoingMatches = true) s es)
    (hrun : run step s es = some s') : SameTerms s.order s'.order := by
  have hboth : s'.Inv ∧ SameTerms s.order s'.order :=
    invariant_run (I := fun t => t.Inv ∧ SameTerms s.order t.order)
      (fun t e t' ht hongoing hstep => ⟨ht.1.step hstep,
        ht.2.trans ((step_orderChange ht.1 hstep).sameTerms ht.1 hongoing)⟩)
      ⟨hs, SameTerms.refl s.order⟩ hopen hrun
  exact hboth.2

/-! ## What a balance event bounds -/

/-- The balance figure an event relies on. -/
def report (s : OwnOrder) : OwnOrderEvent → Option MmNumber
  | .balanceUpdated newVolume => some newVolume
  | .kickstart maxVol => some maxVol
  | .updateCommit index _ _ => s.pending[index]?.bind PendingUpdate.balance
  | _ => none

/-- No figure above `v` is reported by the event. -/
def ReportsAtMost (v : MmNumber) (s : OwnOrder) (e : OwnOrderEvent) : Prop :=
  ∀ w ∈ s.report e, w ≤ v

/-- Everything that can become available again is covered by `v`. -/
def Covered (v : MmNumber) (s : OwnOrder) : Prop :=
  s.listed = false ∨ s.order.maxBaseVol - s.order.connectedAmount ≤ v

theorem Covered.offered_le {v : MmNumber} {s : OwnOrder} (hs : s.Inv) (hv : 0 ≤ v)
    (h : s.Covered v) : s.offered ≤ v := by
  unfold offered
  split
  · rename_i hlisted
    rcases h with hnot | hle
    · simp [hlisted] at hnot
    · have hconn := hs.sound.connected_le
      rw [availableAmount]
      linarith
  · exact hv

theorem step_listed {s s' : OwnOrder} {e : OwnOrderEvent} (h : step s e = some s')
    (hlisted : s.listed = false) : s'.listed = false := by
  cases e with
  | takerRequest env fromPubkey request =>
    obtain ⟨r, -, rfl⟩ := Option.map_eq_some_iff.mp h
    exact hlisted
  | updateCommit index saved nowMs =>
    obtain ⟨p, -, rfl⟩ := Option.map_eq_some_iff.mp h
    simp [hlisted]
  | updateBegin | balanceUpdated =>
    simp only [step, OwnOrder.balanceUpdated, hlisted] at h
    obtain rfl := Option.some.inj h
    simp [hlisted]
  | takerConnect | timedOutMatches | checkBalance | kickstart | removed =>
    obtain rfl := Option.some.inj h
    simp [hlisted]

/-- The step lemma: coverage by `v` survives every event that reports at most `v`. -/
theorem Covered.step {v : MmNumber} {s s' : OwnOrder} {e : OwnOrderEvent} (hs : s.Inv)
    (hv : s.ReportsAtMost v e) (hcov : s.Covered v) (h : step s e = some s') : s'.Covered v := by
  rcases hcov with hnot | hle
  · exact .inl (step_listed h hnot)
  refine .inr ?_
  cases step_orderChange hs h with
  | same h => rwa [h]
  | reserve k m hk _ _ hm h =>
    rw [h, connectedAmount_addMatch hk hm.1]
    exact hle
  | connect k m msg connected hlookup hm h =>
    have hpos := hs.sound.amount_pos k m hlookup
    rw [h, connectedAmount_connectMatch hlookup hm]
    change s.order.maxBaseVol - (s.order.connectedAmount + m.reserved.baseAmount) ≤ v
    linarith
  | timedOut now h =>
    rw [h, connectedAmount_handleTimedOutMatches]
    exact hle
  | rebase newVolume he h =>
    rw [h, rebaseVolume]
    split
    · rename_i hlt
      rw [availableAmount] at hlt
      change s.order.reservedAmount + newVolume - s.order.connectedAmount ≤ v
      linarith
    · exact hle
  | update index saved nowMs p he hp hbefore h =>
    have hchecked := hs.checked p (List.mem_of_getElem? hp)
    have hsettled := hs.sound.connected_eq (hbefore ▸ hchecked.settled)
    rw [h]
    change p.updateMsg.newMaxVolume.getD s.order.maxBaseVol - s.order.connectedAmount ≤ v
    cases hmax : p.updateMsg.newMaxVolume with
    | none => exact hle
    | some volume =>
      obtain ⟨balance, hbalance, hvolume⟩ := hchecked.covered volume hmax
      have hreport : balance ≤ v := hv balance (by
        rw [he, report, hp]
        exact hbalance)
      rw [hbefore] at hvolume
      rw [Option.getD_some, hsettled]
      linarith

/-- The run lemma: the order never offers more than `v` while nothing above `v` is reported. -/
theorem Covered.run_offered_le {v : MmNumber} {s s' : OwnOrder} {es : List OwnOrderEvent}
    (hs : s.Inv) (hv : 0 ≤ v) (hcov : s.Covered v)
    (hreports : Meets OwnOrder.step (ReportsAtMost v) s es)
    (hrun : run OwnOrder.step s es = some s') : s'.offered ≤ v := by
  have hboth : s'.Inv ∧ s'.Covered v :=
    invariant_run (I := fun t => t.Inv ∧ t.Covered v)
      (fun t e t' ht he hstep => ⟨ht.1.step hstep, ht.2.step ht.1 he hstep⟩) ⟨hs, hcov⟩ hreports hrun
  exact hboth.2.offered_le hboth.1 hv

/-- A clock value past the deadline of every match. -/
def lateClock (s : OwnOrder) : ℕ :=
  sum (fun m => m.lastUpdated + orderMatchTimeout * 1000) s.order.orderMatches

theorem le_lateClock {s : OwnOrder} {k : Uuid} {m : MakerMatch}
    (hm : s.order.orderMatches.lookup k = some m) :
    m.lastUpdated + orderMatchTimeout * 1000 ≤ s.lateClock := by
  rw [lateClock, sum_erase _ hm]
  exact Nat.le_add_right _ _

/-- An order that is not covered offers more than `v` once its open matches time out. -/
theorem offered_timedOut {v : MmNumber} {s : OwnOrder} (h : ¬ s.Covered v) :
    ∃ s', OwnOrder.step s (.timedOutMatches s.lateClock) = some s' ∧ v < s'.offered := by
  rw [Covered, not_or, not_le, Bool.not_eq_false] at h
  obtain ⟨hlisted, hlt⟩ := h
  refine ⟨_, rfl, ?_⟩
  rw [offered, if_pos hlisted, availableAmount,
    reservedAmount_handleTimedOutMatches_late fun k m hm => le_lateClock hm]
  exact hlt

/-- The state before a balance event keeps the order within the reported volume: it is
cancelled by the event, or no open match can give back more than the report allows. -/
def KeepsWithin (v : MmNumber) (s : OwnOrder) : Prop :=
  s.listed = false ∨ v < s.order.minBaseVol ∨ s.order.hasOngoingMatches = false ∨
    s.order.maxBaseVol - s.order.connectedAmount ≤ v

theorem covered_balanceUpdated_iff {v : MmNumber} {s : OwnOrder} (hs : s.Inv) :
    (s.balanceUpdated v).Covered v ↔ s.KeepsWithin v := by
  by_cases hlisted : s.listed = true
  · by_cases hmin : v < s.order.minBaseVol
    · simp [OwnOrder.balanceUpdated, KeepsWithin, Covered, hlisted, hmin]
    have hrebase : s.balanceUpdated v = { s with order := s.order.rebaseVolume v } := by
      simp [OwnOrder.balanceUpdated, hmin]
    have hcov : (s.balanceUpdated v).Covered v ↔
        (s.order.rebaseVolume v).maxBaseVol - (s.order.rebaseVolume v).connectedAmount ≤ v := by
      rw [hrebase]
      simp [Covered, hlisted]
    have hkeeps : s.KeepsWithin v ↔ s.order.hasOngoingMatches = false ∨
        s.order.maxBaseVol - s.order.connectedAmount ≤ v := by
      simp [KeepsWithin, hlisted, hmin]
    rw [hcov, hkeeps, rebaseVolume]
    split
    · rename_i hlt
      rw [availableAmount] at hlt
      change s.order.reservedAmount + v - s.order.connectedAmount ≤ v ↔ _
      cases hongoing : s.order.hasOngoingMatches with
      | false => simp [hs.sound.connected_eq hongoing]
      | true =>
        have hconn := hs.sound.connected_lt hongoing
        constructor
        · intro hle
          linarith
        · rintro (hfalse | hle)
          · simp at hfalse
          · linarith
    · rename_i hge
      rw [availableAmount, not_lt] at hge
      constructor
      · exact .inr
      · rintro (hongoing | hle)
        · rwa [hs.sound.connected_eq hongoing]
        · exact hle
  · simp only [Bool.not_eq_true] at hlisted
    simp [OwnOrder.balanceUpdated, KeepsWithin, Covered, hlisted]

/-- Soundness of the reservations of an order in a state followed by a balance event: the
matches never reserve more than the volume, and from the event on the order never offers more
than the event reports, until something above it is reported. -/
structure ReservationSound (v : ℚ≥0) (s : OwnOrder) : Prop where
  reserved_le : s.order.reservedAmount ≤ s.order.maxBaseVol
  available_nonneg : 0 ≤ s.order.availableAmount
  offered_le : ∀ t, step s (.balanceUpdated v) = some t → t.offered ≤ v
  later : ∀ t es u, step s (.balanceUpdated v) = some t →
    Meets step (ReportsAtMost v) t es → run step t es = some u → u.offered ≤ v

/-- An own order keeps its reservations sound through a balance event exactly when the event
leaves nothing for open matches to give back. -/
theorem reservationSound_iff {s : OwnOrder} (hs : s.Reached) (v : ℚ≥0) :
    s.ReservationSound v ↔ s.KeepsWithin v := by
  have hinv := hs.inv
  constructor
  · intro h
    by_contra hkeeps
    rw [← covered_balanceUpdated_iff hinv] at hkeeps
    obtain ⟨u, hstep, hlt⟩ := offered_timedOut hkeeps
    have hquiet : Meets step (ReportsAtMost v) (s.balanceUpdated v)
        [.timedOutMatches (s.balanceUpdated v).lateClock] :=
      ⟨fun w hw => by simp [report] at hw, fun _ _ => trivial⟩
    exact absurd (h.later _ _ u rfl hquiet (run_singleton.mpr hstep)) (not_le.mpr hlt)
  · intro hkeeps
    have hcov := (covered_balanceUpdated_iff hinv).mpr hkeeps
    have hnext : (s.balanceUpdated v).Inv := hinv.step (e := .balanceUpdated v) rfl
    exact
      { reserved_le := hinv.sound.reserved_le
        available_nonneg := hinv.sound.available_nonneg
        offered_le := fun t ht => by
          obtain rfl := Option.some.inj ht
          exact hcov.offered_le hnext v.2
        later := fun t es u ht hmeets hrun => by
          obtain rfl := Option.some.inj ht
          exact hcov.run_offered_le hnext v.2 hmeets hrun }

/-! ### A balance event between a reservation and its timeout -/

def rick : MmCoin := testCoin "RICK" .utxoCoin false

def morty : MmCoin := testCoin "MORTY" .utxoCoin false

/-- The order selling 10 RICK for MORTY, just created. -/
def sellingTen : OwnOrder where
  order := (testMakerBuilder rick morty).assemble testBuildEnv (777 / 100000)
  listed := true
  pending := []

def requestOfFour : TakerRequest := ((testTakerBuilder rick morty).assemble ⟨0, 2, ⟨2⟩⟩ 1).request

/-- The same order once a request for 4 is reserved. -/
def fourReserved : OwnOrder :=
  { sellingTen with
    order := sellingTen.order.addMatch 2 (newMatch requestOfFour
      (sellingTen.order.makerReserved 1 requestOfFour 4 4 rick morty) 0) }

theorem initial_sellingTen : Initial sellingTen :=
  ⟨.inl ⟨testMakerBuilder rick morty, testBuildEnv, by decide +kernel⟩, rfl, rfl⟩

theorem reached_fourReserved : fourReserved.Reached :=
  ⟨sellingTen, [.takerRequest ⟨1, some (rick, morty), 0⟩ 2 requestOfFour], initial_sellingTen,
    by decide +kernel⟩

/-- A balance of 10 covers the reservation and the rest. -/
theorem reservationSound_fourReserved : fourReserved.ReservationSound 10 :=
  (reservationSound_iff reached_fourReserved 10).mpr (by unfold KeepsWithin; decide +kernel)

/-- A balance event reports 3 while 4 are reserved; when the reservation times out the order
offers 7. -/
theorem not_reservationSound_fourReserved :
    fourReserved.Reached ∧ ¬ fourReserved.ReservationSound 3 := by
  refine ⟨reached_fourReserved, fun h => ?_⟩
  have hquiet : Meets step (ReportsAtMost ((3 : ℚ≥0) : ℚ)) (fourReserved.balanceUpdated 3)
      [.timedOutMatches 30000] :=
    ⟨fun w hw => by simp [report] at hw, fun _ _ => trivial⟩
  have hoffered := h.later _ [.timedOutMatches 30000] _ rfl hquiet rfl
  revert hoffered
  decide +kernel

end OwnOrder

end DeXFG.Ordermatch
