import DeXFG.Library.Runs
import DeXFG.Ordermatch.OwnOrder

/-!
# The context of the maker orders

The context keeps the orders in a timed map and, beside it, the base ticker of
each order, the number of orders for each ticker, and a balance loop for each
ticker with orders. Adding and removing an order moves all four. The main loop
drops expired orders from the timed map alone.
-/
namespace DeXFG.Ordermatch
open DeXFG.Library.FiniteMap DeXFG.Library.Runs

/-! ## The timed map -/

/-- The operations of `timed_map` that the context uses. Entries have a value and the time they
expire at, when they do. -/
structure TimedMap (K V M : Type) [DecidableEq K] where
  entries : M → HashMap K (V × Option ℕ)
  isExpired : ℕ → ℕ → Bool
  insertConstantUnchecked : M → K → V → M
  insertExpirableUnchecked : M → ℕ → K → V → ℕ → M
  remove : M → ℕ → K → Option V × M
  /-- What is left of the map. -/
  dropExpiredEntries : M → ℕ → M

namespace TimedMap

variable {K V M : Type} [DecidableEq K] (T : TimedMap K V M)

/-- The expiration of the entry has passed. -/
def expired (now : ℕ) (e : V × Option ℕ) : Bool := e.2.any fun expiresAt => T.isExpired expiresAt now

/-- What `timed_map` documents: `remove` returns the value if present and not expired, and dropping
takes exactly the entries whose expiration has passed. -/
structure Documented : Prop where
  insertConstant : ∀ m k v,
    T.entries (T.insertConstantUnchecked m k v) = (T.entries m).insert k (v, none)
  insertExpirable : ∀ m now k v duration,
    T.entries (T.insertExpirableUnchecked m now k v duration) =
      (T.entries m).insert k (v, some (now + duration))
  remove_entries : ∀ m now k, T.entries (T.remove m now k).2 = (T.entries m).erase k
  remove_value : ∀ m now k, (T.remove m now k).1 =
    ((T.entries m).lookup k).bind fun e => if T.expired now e then none else some e.1
  drop_entries : ∀ m now, T.entries (T.dropExpiredEntries m now) =
    retain (fun _ e => !T.expired now e) (T.entries m)

/-- A timed map that keeps its entries with their expirations. -/
def ofEntries : TimedMap K V (HashMap K (V × Option ℕ)) where
  entries := id
  isExpired expiresAt now := decide (expiresAt ≤ now)
  insertConstantUnchecked m k v := m.insert k (v, none)
  insertExpirableUnchecked m now k v duration := m.insert k (v, some (now + duration))
  remove m now k :=
    ((m.lookup k).bind fun e => if e.2.any fun t => decide (t ≤ now) then none else some e.1,
      m.erase k)
  dropExpiredEntries m now := retain (fun _ e => !e.2.any fun t => decide (t ≤ now)) m

theorem documented_ofEntries : (ofEntries : TimedMap K V _).Documented := by
  constructor <;> intros <;> rfl

end TimedMap

/-! ## The context -/

structure MakerOrdersContext (M : Type) where
  orders : M
  orderTickers : HashMap Uuid String
  countByTickers : HashMap String ℕ
  /-- Tickers with a spawned `check_balance_update_loop`. -/
  balanceLoops : Finset String
  deriving DecidableEq

inductive OrdersEvent where
  | addOrder (now : ℕ) (order : MakerOrder)
  | removeOrder (now : ℕ) (uuid : Uuid)
  /-- The main loop drops the expired orders. -/
  | dropExpired (now : ℕ)

namespace MakerOrdersContext

variable {M : Type} (T : TimedMap Uuid MakerOrder M) (c : MakerOrdersContext M)

def addOrder (now : ℕ) (order : MakerOrder) : MakerOrdersContext M where
  balanceLoops := insert order.base c.balanceLoops
  orderTickers := c.orderTickers.insert order.uuid order.base
  countByTickers :=
    c.countByTickers.insert order.base ((c.countByTickers.lookup order.base).getD 0 + 1)
  orders :=
    match order.timeoutInMinutes with
    | some t => T.insertExpirableUnchecked c.orders now order.uuid order (t.toNat * 60)
    | none => T.insertConstantUnchecked c.orders order.uuid order

def coinHasActiveMakerOrders (ticker : String) : Bool :=
  decide (0 < (c.countByTickers.lookup ticker).getD 0)

def stopBalanceLoop (ticker : String) : MakerOrdersContext M :=
  { c with balanceLoops := c.balanceLoops.erase ticker }

def decrementCount (ticker : String) : MakerOrdersContext M :=
  match c.countByTickers.lookup ticker with
  | none => c
  | some count =>
    if count > 0 then { c with countByTickers := c.countByTickers.insert ticker (count - 1) } else c

def removeOrder (now : ℕ) (uuid : Uuid) : Option MakerOrder × MakerOrdersContext M :=
  let r := T.remove c.orders now uuid
  let c := { c with orders := r.2 }
  match r.1 with
  | none => (none, c)
  | some order =>
    match c.orderTickers.lookup uuid with
    | none => (none, c)
    | some ticker =>
      let c := { c with orderTickers := c.orderTickers.erase uuid }.decrementCount ticker
      if c.coinHasActiveMakerOrders ticker then (some order, c)
      else (some order, c.stopBalanceLoop ticker)

/-- One operation; the uuid of a new order is not that of another one. -/
def step : OrdersEvent → MakerOrdersContext M
  | .addOrder now order =>
    if order.uuid ∈ c.orderTickers then c else c.addOrder T now order
  | .removeOrder now uuid => (c.removeOrder T now uuid).2
  | .dropExpired now => { c with orders := T.dropExpiredEntries c.orders now }

/-! ## Consistency -/

/-- The count of a ticker, zero when there is none. -/
def countOf (ticker : String) : ℕ := (c.countByTickers.lookup ticker).getD 0

/-- How many stored orders sell the coin. -/
def storedWithBase (ticker : String) : ℕ :=
  sum (fun e : MakerOrder × Option ℕ => if e.1.base = ticker then 1 else 0) (T.entries c.orders)

structure Consistent : Prop where
  tickers : ∀ uuid, uuid ∈ c.orderTickers ↔ uuid ∈ T.entries c.orders
  count : ∀ ticker, c.countOf ticker = c.storedWithBase T ticker
  loops : ∀ ticker, ticker ∈ c.balanceLoops ↔ 0 < c.countOf ticker

/-- No order is removed or dropped after its expiration. -/
def NoneExpired (c : MakerOrdersContext M) : OrdersEvent → Prop
  | .addOrder _ _ => True
  | .removeOrder now uuid => ∀ e ∈ (T.entries c.orders).lookup uuid, T.expired now e = false
  | .dropExpired now => anyValue (T.expired now) (T.entries c.orders) = false

instance : ∀ e, Decidable (c.NoneExpired T e)
  | .addOrder _ _ => isTrue trivial
  | .removeOrder now uuid => Option.decidableForallMem (o := (T.entries c.orders).lookup uuid)
      (p := fun e => T.expired now e = false)
  | .dropExpired now =>
    inferInstanceAs (Decidable (anyValue (T.expired now) (T.entries c.orders) = false))

/-- The tickers are also those of the orders. -/
structure Inv : Prop extends c.Consistent T where
  base : ∀ uuid e, (T.entries c.orders).lookup uuid = some e →
    c.orderTickers.lookup uuid = some e.1.base

variable {T c}

theorem Inv.addOrder (hT : T.Documented) (h : c.Inv T) {now : ℕ} {order : MakerOrder}
    (hnew : order.uuid ∉ c.orderTickers) : (c.addOrder T now order).Inv T := by
  obtain ⟨expiry, hentries⟩ : ∃ expiry, T.entries (c.addOrder T now order).orders =
      (T.entries c.orders).insert order.uuid (order, expiry) := by
    rw [MakerOrdersContext.addOrder]
    cases order.timeoutInMinutes with
    | none => exact ⟨none, hT.insertConstant _ _ _⟩
    | some t => exact ⟨_, hT.insertExpirable _ _ _ _ _⟩
  have hnot : order.uuid ∉ T.entries c.orders := fun hmem => hnew ((h.tickers _).mpr hmem)
  have hcount (ticker : String) : (c.addOrder T now order).countOf ticker =
      (if order.base = ticker then 1 else 0) + c.countOf ticker := by
    rw [countOf, MakerOrdersContext.addOrder]
    rcases eq_or_ne ticker order.base with rfl | hne
    · rw [Finmap.lookup_insert, if_pos rfl, Option.getD_some, add_comm, countOf]
    · rw [Finmap.lookup_insert_of_ne _ hne, if_neg hne.symm, zero_add, countOf]
  exact
    { tickers := by
        intro uuid
        rw [hentries, MakerOrdersContext.addOrder, Finmap.mem_insert, Finmap.mem_insert, h.tickers]
      count := by
        intro ticker
        rw [hcount, storedWithBase, hentries, sum_insert_of_notMem _ _ hnot, h.count,
          storedWithBase]
      loops := by
        intro ticker
        rw [hcount, MakerOrdersContext.addOrder, Finset.mem_insert, h.loops]
        split
        · rename_i heq
          simp [heq]
        · rename_i hne
          simp [Ne.symm hne]
      base := by
        intro uuid e he
        rw [hentries] at he
        rcases lookup_insert_eq_some.mp he with ⟨rfl, rfl⟩ | ⟨hne, hold⟩
        · exact Finmap.lookup_insert _
        · rw [MakerOrdersContext.addOrder, Finmap.lookup_insert_of_ne _ hne]
          exact h.base uuid e hold }

/-- Only the stored orders and the tickers matter. -/
theorem Inv.of_entries {c' : MakerOrdersContext M} (h : c.Inv T)
    (hentries : T.entries c'.orders = T.entries c.orders)
    (htickers : c'.orderTickers = c.orderTickers) (hcounts : c'.countByTickers = c.countByTickers)
    (hloops : c'.balanceLoops = c.balanceLoops) : c'.Inv T where
  tickers uuid := by rw [htickers, hentries, h.tickers]
  count ticker := by rw [countOf, hcounts, storedWithBase, hentries, ← countOf, h.count,
    storedWithBase]
  loops ticker := by rw [hloops, countOf, hcounts, ← countOf, h.loops]
  base := by
    rw [hentries, htickers]
    exact h.base

theorem countOf_decrementCount (ticker ticker' : String) :
    (c.decrementCount ticker).countOf ticker' =
      if ticker' = ticker then c.countOf ticker - 1 else c.countOf ticker' := by
  rw [decrementCount, countOf, countOf, countOf]
  cases hcount : c.countByTickers.lookup ticker with
  | none =>
    rcases eq_or_ne ticker' ticker with rfl | hne
    · simp [hcount]
    · simp [hne]
  | some count =>
    rcases eq_or_ne ticker' ticker with rfl | hne
    · rcases Nat.eq_zero_or_pos count with rfl | hpos
      · simp [hcount]
      · simp [hpos, Finmap.lookup_insert]
    · rcases Nat.eq_zero_or_pos count with rfl | hpos
      · simp [hne]
      · simp [hpos, hne, Finmap.lookup_insert_of_ne]

@[simp] theorem orders_decrementCount (ticker : String) :
    (c.decrementCount ticker).orders = c.orders := by
  rw [decrementCount]
  repeat' split
  all_goals rfl

@[simp] theorem orderTickers_decrementCount (ticker : String) :
    (c.decrementCount ticker).orderTickers = c.orderTickers := by
  rw [decrementCount]
  repeat' split
  all_goals rfl

@[simp] theorem balanceLoops_decrementCount (ticker : String) :
    (c.decrementCount ticker).balanceLoops = c.balanceLoops := by
  rw [decrementCount]
  repeat' split
  all_goals rfl

/-- The loop of a ticker is stopped with its last order. -/
def afterRemoval (c : MakerOrdersContext M) (ticker : String) : MakerOrdersContext M :=
  if (c.decrementCount ticker).coinHasActiveMakerOrders ticker then c.decrementCount ticker
  else (c.decrementCount ticker).stopBalanceLoop ticker

theorem orders_afterRemoval (ticker : String) : (c.afterRemoval ticker).orders = c.orders := by
  rw [afterRemoval]
  split
  · exact orders_decrementCount ticker
  · exact orders_decrementCount ticker

theorem orderTickers_afterRemoval (ticker : String) :
    (c.afterRemoval ticker).orderTickers = c.orderTickers := by
  rw [afterRemoval]
  split
  · exact orderTickers_decrementCount ticker
  · exact orderTickers_decrementCount ticker

theorem countOf_afterRemoval (ticker ticker' : String) : (c.afterRemoval ticker).countOf ticker' =
    if ticker' = ticker then c.countOf ticker - 1 else c.countOf ticker' := by
  rw [afterRemoval, ← countOf_decrementCount]
  split <;> rfl

theorem mem_balanceLoops_afterRemoval (ticker ticker' : String) :
    ticker' ∈ (c.afterRemoval ticker).balanceLoops ↔
      ticker' ∈ c.balanceLoops ∧ (ticker' = ticker → 0 < c.countOf ticker - 1) := by
  have hactive : (c.decrementCount ticker).coinHasActiveMakerOrders ticker = true ↔
      0 < c.countOf ticker - 1 := by
    have hcount := countOf_decrementCount (c := c) ticker ticker
    rw [if_pos rfl] at hcount
    rw [coinHasActiveMakerOrders, decide_eq_true_eq, ← hcount, countOf]
  rw [afterRemoval]
  split
  · rename_i hmore
    rw [balanceLoops_decrementCount]
    exact ⟨fun hmem => ⟨hmem, fun _ => hactive.mp hmore⟩, And.left⟩
  · rename_i hlast
    rw [stopBalanceLoop, Finset.mem_erase, balanceLoops_decrementCount, and_comm]
    refine and_congr_right fun _ => ?_
    rw [hactive] at hlast
    exact ⟨fun hne heq => absurd heq hne, fun himp heq => hlast (himp heq)⟩

theorem removeOrder_of_live (hT : T.Documented) {now : ℕ} {uuid : Uuid}
    {e : MakerOrder × Option ℕ} (he : (T.entries c.orders).lookup uuid = some e)
    (hlive : T.expired now e = false) (h : c.Inv T) :
    (c.removeOrder T now uuid).2 =
      { c with
        orders := (T.remove c.orders now uuid).2
        orderTickers := c.orderTickers.erase uuid }.afterRemoval e.1.base := by
  have hvalue := hT.remove_value c.orders now uuid
  rw [he, Option.bind_some, hlive, if_neg Bool.false_ne_true] at hvalue
  simp only [removeOrder, hvalue, h.base uuid e he, afterRemoval]
  split <;> rfl

theorem Inv.removeOrder (hT : T.Documented) (h : c.Inv T) {now : ℕ} {uuid : Uuid}
    (hlive : ∀ e ∈ (T.entries c.orders).lookup uuid, T.expired now e = false) :
    (c.removeOrder T now uuid).2.Inv T := by
  cases he : (T.entries c.orders).lookup uuid with
  | none =>
    have hvalue := hT.remove_value c.orders now uuid
    rw [he, Option.bind_none] at hvalue
    have hsame : T.entries (T.remove c.orders now uuid).2 = T.entries c.orders := by
      rw [hT.remove_entries]
      refine Finmap.ext_lookup fun k => ?_
      rcases eq_or_ne k uuid with rfl | hne
      · rw [Finmap.lookup_erase, he]
      · rw [Finmap.lookup_erase_ne hne]
    simp only [MakerOrdersContext.removeOrder, hvalue]
    exact h.of_entries hsame rfl rfl rfl
  | some e =>
    rw [removeOrder_of_live hT he (hlive e he) h]
    have hentries := hT.remove_entries c.orders now uuid
    have hstored (ticker : String) : c.storedWithBase T ticker =
        (if e.1.base = ticker then 1 else 0) +
          sum (fun e : MakerOrder × Option ℕ => if e.1.base = ticker then 1 else 0)
            ((T.entries c.orders).erase uuid) := sum_erase _ he
    have hpos : 0 < c.countOf e.1.base := by
      rw [h.count, hstored, if_pos rfl]
      exact Nat.lt_add_right _ Nat.one_pos
    exact
      { tickers := by
          intro uuid'
          rw [orderTickers_afterRemoval, orders_afterRemoval, hentries, Finmap.mem_erase,
            Finmap.mem_erase, h.tickers]
        count := by
          intro ticker
          rw [countOf_afterRemoval, storedWithBase, orders_afterRemoval, hentries]
          have hcount := h.count ticker
          rw [hstored] at hcount
          split
          · rename_i heq
            subst heq
            rw [if_pos rfl] at hcount
            change c.countOf e.1.base - 1 = _
            rw [hcount, Nat.add_sub_cancel_left]
          · rename_i hne
            rw [if_neg (Ne.symm hne), zero_add] at hcount
            exact hcount
        loops := by
          intro ticker
          rw [mem_balanceLoops_afterRemoval, countOf_afterRemoval]
          change ticker ∈ c.balanceLoops ∧ (ticker = e.1.base → 0 < c.countOf e.1.base - 1) ↔ _
          rw [h.loops]
          split
          · rename_i heq
            subst heq
            exact ⟨fun hmore => hmore.2 rfl, fun hmore => ⟨hpos, fun _ => hmore⟩⟩
          · rename_i hne
            exact ⟨And.left, fun hmore => ⟨hmore, fun heq => absurd heq hne⟩⟩
        base := by
          intro uuid' e' he'
          rw [orders_afterRemoval, hentries] at he'
          obtain ⟨hne, hold⟩ := lookup_erase_eq_some.mp he'
          rw [orderTickers_afterRemoval, Finmap.lookup_erase_ne hne]
          exact h.base uuid' e' hold }

/-- The timed map forgets an expired entry without giving it back, and its ticker stays. -/
theorem not_consistent_removeOrder (hT : T.Documented) (h : c.Inv T) {now : ℕ} {uuid : Uuid}
    {e : MakerOrder × Option ℕ} (he : (T.entries c.orders).lookup uuid = some e)
    (hexpired : T.expired now e = true) : ¬ (c.removeOrder T now uuid).2.Consistent T := by
  have hvalue := hT.remove_value c.orders now uuid
  rw [he, Option.bind_some, hexpired, if_pos rfl] at hvalue
  intro hconsistent
  simp only [removeOrder, hvalue] at hconsistent
  have hmem := (hconsistent.tickers uuid).mp
    ((h.tickers uuid).mpr (Finmap.mem_of_lookup_eq_some he))
  rw [hT.remove_entries] at hmem
  exact Finmap.notMem_erase_self hmem

theorem anyValue_expired {now : ℕ} : anyValue (T.expired now) (T.entries c.orders) = false ↔
    ∀ uuid e, (T.entries c.orders).lookup uuid = some e → T.expired now e = false :=
  anyValue_eq_false _ _

theorem Inv.dropExpired (hT : T.Documented) (h : c.Inv T) {now : ℕ}
    (hlive : anyValue (T.expired now) (T.entries c.orders) = false) :
    { c with orders := T.dropExpiredEntries c.orders now }.Inv T := by
  refine h.of_entries ?_ rfl rfl rfl
  rw [hT.drop_entries]
  refine Finmap.ext_lookup fun uuid => ?_
  rw [lookup_retain]
  cases he : (T.entries c.orders).lookup uuid with
  | none => rfl
  | some e => simp [anyValue_expired.mp hlive uuid e he]

/-- The ticker of a dropped order stays. -/
theorem not_consistent_dropExpired (hT : T.Documented) (h : c.Inv T) {now : ℕ}
    (hexpired : anyValue (T.expired now) (T.entries c.orders) = true) :
    ¬ { c with orders := T.dropExpiredEntries c.orders now }.Consistent T := by
  obtain ⟨uuid, e, he, hdue⟩ := (anyValue_eq_true _ _).mp hexpired
  intro hconsistent
  have hmem := (hconsistent.tickers uuid).mp
    ((h.tickers uuid).mpr (Finmap.mem_of_lookup_eq_some he))
  obtain ⟨e', he'⟩ := Finmap.mem_iff.mp hmem
  rw [hT.drop_entries, lookup_retain, he, Option.filter_some, hdue] at he'
  simp at he'

/-! ## Runs -/

theorem Inv.step (hT : T.Documented) (h : c.Inv T) {e : OrdersEvent} (he : c.NoneExpired T e) :
    (c.step T e).Inv T := by
  cases e with
  | addOrder now order =>
    rw [MakerOrdersContext.step]
    split
    · exact h
    · rename_i hnew
      exact h.addOrder hT hnew
  | removeOrder now uuid => exact h.removeOrder hT he
  | dropExpired now => exact h.dropExpired hT he

theorem consistent_step_iff (hT : T.Documented) (h : c.Inv T) (e : OrdersEvent) :
    (c.step T e).Consistent T ↔ c.NoneExpired T e := by
  constructor
  · intro hconsistent
    cases e with
    | addOrder now order => trivial
    | removeOrder now uuid =>
      intro e he
      by_contra hexpired
      exact not_consistent_removeOrder hT h he (by simpa using hexpired) hconsistent
    | dropExpired now =>
      by_contra hexpired
      exact not_consistent_dropExpired hT h (by simpa [NoneExpired] using hexpired) hconsistent
  · exact fun he => (h.step hT he).toConsistent

/-- No orders. -/
structure Empty (T : TimedMap Uuid MakerOrder M) (c : MakerOrdersContext M) : Prop where
  orders : T.entries c.orders = ∅
  orderTickers : c.orderTickers = ∅
  countByTickers : c.countByTickers = ∅
  balanceLoops : c.balanceLoops = ∅

theorem Empty.inv (h : c.Empty T) : c.Inv T where
  tickers uuid := by simp [h.orders, h.orderTickers, Finmap.notMem_empty]
  count ticker := by simp [countOf, h.countByTickers, storedWithBase, h.orders]
  loops ticker := by simp [countOf, h.countByTickers, h.balanceLoops]
  base uuid e he := by simp [h.orders] at he

/-- The four maps stay consistent in a run exactly when no order outlives its expiration. -/
theorem consistent_iff_noneExpired (hT : T.Documented) (hempty : c.Empty T)
    (es : List OrdersEvent) :
    (∀ pre, pre <+: es → (pre.foldl (MakerOrdersContext.step T) c).Consistent T) ↔
      Meets (fun c e => some (c.step T e)) (NoneExpired T) c es := by
  rw [meets_iff_forall_append (P := Consistent T) (I := Inv T)
    (fun c e => ⟨_, rfl⟩)
    (fun c e c' hI _ hstep => Option.some.inj hstep ▸ consistent_step_iff hT hI e)
    (fun c e c' hI hG hstep => Option.some.inj hstep ▸ hI.step hT hG)
    hempty.inv hempty.inv.toConsistent]
  simp only [run_some, Option.some.injEq, forall_eq']

/-! ### An order that expires -/

def emptyContext : MakerOrdersContext (HashMap Uuid (MakerOrder × Option ℕ)) := ⟨∅, ∅, ∅, ∅⟩

theorem empty_emptyContext : Empty .ofEntries emptyContext := ⟨rfl, rfl, rfl, rfl⟩

/-- An order selling RICK. -/
def rickOrder (uuid : Uuid) (timeoutInMinutes : Option UInt16) : MakerOrder :=
  { testMakerBuilder OwnOrder.rick OwnOrder.morty with
    timeoutInMinutes := timeoutInMinutes }.assemble ⟨0, uuid, ⟨1⟩⟩ (777 / 100000)

/-- Two orders of one coin, one of them removed, and the main loop comes by. -/
def twoOrders (timeoutInMinutes : Option UInt16) : List OrdersEvent :=
  [.addOrder 0 (rickOrder 1 timeoutInMinutes), .addOrder 0 (rickOrder 2 none), .removeOrder 30 2,
    .dropExpired 60]

theorem consistent_twoOrders :
    ((twoOrders none).foldl (step .ofEntries) emptyContext).countOf "RICK" = 1 ∧
    ∀ pre, pre <+: twoOrders none →
      (pre.foldl (step .ofEntries) emptyContext).Consistent .ofEntries :=
  ⟨by decide +kernel,
    (consistent_iff_noneExpired TimedMap.documented_ofEntries empty_emptyContext _).mpr
      (by decide +kernel)⟩

/-- The order expires after a minute: it is gone, but its ticker, its count and the balance loop
stay. -/
theorem not_consistent_expired :
    emptyContext.Empty .ofEntries ∧
      (((twoOrders (some 1)).foldl (step .ofEntries) emptyContext).countOf "RICK",
        ((twoOrders (some 1)).foldl (step .ofEntries) emptyContext).storedWithBase .ofEntries
          "RICK") = (1, 0) ∧
      ¬ ((twoOrders (some 1)).foldl (step .ofEntries) emptyContext).Consistent .ofEntries := by
  have hcounts : (((twoOrders (some 1)).foldl (step .ofEntries) emptyContext).countOf "RICK",
      ((twoOrders (some 1)).foldl (step .ofEntries) emptyContext).storedWithBase .ofEntries
        "RICK") = (1, 0) := by decide +kernel
  refine ⟨empty_emptyContext, hcounts, fun h => ?_⟩
  obtain ⟨hcount, hstored⟩ := Prod.mk.inj hcounts
  have hequal := h.count "RICK"
  omega

end MakerOrdersContext

end DeXFG.Ordermatch
