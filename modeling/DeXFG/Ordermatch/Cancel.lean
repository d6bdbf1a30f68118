import DeXFG.Ordermatch.Index

/-!
# Finality of cancellations

A cancelled order is remembered by its uuid together with the public key that
cancelled it, and one uuid is remembered for one public key only. As long as the
entry names the owner no handler brings the order back, so the order stays out
until another public key cancels the same uuid or the entry expires.
-/
namespace DeXFG.Ordermatch
open DeXFG.Library.FiniteMap DeXFG.Library.SetMap DeXFG.Library.KeyedWrites DeXFG.Library.Runs
open NewProtocol Orderbook

/-! ## Time -/

/-- `RECENTLY_CANCELLED_TIMEOUT` in seconds. -/
def recentlyCancelledTimeout : ℕ := 120

/-- The orderbook with the times at which the entries of `recently_cancelled` expire. -/
structure TimedOrderbook where
  orderbook : Orderbook := {}
  expiresAt : HashMap Uuid ℕ := ∅

namespace TimedOrderbook

/-- The orderbook as it is seen at a time: expired entries are not found. -/
def liveAt (s : TimedOrderbook) (now : ℕ) : Orderbook :=
  { s.orderbook with
    recentlyCancelled :=
      retain (fun u _ => now < (s.expiresAt.lookup u).getD 0) s.orderbook.recentlyCancelled }

variable (it : IngestIteration)

/-- A handler at a time. Expiry is decided by the clock and is no event here. -/
def step (s : TimedOrderbook) : ℕ × IndexEvent → Option TimedOrderbook
  | (_, .cancelledExpired _) => none
  | (now, .makerOrderCancelled fromPubkey msg) =>
    some ⟨(IndexEvent.makerOrderCancelled fromPubkey msg).handle it (s.liveAt now),
      s.expiresAt.insert msg.uuid (now + recentlyCancelledTimeout)⟩
  | (now, e) => some ⟨e.handle it (s.liveAt now), s.expiresAt⟩

end TimedOrderbook

/-! ## Messages that list an order -/

/-- The diff lists an order of the public key under the uuid. -/
def DeltaOrFullTrie.ListsOrder (uuid : Uuid) (pubkey : String) :
    DeltaOrFullTrie Uuid OrderbookP2PItem → Prop
  | .delta deltaOrders => ∃ key order, deltaOrders.lookup key = some (some order) ∧ order.uuid = uuid ∧
      order.pubkey = pubkey
  | .fullTrie trie => ∃ entry ∈ trie, entry.2.uuid = uuid ∧ entry.2.pubkey = pubkey

namespace IndexEvent

/-- The handler is given an order of the public key under the uuid. -/
def Lists (uuid : Uuid) (pubkey : String) : IndexEvent → Prop
  | insertOrUpdateOrder item => item.uuid = uuid ∧ item.pubkey = pubkey
  | insertOrUpdateMyOrder item _ => item.uuid = uuid ∧ item.pubkey = pubkey
  | syncResponse _ response => ∃ pair diff, response.pairOrdersDiff.lookup pair = some diff ∧
      diff.ListsOrder uuid pubkey
  | fillOrderbook _ _ _ response => ∃ key orders, response.pubkeyOrders.lookup key = some orders ∧
      ∃ entry ∈ orders, entry.2.uuid = uuid ∧ entry.2.pubkey = pubkey
  | _ => False

/-- The public key of the last cancellation of the uuid, after the handler. -/
def canceller (uuid : Uuid) (last : String) : IndexEvent → String
  | makerOrderCancelled fromPubkey msg => if msg.uuid = uuid then fromPubkey else last
  | _ => last

/-- Whenever an order of the public key under the uuid is listed, the last cancellation of the uuid
came from this public key. -/
def Undisturbed (uuid : Uuid) (pubkey : String) : String → List (ℕ × IndexEvent) → Prop
  | _, [] => True
  | last, e :: es => (e.2.Lists uuid pubkey → last = pubkey) ∧
      Undisturbed uuid pubkey (e.2.canceller uuid last) es

end IndexEvent

/-! ## One handler -/

variable {it : IngestIteration} {orderbook : Orderbook} {uuid : Uuid} {pubkey : String}
  {order : OrderbookItem}

theorem owner_execAll {ops : List IndexOp}
    (h : (orderbook.execAll ops).1.owner uuid = some pubkey) :
    orderbook.owner uuid = some pubkey ∨
      ∃ order, .put order ∈ ops ∧ order.uuid = uuid ∧ order.pubkey = pubkey := by
  rw [owner, orderSet_execAll, lookup_applyWrites] at h
  cases hlast : lastWrite (ops.map IndexOp.write) uuid with
  | none =>
    rw [hlast, Option.getD_none] at h
    exact Or.inl h
  | some written =>
    rw [hlast, Option.getD_some] at h
    obtain ⟨order, rfl, hpubkey⟩ := Option.map_eq_some_iff.mp h
    obtain ⟨op, hop, hwrite⟩ := List.mem_map.mp (mem_of_lastWrite hlast)
    cases op with
    | put put =>
      obtain ⟨huuid, hput⟩ := Prod.mk.inj hwrite
      obtain rfl := Option.some.inj hput
      exact Or.inr ⟨put, hop, huuid, hpubkey⟩
    | drop dropped => cases (Prod.mk.inj hwrite).2

theorem put_mem_insertOps {recentlyCancelled : HashMap Uuid String} {item : OrderbookItem}
    (h : .put order ∈ insertOps recentlyCancelled item) :
    order = item ∧ recentlyCancelled.lookup item.uuid ≠ some item.pubkey := by
  unfold insertOps at h
  split_ifs at h with hcancelled
  · cases h
  · cases List.mem_singleton.mp h
  · exact ⟨IndexOp.put.inj (List.mem_singleton.mp h), hcancelled⟩

/-- A change made by a loop is made by one of its rounds. -/
theorem mem_collectOps {α : Type} {body : Orderbook → α → List IndexOp} {items : List α}
    {op : IndexOp} (h : op ∈ collectOps body orderbook items) :
    ∃ item ∈ items, ∃ before : Orderbook,
      before.recentlyCancelled = orderbook.recentlyCancelled ∧ op ∈ body before item := by
  induction items generalizing orderbook with
  | nil => cases h
  | cons item items ih =>
    rw [collectOps, List.mem_append] at h
    rcases h with hfirst | hrest
    · exact ⟨item, List.mem_cons_self, orderbook, rfl, hfirst⟩
    · obtain ⟨item', hitem, before, hcancelled, hop⟩ := ih hrest
      rw [recentlyCancelled_execAll] at hcancelled
      exact ⟨item', List.mem_cons_of_mem _ hitem, before, hcancelled, hop⟩

/-- An order inserted by a full trie is one of its entries. -/
theorem put_mem_fullTrieOps {orders : PubkeyOrders} {params : ProcessTrieParams}
    (h : .put order ∈ fullTrieOps it orderbook orders params) :
    ∃ entry ∈ orders, order = params.infos.item entry.1 entry.2 ∧
      orderbook.recentlyCancelled.lookup order.uuid ≠ some order.pubkey := by
  rw [fullTrieOps, List.mem_append] at h
  rcases h with hdrop | hput
  · obtain ⟨dropped, hop, _⟩ := mem_pairDrops hdrop
    cases hop
  · obtain ⟨entry, hentry, hput⟩ := List.mem_flatMap.mp hput
    obtain ⟨rfl, hcancelled⟩ := put_mem_insertOps hput
    exact ⟨entry, hentry, rfl, hcancelled⟩

theorem put_mem_pairDiffOps {fromPubkey : String} {infos : OrderInfos}
    {entry : AlbOrderedOrderbookPair × DeltaOrFullTrie Uuid OrderbookP2PItem}
    (h : .put order ∈ pairDiffOps it fromPubkey infos orderbook entry) :
    entry.2.ListsOrder order.uuid order.pubkey ∧
      orderbook.recentlyCancelled.lookup order.uuid ≠ some order.pubkey := by
  rcases entry with ⟨pair, delta | trie⟩
  · obtain ⟨⟨key, _ | listed⟩, hentry, hput⟩ := List.mem_flatMap.mp h
    · cases List.mem_singleton.mp hput
    · obtain ⟨rfl, hcancelled⟩ := put_mem_insertOps hput
      exact ⟨⟨key, listed, (it.delta.mem_toList _ _ _).mp hentry, rfl, rfl⟩, hcancelled⟩
  · obtain ⟨entry, hentry, rfl, hcancelled⟩ := put_mem_fullTrieOps h
    exact ⟨⟨entry, hentry, rfl, rfl⟩, hcancelled⟩

theorem put_mem_updateOps {found : Option OrderbookItem} {msg : MakerOrderUpdated}
    (h : .put order ∈ updateOps orderbook found msg) :
    ∃ stored, found = some stored ∧ order.uuid = stored.uuid ∧ order.pubkey = stored.pubkey ∧
      orderbook.recentlyCancelled.lookup order.uuid ≠ some order.pubkey := by
  cases found with
  | none => cases h
  | some stored =>
    obtain ⟨rfl, hcancelled⟩ := put_mem_insertOps h
    exact ⟨stored, rfl, rfl, rfl, hcancelled⟩

namespace IndexEvent

/-- An order of another owner than the stored one enters the index only when the handler is given
it and the entry of its uuid does not name its owner. -/
theorem put_mem_ops {e : IndexEvent} (h : .put order ∈ e.ops it orderbook) :
    (e.Lists order.uuid order.pubkey ∨ ∃ uuid stored, orderbook.orderSet.lookup uuid = some stored ∧
      stored.uuid = order.uuid ∧ stored.pubkey = order.pubkey) ∧
      orderbook.recentlyCancelled.lookup order.uuid ≠ some order.pubkey := by
  cases e with
  | insertOrUpdateOrder item =>
    obtain ⟨rfl, hcancelled⟩ := put_mem_insertOps h
    exact ⟨Or.inl ⟨rfl, rfl⟩, hcancelled⟩
  | insertOrUpdateMyOrder item key =>
    obtain ⟨rfl, hcancelled⟩ := put_mem_insertOps h
    exact ⟨Or.inl ⟨rfl, rfl⟩, hcancelled⟩
  | deleteMyOrder uuid key => cases List.mem_singleton.mp h
  | makerOrderUpdated fromPubkey msg =>
    obtain ⟨stored, hfound, huuid, hpubkey, hcancelled⟩ := put_mem_updateOps h
    exact ⟨Or.inr ⟨msg.uuid, stored, (Option.filter_eq_some_iff.mp hfound).1, huuid.symm,
      hpubkey.symm⟩, hcancelled⟩
  | myMakerOrderUpdated msg =>
    obtain ⟨stored, hfound, huuid, hpubkey, hcancelled⟩ := put_mem_updateOps h
    exact ⟨Or.inr ⟨msg.uuid, stored, hfound, huuid.symm, hpubkey.symm⟩, hcancelled⟩
  | makerOrderCancelled fromPubkey msg =>
    simp only [ops, cancelOps] at h
    split_ifs at h
    · cases List.mem_singleton.mp h
    · cases h
  | syncResponse fromPubkey response =>
    obtain ⟨⟨pair, diff⟩, hentry, before, hsame, hop⟩ := mem_collectOps h
    obtain ⟨hlists, hcancelled⟩ := put_mem_pairDiffOps hop
    rw [hsame] at hcancelled
    exact ⟨Or.inl ⟨pair, diff, (it.pairs.mem_toList _ _ _).mp hentry, hlists⟩, hcancelled⟩
  | fillOrderbook env base rel response =>
    obtain ⟨⟨key, orders⟩, hentry, before, hsame, hop⟩ := mem_collectOps h
    unfold fillPubkeyOps at hop
    split_ifs at hop
    · obtain ⟨listed, hlisted, rfl, hcancelled⟩ := put_mem_fullTrieOps hop
      rw [hsame] at hcancelled
      exact ⟨Or.inl ⟨key, orders, (it.pubkeys.mem_toList _ _ _).mp hentry, listed, hlisted, rfl,
        rfl⟩, hcancelled⟩
    · cases hop
  | timedOutUuids uuids =>
    obtain ⟨uuid, _, hop⟩ := List.mem_map.mp h
    cases hop
  | cancelledExpired keep => cases h

/-- Only a cancellation adds an entry to `recently_cancelled`. -/
theorem recentlyCancelled_handle (e : IndexEvent) :
    (e.handle it orderbook).recentlyCancelled =
      match e with
      | makerOrderCancelled fromPubkey msg =>
        orderbook.recentlyCancelled.insert msg.uuid fromPubkey
      | cancelledExpired keep => retain (fun u _ => keep u) orderbook.recentlyCancelled
      | _ => orderbook.recentlyCancelled := by
  have hupdate : ∀ (found : Option OrderbookItem) msg, ((found.map fun order =>
      orderbook.indexInsertOrUpdate (order.applyUpdated msg)).map Prod.fst).getD orderbook =
        (orderbook.execAll (updateOps orderbook found msg)).1 := by
    rintro (_ | order) msg
    · rfl
    · simp only [updateOps, indexInsertOrUpdate_eq, Option.map_some, Option.getD_some]
  cases e with
  | insertOrUpdateOrder item => simp [handle, indexInsertOrUpdate_eq]
  | insertOrUpdateMyOrder item key =>
    cases key <;> simp [handle, Ordermatch.insertOrUpdateMyOrder, indexInsertOrUpdate_eq]
  | deleteMyOrder uuid key =>
    have hdrop : (orderbook.exec (.drop uuid)).1.recentlyCancelled =
        orderbook.recentlyCancelled := recentlyCancelled_exec
    cases key <;> exact hdrop
  | makerOrderUpdated fromPubkey msg =>
    simp only [handle, processMakerOrderUpdated, hupdate, recentlyCancelled_execAll]
  | myMakerOrderUpdated msg =>
    simp only [handle, processMyMakerOrderUpdated]
    cases orderbook.findOrderByUuid msg.uuid with
    | none => rfl
    | some order => simp [indexInsertOrUpdate_eq]
  | makerOrderCancelled fromPubkey msg => simp [handle, processMakerOrderCancelled_eq, withMemory]
  | syncResponse fromPubkey response => simp [handle, processSyncResponse_fst]
  | fillOrderbook env base rel response => simp [handle, fillOrderbook_fst]
  | timedOutUuids uuids => simp [handle, removeTimedOutUuids_eq]
  | cancelledExpired keep => rfl

theorem orderSet_handle (e : IndexEvent) :
    (e.handle it orderbook).orderSet = (orderbook.execAll (e.ops it orderbook)).1.orderSet := by
  obtain ⟨cancelled, keys, heq⟩ := handle_eq it orderbook e
  rw [heq]
  rfl

end IndexEvent

/-! ## Runs -/

/-- Every order is stored under its own uuid. -/
def Keyed (orderbook : Orderbook) : Prop :=
  ∀ uuid order, orderbook.orderSet.lookup uuid = some order → order.uuid = uuid

theorem Keyed.execAll (h : Keyed orderbook) (ops : List IndexOp) :
    Keyed (orderbook.execAll ops).1 := by
  induction ops generalizing orderbook with
  | nil => exact h
  | cons op ops ih =>
    rw [execAll_cons]
    apply ih
    intro uuid order hlookup
    rw [orderSet_exec, lookup_applyWrite, IndexOp.write_fst] at hlookup
    by_cases huuid : op.uuid = uuid
    · rw [if_pos huuid] at hlookup
      cases op with
      | put put =>
        obtain rfl := Option.some.inj hlookup
        exact huuid
      | drop dropped => cases hlookup
    · rw [if_neg huuid] at hlookup
      exact h uuid order hlookup

theorem Keyed.handle (h : Keyed orderbook) (e : IndexEvent) : Keyed (e.handle it orderbook) := by
  intro uuid order hlookup
  rw [IndexEvent.orderSet_handle] at hlookup
  exact h.execAll _ uuid order hlookup

/-- The order stays out as long as it is not listed, or its entry names its owner. -/
theorem owner_handle_ne (hkeyed : Keyed orderbook) {e : IndexEvent}
    (hout : orderbook.owner uuid ≠ some pubkey)
    (hlists : e.Lists uuid pubkey → orderbook.recentlyCancelled.lookup uuid = some pubkey) :
    (e.handle it orderbook).owner uuid ≠ some pubkey := by
  intro howner
  rw [owner, IndexEvent.orderSet_handle] at howner
  rcases owner_execAll howner with hbefore | ⟨order, hput, rfl, rfl⟩
  · exact hout hbefore
  · obtain ⟨hlisted | ⟨key, stored, hlookup, huuid, hpubkey⟩, hcancelled⟩ :=
      IndexEvent.put_mem_ops hput
    · exact hcancelled (hlists hlisted)
    · have hkey : key = order.uuid := (hkeyed key stored hlookup).symm.trans huuid
      rw [hkey] at hlookup
      exact hout (by rw [owner, hlookup, Option.map_some, hpubkey])

namespace TimedOrderbook

variable {s s' : TimedOrderbook} {now deadline : ℕ} {last : String}

theorem step_eq_some {e : IndexEvent} (h : step it s (now, e) = some s') :
    s'.orderbook = e.handle it (s.liveAt now) ∧
      s'.expiresAt = match e with
        | .makerOrderCancelled _ msg => s.expiresAt.insert msg.uuid (now + recentlyCancelledTimeout)
        | _ => s.expiresAt := by
  cases e <;> simp only [step, Option.some.injEq, reduceCtorEq] at h <;> subst h <;>
    exact ⟨rfl, rfl⟩

theorem keyed_run {es : List (ℕ × IndexEvent)} (h : Keyed s.orderbook)
    (hrun : run (step it) s es = some s') : Keyed s'.orderbook := by
  refine invariant_run (I := fun s => Keyed s.orderbook) (G := fun _ _ => True) ?_ h
    (meets_of_forall fun _ _ => trivial) hrun
  rintro s ⟨now, e⟩ s' hkeyed _ hstep
  rw [(step_eq_some hstep).1]
  have hlive : Keyed (s.liveAt now) := hkeyed
  exact hlive.handle e

/-- The uuid is remembered for a public key until the deadline at least. -/
structure Remembers (s : TimedOrderbook) (uuid : Uuid) (last : String) (deadline : ℕ) : Prop where
  entry : s.orderbook.recentlyCancelled.lookup uuid = some last
  expires : ∃ time, s.expiresAt.lookup uuid = some time ∧ deadline ≤ time

theorem Remembers.liveAt (h : s.Remembers uuid last deadline) (hnow : now < deadline) :
    (s.liveAt now).recentlyCancelled.lookup uuid = some last := by
  obtain ⟨time, htime, hdeadline⟩ := h.expires
  rw [TimedOrderbook.liveAt, lookup_retain, h.entry, htime, Option.filter_some_pos]
  rw [Option.getD_some, decide_eq_true_eq]
  omega

/-- Before the deadline an entry is only replaced by a newer one. -/
theorem Remembers.step (h : s.Remembers uuid last deadline) {e : IndexEvent}
    (hnow : now < deadline) (hdeadline : deadline ≤ now + recentlyCancelledTimeout)
    (hstep : TimedOrderbook.step it s (now, e) = some s') :
    s'.Remembers uuid (e.canceller uuid last) deadline := by
  obtain ⟨horderbook, hexpires⟩ := step_eq_some hstep
  have hentry := h.liveAt hnow
  constructor
  · rw [horderbook, IndexEvent.recentlyCancelled_handle]
    cases e with
    | makerOrderCancelled fromPubkey msg =>
      by_cases huuid : msg.uuid = uuid
      · simp [IndexEvent.canceller, huuid]
      · simp only [IndexEvent.canceller, huuid, if_false, Finmap.lookup_insert_of_ne _ (Ne.symm huuid)]
        exact hentry
    | cancelledExpired keep => cases hstep
    | _ => exact hentry
  · rw [hexpires]
    cases e with
    | makerOrderCancelled fromPubkey msg =>
      by_cases huuid : msg.uuid = uuid
      · subst huuid
        exact ⟨_, Finmap.lookup_insert _, hdeadline⟩
      · obtain ⟨time, htime, hle⟩ := h.expires
        exact ⟨time, by rwa [Finmap.lookup_insert_of_ne _ (Ne.symm huuid)], hle⟩
    | _ => exact h.expires

/-- The run after a cancellation. -/
theorem owner_run_ne (last : String) (deadline : ℕ) {es : List (ℕ × IndexEvent)}
    (hkeyed : Keyed s.orderbook)
    (hout : s.orderbook.owner uuid ≠ some pubkey) (hremembers : s.Remembers uuid last deadline)
    (htimes : ∀ e ∈ es, e.1 < deadline ∧ deadline ≤ e.1 + recentlyCancelledTimeout)
    (hundisturbed : IndexEvent.Undisturbed uuid pubkey last es)
    (hrun : run (step it) s es = some s') : s'.orderbook.owner uuid ≠ some pubkey := by
  induction es generalizing s last with
  | nil =>
    obtain rfl := Option.some.inj hrun
    exact hout
  | cons e es ih =>
    obtain ⟨now, e⟩ := e
    obtain ⟨t, hstep, hrest⟩ := run_cons_eq_some.mp hrun
    obtain ⟨hnow, hdeadline⟩ := htimes (now, e) List.mem_cons_self
    have hlive := hremembers.liveAt hnow
    have hkeyedLive : Keyed (s.liveAt now) := hkeyed
    refine ih _ ?_ ?_ (hremembers.step hnow hdeadline hstep)
      (fun e' hmem => htimes e' (List.mem_cons_of_mem _ hmem)) hundisturbed.2 hrest
    · rw [(step_eq_some hstep).1]
      exact hkeyedLive.handle e
    · rw [(step_eq_some hstep).1]
      refine owner_handle_ne hkeyedLive hout fun hlists => ?_
      rw [hlive, hundisturbed.1 hlists]

/-- After a public key's cancellation of a uuid, and before the entry of the cancellation expires,
its order under the uuid never comes back, provided that each handler which lists the order finds
that the last cancellation of the uuid came from this public key. -/
theorem cancelled_stays_out {pre es : List (ℕ × IndexEvent)} {msg : MakerOrderCancelled}
    (hpre : run (step it) {} (pre ++ [(now, .makerOrderCancelled pubkey msg)]) = some s)
    (htimes : ∀ e ∈ es, now ≤ e.1 ∧ e.1 < now + recentlyCancelledTimeout)
    (hundisturbed : IndexEvent.Undisturbed msg.uuid pubkey pubkey es)
    (hrun : run (step it) s es = some s') : s'.orderbook.owner msg.uuid ≠ some pubkey := by
  obtain ⟨before, hbefore, hcancel⟩ := run_append_eq_some.mp hpre
  rw [run_singleton] at hcancel
  have hkeyed : Keyed (before.liveAt now) := keyed_run (s := {}) (by intro u o h; simp at h) hbefore
  obtain ⟨horderbook, hexpires⟩ := step_eq_some hcancel
  refine owner_run_ne pubkey (now + recentlyCancelledTimeout) ?_ ?_ ?_ ?_ hundisturbed hrun
  · rw [horderbook]
    exact hkeyed.handle _
  · rw [horderbook, owner, IndexEvent.orderSet_handle]
    change (((before.liveAt now).execAll (cancelOps (before.liveAt now) pubkey
      msg.uuid)).1.orderSet.lookup msg.uuid).map OrderbookItem.pubkey ≠ some pubkey
    unfold cancelOps
    split_ifs with howner
    · rw [orderSet_execAll, lookup_applyWrites]
      simp [lastWrite, IndexOp.write]
    · exact howner
  · constructor
    · rw [horderbook, IndexEvent.recentlyCancelled_handle]
      exact Finmap.lookup_insert _
    · rw [hexpires]
      exact ⟨_, Finmap.lookup_insert _, le_rfl⟩
  · intro e hmem
    obtain ⟨hle, hlt⟩ := htimes e hmem
    exact ⟨hlt, by omega⟩

/-- The order is listed again a second after its cancellation. -/
theorem cancelled_stays_out_created : ∃ s,
    run (step sortedIngest) {}
      [(0, .insertOrUpdateOrder (testItem "alice" "KMD" "BTC" 1 1)),
        (1, .makerOrderCancelled "alice" ⟨1, 0, 0⟩),
        (2, .insertOrUpdateOrder (testItem "alice" "KMD" "BTC" 1 1))] = some s ∧
      s.orderbook.owner 1 ≠ some "alice" := by
  refine ⟨_, rfl, ?_⟩
  refine @cancelled_stays_out sortedIngest "alice" _ _ 1
    [(0, .insertOrUpdateOrder (testItem "alice" "KMD" "BTC" 1 1))]
    [(2, .insertOrUpdateOrder (testItem "alice" "KMD" "BTC" 1 1))] ⟨1, 0, 0⟩ rfl ?_ ?_ rfl
  · decide
  · exact ⟨fun _ => rfl, trivial⟩

/-- A cancellation of the same uuid by another public key makes room for the order again. -/
theorem not_cancelled_stays_out :
    ¬∀ s, run (step sortedIngest) {}
      [(0, .insertOrUpdateOrder (testItem "alice" "KMD" "BTC" 1 1)),
        (1, .makerOrderCancelled "alice" ⟨1, 0, 0⟩), (2, .makerOrderCancelled "mallory" ⟨1, 0, 0⟩),
        (3, .insertOrUpdateOrder (testItem "alice" "KMD" "BTC" 1 1))] = some s →
      s.orderbook.owner 1 ≠ some "alice" := by
  intro h
  exact h _ rfl (by decide +kernel)

end TimedOrderbook

end DeXFG.Ordermatch
