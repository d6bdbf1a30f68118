import DeXFG.Ordermatch.Cancellation

/-!
# Atomicity of cancellation

An order that is removed as cancelled should be free, reported and broadcast
once. Every event keeps this exactly when the order a call acts on is what it
was when the call looked at it: still listed, and without an ongoing match.
-/
namespace DeXFG.Ordermatch
open DeXFG.Library.FiniteMap DeXFG.Library.Runs MakerOrder

/-! ## The record of the calls -/

namespace CancelRecord

/-- Only free orders are removed, each is reported once and broadcast once when it is a maker order,
and an order in an ongoing match is reported as such and left in place. -/
structure Atomic (r : CancelRecord) : Prop where
  cancellable : ∀ o ∈ r.removed, o.isCancellable = true
  removed_once : (r.removed.map RemovedOrder.uuid).Nodup
  reported : r.reported.Perm (r.removed.map RemovedOrder.uuid)
  broadcast : r.broadcast.Perm ((r.removed.filter RemovedOrder.isMaker).map RemovedOrder.uuid)
  matching : ∀ m ∈ r.matching, m.2 = .currentlyMatching
  left : ∀ a ∈ r.answers, ∀ uuid ∈ a.2, uuid ∉ a.1

variable {r r' : CancelRecord}

/-- The orders `new` are removed, `told` to the caller and `sent` to the network. -/
theorem Atomic.append (h : r.Atomic) (new : List RemovedOrder) (told sent : List Uuid)
    (hremoved : r'.removed = r.removed ++ new)
    (hreported : r'.reported = r.reported ++ told) (hbroadcast : r'.broadcast = r.broadcast ++ sent)
    (hcancellable : ∀ o ∈ new, o.isCancellable = true)
    (hnodup : (new.map RemovedOrder.uuid).Nodup)
    (hnew : ∀ o ∈ new, ∀ o' ∈ r.removed, o'.uuid ≠ o.uuid)
    (htold : told.Perm (new.map RemovedOrder.uuid))
    (hsent : sent.Perm ((new.filter RemovedOrder.isMaker).map RemovedOrder.uuid))
    (hmatching : ∀ m ∈ r'.matching, m.2 = .currentlyMatching)
    (hleft : ∀ a ∈ r'.answers, ∀ uuid ∈ a.2, uuid ∉ a.1) : r'.Atomic where
  cancellable := by
    intro o ho
    rw [hremoved, List.mem_append] at ho
    exact ho.elim (h.cancellable o) (hcancellable o)
  removed_once := by
    rw [hremoved, List.map_append]
    refine List.nodup_append.mpr ⟨h.removed_once, hnodup, ?_⟩
    intro uuid huuid uuid' huuid' heq
    obtain ⟨o, ho, rfl⟩ := List.mem_map.mp huuid
    obtain ⟨o', ho', rfl⟩ := List.mem_map.mp huuid'
    exact hnew o' ho' o ho heq
  reported := by
    rw [hremoved, hreported, List.map_append]
    exact h.reported.append htold
  broadcast := by
    rw [hremoved, hbroadcast, List.filter_append, List.map_append]
    exact h.broadcast.append hsent
  matching := hmatching
  left := hleft

/-- Nothing is removed. -/
theorem Atomic.answered (h : r.Atomic) (hremoved : r'.removed = r.removed)
    (hreported : r'.reported = r.reported) (hbroadcast : r'.broadcast = r.broadcast)
    (hmatching : ∀ m ∈ r'.matching, m.2 = .currentlyMatching) (hanswers : r'.answers = r.answers) :
    r'.Atomic where
  cancellable := hremoved ▸ h.cancellable
  removed_once := hremoved ▸ h.removed_once
  reported := by
    rw [hreported, hremoved]
    exact h.reported
  broadcast := by
    rw [hbroadcast, hremoved]
    exact h.broadcast
  matching := hmatching
  left := hanswers ▸ h.left

end CancelRecord

/-! ## Removing maker orders -/

namespace CancelNode

variable {ourPublicId : H256} {s : CancelNode} {uuid uuid' : Uuid}

/-- What `remove_order` returns. -/
def removal (s : CancelNode) (uuid : Uuid) : Option RemovedOrder :=
  (s.node.makerOrders.lookup uuid).bind fun o =>
    if o.listed then some (.maker uuid o.order) else none

theorem removal_eq_some {o : RemovedOrder} : s.removal uuid = some o ↔
    ∃ own, s.node.makerOrders.lookup uuid = some own ∧ own.listed = true ∧
      o = .maker uuid own.order := by
  rw [removal, Option.bind_eq_some_iff]
  constructor
  · rintro ⟨own, hlookup, h⟩
    split at h
    · rename_i hlisted
      exact ⟨own, hlookup, hlisted, (Option.some.inj h).symm⟩
    · simp at h
  · rintro ⟨own, hlookup, hlisted, rfl⟩
    exact ⟨own, hlookup, if_pos hlisted⟩

theorem removeMaker_cases (s : CancelNode) (uuid : Uuid) :
    (s.removal uuid = none ∧ ¬ s.node.IsListed uuid ∧ s.removeMaker uuid = s) ∨
      ∃ o, s.node.makerOrders.lookup uuid = some o ∧ o.listed = true ∧
        s.removal uuid = some (.maker uuid o.order) ∧
        s.removeMaker uuid =
          { s with
            node :=
              { s.node with
                makerOrders := s.node.makerOrders.insert uuid { o with listed := false } }
            record := { s.record with
              removed := s.record.removed ++ [.maker uuid o.order] } } := by
  rw [removeMaker, removal]
  cases ho : s.node.makerOrders.lookup uuid with
  | none => exact .inl ⟨rfl, fun ⟨o, hlookup, _⟩ => by simp [ho] at hlookup, rfl⟩
  | some o =>
    cases hlisted : o.listed with
    | false =>
      refine .inl ⟨by simp [hlisted], fun ⟨o', hlookup, hlisted'⟩ => ?_, by simp [hlisted]⟩
      obtain rfl := Option.some.inj (ho.symm.trans hlookup)
      simp [hlisted] at hlisted'
    | true => exact .inr ⟨o, rfl, hlisted, by simp [hlisted], by simp [hlisted]⟩

theorem removeMaker_record (s : CancelNode) (uuid : Uuid) : (s.removeMaker uuid).record =
    { s.record with removed := s.record.removed ++ (s.removal uuid).toList } := by
  rcases removeMaker_cases s uuid with ⟨hnone, -, hsame⟩ | ⟨o, -, -, hsome, hchange⟩
  · rw [hsame, hnone, Option.toList_none, List.append_nil]
  · rw [hchange, hsome, Option.toList_some]

@[simp] theorem removeMaker_calls (s : CancelNode) (uuid : Uuid) :
    (s.removeMaker uuid).calls = s.calls := by
  rcases removeMaker_cases s uuid with ⟨-, -, hsame⟩ | ⟨o, -, -, -, hchange⟩
  · rw [hsame]
  · rw [hchange]

@[simp] theorem removeMaker_taker (s : CancelNode) (uuid : Uuid) :
    (s.removeMaker uuid).node.taker = s.node.taker := by
  rcases removeMaker_cases s uuid with ⟨-, -, hsame⟩ | ⟨o, -, -, -, hchange⟩
  · rw [hsame]
  · rw [hchange]

theorem lookup_removeMaker (hne : uuid' ≠ uuid) :
    (s.removeMaker uuid).node.makerOrders.lookup uuid' = s.node.makerOrders.lookup uuid' := by
  rcases removeMaker_cases s uuid with ⟨-, -, hsame⟩ | ⟨o, -, -, -, hchange⟩
  · rw [hsame]
  · rw [hchange]
    exact Finmap.lookup_insert_of_ne _ hne

@[simp] theorem mem_removeMaker : uuid' ∈ (s.removeMaker uuid).node.makerOrders ↔
    uuid' ∈ s.node.makerOrders := by
  rcases removeMaker_cases s uuid with ⟨-, -, hsame⟩ | ⟨o, ho, -, -, hchange⟩
  · rw [hsame]
  · rw [hchange, Finmap.mem_insert]
    constructor
    · rintro (rfl | hmem)
      · exact Finmap.mem_of_lookup_eq_some ho
      · exact hmem
    · exact .inr

theorem isListed_removeMaker : (s.removeMaker uuid).node.IsListed uuid' ↔
    uuid' ≠ uuid ∧ s.node.IsListed uuid' := by
  rcases eq_or_ne uuid' uuid with rfl | hne
  · refine ⟨?_, fun h => absurd rfl h.1⟩
    rcases removeMaker_cases s uuid' with ⟨-, hnot, hsame⟩ | ⟨o, -, -, -, hchange⟩
    · rw [hsame]
      exact fun h => absurd h hnot
    · rw [hchange]
      rintro ⟨o', ho', hlisted⟩
      rw [Finmap.lookup_insert] at ho'
      rw [← Option.some.inj ho'] at hlisted
      simp at hlisted
  · simp [OrderNode.IsListed, lookup_removeMaker hne, hne]

theorem removeMaker_inv (h : s.node.Recorded) (hs : s.node.StartsOnce) (uuid : Uuid) :
    (s.removeMaker uuid).node.Recorded ∧ (s.removeMaker uuid).node.StartsOnce := by
  rcases removeMaker_cases s uuid with ⟨-, -, hsame⟩ | ⟨o, ho, -, -, hchange⟩
  · rw [hsame]
    exact ⟨h, hs⟩
  · rw [hchange]
    exact ⟨h.keepsMatches ho (.of_eq rfl), hs.setMaker ho fun _ m hm hsome => ⟨m, hm, hsome⟩⟩

/-- What removing the orders of a list does, all different. -/
structure RemovesAll (s s' : CancelNode) (uuids : List Uuid) : Prop where
  record : s'.record = { s.record with
    removed := s.record.removed ++ uuids.filterMap s.removal }
  calls : s'.calls = s.calls
  taker : s'.node.taker = s.node.taker
  mem : ∀ uuid, uuid ∈ s'.node.makerOrders ↔ uuid ∈ s.node.makerOrders
  isListed : ∀ uuid, s'.node.IsListed uuid ↔ uuid ∉ uuids ∧ s.node.IsListed uuid

theorem removesAll_foldl {uuids : List Uuid} (hnodup : uuids.Nodup) :
    RemovesAll s (uuids.foldl removeMaker s) uuids := by
  induction uuids generalizing s with
  | nil => constructor <;> simp
  | cons uuid uuids ih =>
    obtain ⟨hnew, hnodup⟩ := List.nodup_cons.mp hnodup
    have hrest := ih (s := s.removeMaker uuid) hnodup
    have hremoval : uuids.filterMap (s.removeMaker uuid).removal = uuids.filterMap s.removal := by
      refine List.filterMap_congr fun uuid' hmem => ?_
      have hne : uuid' ≠ uuid := fun heq => hnew (heq ▸ hmem)
      rw [removal, lookup_removeMaker hne, removal]
    exact
      { record := by
          rw [List.foldl_cons, hrest.record, removeMaker_record, hremoval, List.append_assoc]
          cases hcase : s.removal uuid <;> simp [hcase]
        calls := by rw [List.foldl_cons, hrest.calls, removeMaker_calls]
        taker := by rw [List.foldl_cons, hrest.taker, removeMaker_taker]
        mem := fun uuid' => by rw [List.foldl_cons, hrest.mem, mem_removeMaker]
        isListed := fun uuid' => by
          rw [List.foldl_cons, hrest.isListed, isListed_removeMaker, List.mem_cons, not_or]
          tauto }

theorem foldl_removeMaker_inv (h : s.node.Recorded) (hs : s.node.StartsOnce) (uuids : List Uuid) :
    (uuids.foldl removeMaker s).node.Recorded ∧ (uuids.foldl removeMaker s).node.StartsOnce :=
  List.foldlRecOn uuids removeMaker
    (motive := fun s => s.node.Recorded ∧ s.node.StartsOnce) ⟨h, hs⟩
    fun _ hs uuid _ => removeMaker_inv hs.1 hs.2 uuid

end CancelNode

/-! ## Calls in progress -/

/-- What a call has noted are different orders that the node knows. -/
structure CancelOrdersBy.Sound (call : CancelOrdersBy) (s : OrderNode) : Prop where
  nodup : (call.toVisit ++ (call.cancelled ++ call.currentlyMatching)).Nodup
  known : ∀ uuid ∈ call.toVisit ++ (call.cancelled ++ call.currentlyMatching),
    uuid ∈ s.makerOrders

theorem CancelOrdersBy.Sound.mono {call : CancelOrdersBy} {s s' : OrderNode} (h : call.Sound s)
    (hsub : ∀ uuid ∈ s.makerOrders, uuid ∈ s'.makerOrders) : call.Sound s' where
  nodup := h.nodup
  known uuid hmem := hsub uuid (h.known uuid hmem)

namespace CancelNode

variable {ourPublicId : H256} {s : CancelNode} {uuid uuid' : Uuid}

structure Inv (s : CancelNode) : Prop where
  recorded : s.node.Recorded
  starts : s.node.StartsOnce
  gone : ∀ o ∈ s.record.removed, s.node.Gone o.uuid
  calls : ∀ call ∈ s.calls, call.Sound s.node
  atomic : s.record.Atomic

/-- The maker order is listed and free. -/
def IsFree (s : CancelNode) (uuid : Uuid) : Prop :=
  ∃ o, s.node.makerOrders.lookup uuid = some o ∧ o.listed = true ∧
    o.order.hasOngoingMatches = false

instance (s : CancelNode) (uuid : Uuid) : Decidable (s.IsFree uuid) :=
  decidable_of_iff ((s.node.makerOrders.lookup uuid).any fun o =>
    o.listed && !o.order.hasOngoingMatches) <| by
    simp [IsFree, Option.any_eq_true]

/-- A call that removes orders finds them as they were when it looked at them; `cancel_order` is not
called for a taker order that is matched. -/
def RemovesFree (s : CancelNode) : CancelEvent → Prop
  | .makerLocked index => ∀ uuid ∈ s.lockingMaker[index]?,
      ∀ o ∈ s.node.makerOrders.lookup uuid, o.listed = true ∨ o.order.hasOngoingMatches = true
  | .takerLocked index => ∀ uuid ∈ s.lockingTaker[index]?,
      ∀ order ∈ s.node.taker.myTakerOrders.lookup uuid, order.isCancellable = true
  | .finished index _ => ∀ call ∈ s.calls[index]?, call.toVisit = [] →
      ∀ uuid ∈ call.cancelled, s.IsFree uuid
  | _ => True

instance (s : CancelNode) : ∀ e, Decidable (s.RemovesFree e)
  -- not by running through all uuids
  | .makerLocked index => Option.decidableForallMem (o := s.lockingMaker[index]?)
      (p := fun uuid => ∀ o ∈ s.node.makerOrders.lookup uuid,
        o.listed = true ∨ o.order.hasOngoingMatches = true)
  | .takerLocked index => Option.decidableForallMem (o := s.lockingTaker[index]?)
      (p := fun uuid => ∀ order ∈ s.node.taker.myTakerOrders.lookup uuid,
        order.isCancellable = true)
  | .finished index _ =>
    have (call : CancelOrdersBy) : Decidable (∀ uuid ∈ call.cancelled, s.IsFree uuid) :=
      List.decidableBAll _ call.cancelled
    Option.decidableForallMem (o := s.calls[index]?)
      (p := fun call : CancelOrdersBy => call.toVisit = [] →
        ∀ uuid ∈ call.cancelled, s.IsFree uuid)
  | .node _ => isTrue trivial
  | .cancelOrder _ => isTrue trivial
  | .cancelOrdersBy _ _ => isTrue trivial
  | .visited _ => isTrue trivial

/-- An order that is removed now has not been removed before. -/
theorem Inv.uuid_ne (h : s.Inv) {o : RemovedOrder} (ho : o ∈ s.record.removed)
    (hthere : s.node.IsListed uuid ∨ uuid ∈ s.node.taker.myTakerOrders) : o.uuid ≠ uuid := by
  rintro rfl
  rcases hthere with hlisted | htaker
  · exact (h.gone o ho).unlisted hlisted
  · exact (h.gone o ho).taker htaker

/-- Calls and answers change, the orders and the removals do not. -/
theorem Inv.answered (h : s.Inv) {s' : CancelNode} (hnode : s'.node = s.node)
    (hremoved : s'.record.removed = s.record.removed)
    (hcalls : ∀ call ∈ s'.calls, call.Sound s.node) (hatomic : s'.record.Atomic) : s'.Inv where
  recorded := hnode ▸ h.recorded
  starts := hnode ▸ h.starts
  gone := by
    rw [hnode, hremoved]
    exact h.gone
  calls := hnode ▸ hcalls
  atomic := hatomic

/-! ### `cancel_order` -/

/-- An order that is unlisted now is gone. -/
theorem gone_removeMaker (h : s.Inv) {o : OwnOrder} (ho : s.node.makerOrders.lookup uuid = some o) :
    (s.removeMaker uuid).node.Gone uuid where
  unlisted hlisted := (isListed_removeMaker.mp hlisted).1 rfl
  taker hmem := by
    rw [removeMaker_taker] at hmem
    exact h.recorded.disjoint uuid hmem (Finmap.mem_of_lookup_eq_some ho)
  used hunused := hunused.1 (mem_removeMaker.mpr (Finmap.mem_of_lookup_eq_some ho))

theorem Gone.of_removes {s' : CancelNode} {uuids : List Uuid} (h : s.node.Gone uuid)
    (hr : RemovesAll s s' uuids) : s'.node.Gone uuid where
  unlisted hlisted := h.unlisted ((hr.isListed uuid).mp hlisted).2
  taker := hr.taker ▸ h.taker
  used hunused := h.used ⟨fun hmem => hunused.1 ((hr.mem uuid).mpr hmem), hr.taker ▸ hunused.2⟩

theorem Inv.makerLocked (h : s.Inv)
    (hfree : ∀ o ∈ s.node.makerOrders.lookup uuid,
      o.listed = true ∨ o.order.hasOngoingMatches = true) : (s.makerLocked uuid).Inv := by
  rw [CancelNode.makerLocked]
  split
  · exact h
  rename_i o ho
  split
  · refine h.answered rfl rfl h.calls (h.atomic.answered rfl rfl rfl (fun m hm => ?_) rfl)
    rcases List.mem_append.mp hm with hm | hm
    · exact h.atomic.matching m hm
    · rw [List.mem_singleton.mp hm]
  rename_i hongoing
  have hlisted := (hfree o ho).resolve_right hongoing
  have hthere : s.node.IsListed uuid := ⟨o, ho, hlisted⟩
  have hremoval : s.removal uuid = some (.maker uuid o.order) :=
    removal_eq_some.mpr ⟨o, ho, hlisted, rfl⟩
  have hrecord := removeMaker_record s uuid
  rw [hremoval, Option.toList_some] at hrecord
  obtain ⟨hrec, hstarts⟩ := removeMaker_inv h.recorded h.starts uuid
  have hall : RemovesAll s (s.removeMaker uuid) [uuid] :=
    removesAll_foldl (List.nodup_singleton uuid)
  simp only [hlisted, if_true]
  exact
    { recorded := hrec
      starts := hstarts
      gone := by
        intro removed hremoved
        rw [hrecord] at hremoved
        rcases List.mem_append.mp hremoved with hold | hnew
        · have hgone : (s.removeMaker uuid).node.Gone removed.uuid :=
            Gone.of_removes (h.gone removed hold) hall
          exact hgone
        · rw [List.mem_singleton.mp hnew]
          exact gone_removeMaker h ho
      calls := by
        intro call hcall
        rw [removeMaker_calls] at hcall
        exact (h.calls call hcall).mono fun _ => mem_removeMaker.mpr
      atomic := by
        refine h.atomic.append [.maker uuid o.order] [uuid] [uuid]
          ?_ ?_ ?_ ?_ (List.nodup_singleton _) ?_ (.refl _) (.refl _) ?_ ?_
        · rw [hrecord]
        · rw [hrecord]
        · rw [hrecord]
        · intro removed hmem
          rw [List.mem_singleton.mp hmem]
          simpa [RemovedOrder.isCancellable] using hongoing
        · intro removed hmem old hold
          rw [List.mem_singleton.mp hmem]
          exact h.uuid_ne hold (.inl hthere)
        · rw [hrecord]
          exact h.atomic.matching
        · rw [hrecord]
          exact h.atomic.left }

/-- An order removed by someone else is reported all the same. -/
theorem not_atomic_makerLocked (h : s.Inv) {o : OwnOrder}
    (ho : s.node.makerOrders.lookup uuid = some o)
    (hfails : ¬ (o.listed = true ∨ o.order.hasOngoingMatches = true)) :
    ¬ (s.makerLocked uuid).record.Atomic := by
  rw [not_or, Bool.not_eq_true, Bool.not_eq_true] at hfails
  obtain ⟨hlisted, hongoing⟩ := hfails
  have hremoval : s.removal uuid = none := by simp [removal, ho, hlisted]
  have hrecord := removeMaker_record s uuid
  rw [hremoval, Option.toList_none, List.append_nil] at hrecord
  intro hatomic
  simp only [CancelNode.makerLocked, ho, hongoing, hlisted, if_false, Bool.false_eq_true,
    hrecord] at hatomic
  have hlength := hatomic.reported.length_eq
  rw [List.length_append, List.length_singleton, ← h.atomic.reported.length_eq] at hlength
  omega

theorem Inv.takerLocked (h : s.Inv)
    (hfree : ∀ order ∈ s.node.taker.myTakerOrders.lookup uuid, order.isCancellable = true) :
    (s.takerLocked uuid).Inv := by
  rw [CancelNode.takerLocked]
  split
  · exact h
  rename_i order horder
  have hmem := Finmap.mem_of_lookup_eq_some horder
  rw [if_pos (hfree order horder)]
  have hremoved := h.recorded.taker.removed uuid
  exact
    { recorded :=
        { taker := hremoved
          disjoint := fun uuid' hmem' => h.recorded.disjoint uuid' (Finmap.mem_erase.mp hmem').2
          reserved := h.recorded.reserved }
      starts :=
        { alice := h.starts.alice.removed uuid
          connected := h.starts.connected
          once := h.starts.once
          sender := h.starts.sender }
      gone := by
        intro removed hin
        rcases List.mem_append.mp hin with hold | hnew
        · have hgone := h.gone removed hold
          exact
            { unlisted := hgone.unlisted
              taker := fun hmem' => hgone.taker (Finmap.mem_erase.mp hmem').2
              used := hgone.used }
        · rw [List.mem_singleton.mp hnew]
          exact
            { unlisted := fun hlisted => h.recorded.disjoint uuid hmem hlisted.mem
              taker := fun hmem' => (Finmap.mem_erase.mp hmem').1 rfl
              used := fun hunused => hunused.2 (h.recorded.taker.keyed uuid order horder).2 }
      calls := fun call hcall => (h.calls call hcall).mono fun _ hknown => hknown
      atomic := by
        refine h.atomic.append [.taker uuid order] [uuid] [] rfl rfl (List.append_nil _).symm ?_ (List.nodup_singleton _) ?_ (.refl _) (.refl _)
          h.atomic.matching h.atomic.left
        · intro removed hin
          rw [List.mem_singleton.mp hin]
          exact hfree order horder
        · intro removed hin old hold
          rw [List.mem_singleton.mp hin]
          exact h.uuid_ne hold (.inr hmem) }

/-- A matched taker order is reported as not found. -/
theorem not_atomic_takerLocked {order : TakerOrder}
    (horder : s.node.taker.myTakerOrders.lookup uuid = some order)
    (hfails : ¬ order.isCancellable = true) : ¬ (s.takerLocked uuid).record.Atomic := by
  intro hatomic
  simp only [CancelNode.takerLocked, horder, if_neg hfails] at hatomic
  have hreport := hatomic.matching (uuid, .uuidNotFound)
    (List.mem_append_right _ (List.mem_singleton.mpr rfl))
  simp at hreport

/-! ### `cancel_orders_by` -/

theorem Inv.cancelOrdersBy (h : s.Inv) (cancelBy : CancelBy) (it : Iteration Uuid OwnOrder) :
    (s.step ourPublicId (.cancelOrdersBy cancelBy it)).Inv := by
  refine h.answered rfl rfl (fun call hcall => ?_) h.atomic
  rcases List.mem_append.mp hcall with hold | hnew
  · exact h.calls call hold
  obtain rfl := List.mem_singleton.mp hnew
  refine { nodup := ?_, known := fun uuid hmem => ?_ }
  · rw [List.append_nil, List.append_nil]
    exact (it.nodup_toList _).sublist (List.filter_sublist.map _)
  · rw [List.append_nil, List.append_nil] at hmem
    obtain ⟨⟨k, o⟩, hentry, rfl⟩ := List.mem_map.mp hmem
    exact Finmap.mem_of_lookup_eq_some ((it.mem_toList _ k o).mp (List.mem_filter.mp hentry).1)

theorem Inv.visited (h : s.Inv) {index : ℕ} {call : CancelOrdersBy}
    (hcall : s.calls[index]? = some call) : (s.visited index call).Inv := by
  have hsound := h.calls call (List.mem_of_getElem? hcall)
  have hset {call' : CancelOrdersBy} (hcall' : call'.Sound s.node) :
      ∀ c ∈ s.calls.set index call', c.Sound s.node := by
    intro c hc
    rcases List.mem_or_eq_of_mem_set hc with hold | rfl
    · exact h.calls c hold
    · exact hcall'
  rw [CancelNode.visited]
  split
  · exact h
  rename_i uuid toVisit hvisit
  have hnodup := hsound.nodup
  have hknown := hsound.known
  rw [hvisit, List.cons_append] at hnodup hknown
  split
  · exact h
  have hmoved : (uuid :: (toVisit ++ (call.cancelled ++ call.currentlyMatching))).Perm
      (toVisit ++ (call.cancelled ++ [uuid] ++ call.currentlyMatching)) := by
    rw [List.append_assoc call.cancelled, List.singleton_append, ← List.append_assoc,
      ← List.append_assoc]
    exact List.perm_middle.symm
  have hmatched : (uuid :: (toVisit ++ (call.cancelled ++ call.currentlyMatching))).Perm
      (toVisit ++ (call.cancelled ++ (call.currentlyMatching ++ [uuid]))) := by
    rw [← List.append_assoc call.cancelled, ← List.append_assoc toVisit _ [uuid]]
    exact (List.perm_append_singleton _ _).symm
  split
  · split
    · refine h.answered rfl rfl (hset ?_) (h.atomic.answered rfl rfl rfl (fun m hm => ?_) rfl)
      · exact
          { nodup := hmatched.nodup_iff.mp hnodup
            known := fun uuid' hmem => hknown uuid' (hmatched.mem_iff.mpr hmem) }
      · rcases List.mem_append.mp hm with hm | hm
        · exact h.atomic.matching m hm
        · rw [List.mem_singleton.mp hm]
    · refine h.answered rfl rfl (hset ?_) h.atomic
      exact
        { nodup := hmoved.nodup_iff.mp hnodup
          known := fun uuid' hmem => hknown uuid' (hmoved.mem_iff.mpr hmem) }
  · refine h.answered rfl rfl (hset ?_) h.atomic
    exact
      { nodup := (List.nodup_cons.mp hnodup).2
        known := fun uuid' hmem => hknown uuid' (List.mem_cons_of_mem _ hmem) }

section Finished

variable {call : CancelOrdersBy} {it : Iteration Uuid TakerOrder}

theorem mem_coveredTakers {cancelBy : CancelBy} {cancellable : Bool} {k : Uuid} {t : TakerOrder} :
    (k, t) ∈ s.coveredTakers cancelBy it cancellable ↔
      s.node.taker.myTakerOrders.lookup k = some t ∧
        cancelBy.covers t.request.base t.request.rel = true ∧ t.isCancellable = cancellable := by
  simp [coveredTakers, it.mem_toList]

theorem nodup_coveredTakers (cancelBy : CancelBy) (cancellable : Bool) :
    ((s.coveredTakers cancelBy it cancellable).map Prod.fst).Nodup :=
  (it.nodup_toList _).sublist (List.filter_sublist.map _)

theorem coveredTakers_mem {cancelBy : CancelBy} {cancellable : Bool}
    (h : uuid ∈ (s.coveredTakers cancelBy it cancellable).map Prod.fst) :
    uuid ∈ s.node.taker.myTakerOrders := by
  obtain ⟨⟨k, t⟩, hmem, rfl⟩ := List.mem_map.mp h
  exact Finmap.mem_of_lookup_eq_some (mem_coveredTakers.mp hmem).1

/-- The orders removed at the end of a call. -/
def removedBy (s : CancelNode) (call : CancelOrdersBy) (it : Iteration Uuid TakerOrder) :
    List RemovedOrder :=
  call.cancelled.filterMap s.removal ++
    (s.coveredTakers call.cancelBy it true).map fun e => .taker e.1 e.2

theorem map_uuid_removedBy : (s.removedBy call it).map RemovedOrder.uuid =
    (call.cancelled.filterMap s.removal).map RemovedOrder.uuid ++
      (s.coveredTakers call.cancelBy it true).map Prod.fst := by
  rw [removedBy, List.map_append, List.map_map]
  rfl

/-- Every order of the call is removed exactly when all of them are listed. -/
theorem map_uuid_removal (uuids : List Uuid) (hlisted : ∀ uuid ∈ uuids, s.node.IsListed uuid) :
    (uuids.filterMap s.removal).map RemovedOrder.uuid = uuids := by
  induction uuids with
  | nil => rfl
  | cons uuid uuids ih =>
    rw [List.forall_mem_cons] at hlisted
    obtain ⟨o, ho, hlisted'⟩ := hlisted.1
    have hremoval : s.removal uuid = some (.maker uuid o.order) :=
      removal_eq_some.mpr ⟨o, ho, hlisted', rfl⟩
    rw [List.filterMap_cons_some hremoval, List.map_cons, ih hlisted.2]
    rfl

theorem isMaker_of_removal {o : RemovedOrder} {uuids : List Uuid}
    (h : o ∈ uuids.filterMap s.removal) : o.isMaker = true := by
  obtain ⟨uuid, -, hremoval⟩ := List.mem_filterMap.mp h
  obtain ⟨own, -, -, rfl⟩ := removal_eq_some.mp hremoval
  rfl

theorem filter_isMaker_removedBy : (s.removedBy call it).filter RemovedOrder.isMaker =
    call.cancelled.filterMap s.removal := by
  rw [removedBy, List.filter_append, List.filter_eq_self.mpr fun o ho => isMaker_of_removal ho,
    List.filter_eq_nil_iff.mpr, List.append_nil]
  intro o ho
  obtain ⟨e, -, rfl⟩ := List.mem_map.mp ho
  simp [RemovedOrder.isMaker]

theorem finished_record (it : Iteration Uuid TakerOrder) (hsound : call.Sound s.node)
    (hvisited : call.toVisit = []) :
    (s.finished call it).record.removed = s.record.removed ++ s.removedBy call it ∧
      (s.finished call it).record.reported = s.record.reported ++
        (call.cancelled ++ (s.coveredTakers call.cancelBy it true).map Prod.fst) ∧
      (s.finished call it).record.broadcast = s.record.broadcast ++ call.cancelled ∧
      (s.finished call it).record.matching = s.record.matching ++
        ((s.coveredTakers call.cancelBy it false).map Prod.fst).map
          fun uuid => (uuid, .currentlyMatching) := by
  have hnodup := hsound.nodup
  rw [hvisited, List.nil_append] at hnodup
  have hall : RemovesAll s (call.cancelled.foldl removeMaker s) call.cancelled :=
    removesAll_foldl (List.nodup_append.mp hnodup).1
  rw [CancelNode.finished]
  simp only [hall.record, List.append_assoc, removedBy]
  exact ⟨trivial, trivial, trivial, trivial⟩

theorem IsFree.isListed (h : s.IsFree uuid) : s.node.IsListed uuid := by
  obtain ⟨o, ho, hlisted, -⟩ := h
  exact ⟨o, ho, hlisted⟩

/-- The answers stay disjoint: the maker orders of the call are no taker orders. -/
theorem Inv.finished_left (h : s.Inv) (hsound : call.Sound s.node) :
    ∀ uuid ∈ call.currentlyMatching ++ (s.coveredTakers call.cancelBy it false).map Prod.fst,
      uuid ∉ call.cancelled ++ (s.coveredTakers call.cancelBy it true).map Prod.fst := by
  have hknown {uuid : Uuid} (hmem : uuid ∈ call.cancelled ++ call.currentlyMatching) :
      uuid ∈ s.node.makerOrders := hsound.known uuid (List.mem_append_right _ hmem)
  intro uuid hmatching hcancelled
  rcases List.mem_append.mp hmatching with hmaker | htaker
  · rcases List.mem_append.mp hcancelled with hmaker' | htaker'
    · have hnodup := (List.nodup_append.mp hsound.nodup).2.1
      exact (List.nodup_append.mp hnodup).2.2 uuid hmaker' uuid hmaker rfl
    · exact h.recorded.disjoint uuid (coveredTakers_mem htaker')
        (hknown (List.mem_append_right _ hmaker))
  · rcases List.mem_append.mp hcancelled with hmaker' | htaker'
    · exact h.recorded.disjoint uuid (coveredTakers_mem htaker)
        (hknown (List.mem_append_left _ hmaker'))
    · obtain ⟨⟨k, t⟩, ht, rfl⟩ := List.mem_map.mp htaker
      obtain ⟨⟨k', t'⟩, ht', heq⟩ := List.mem_map.mp htaker'
      obtain ⟨hlookup, -, hmatched⟩ := mem_coveredTakers.mp ht
      obtain ⟨hlookup', -, hfree⟩ := mem_coveredTakers.mp ht'
      obtain rfl : k' = k := heq
      obtain rfl := Option.some.inj (hlookup.symm.trans hlookup')
      simp [hmatched] at hfree

theorem Inv.finished (h : s.Inv) (hsound : call.Sound s.node) (hvisited : call.toVisit = [])
    (hfree : ∀ uuid ∈ call.cancelled, s.IsFree uuid) : (s.finished call it).Inv := by
  have hnodup := hsound.nodup
  rw [hvisited, List.nil_append] at hnodup
  have hcancelled := (List.nodup_append.mp hnodup).1
  have hall : RemovesAll s (call.cancelled.foldl removeMaker s) call.cancelled :=
    removesAll_foldl hcancelled
  obtain ⟨hrec, hstarts⟩ := foldl_removeMaker_inv h.recorded h.starts call.cancelled
  obtain ⟨hremoved, hreported, hbroadcast, hmatching⟩ := finished_record it hsound hvisited
  have huuids := map_uuid_removal call.cancelled fun uuid hmem => (hfree uuid hmem).isListed
  have hsub : ∀ uuid t, (retain (fun _ (order : TakerOrder) =>
      !(call.cancelBy.covers order.request.base order.request.rel && order.isCancellable))
      (call.cancelled.foldl removeMaker s).node.taker.myTakerOrders).lookup uuid = some t →
        (call.cancelled.foldl removeMaker s).node.taker.myTakerOrders.lookup uuid = some t := by
    intro uuid t ht
    rw [lookup_retain, Option.filter_eq_some_iff] at ht
    exact ht.1
  have hmaker {uuid : Uuid} (hmem : uuid ∈ call.cancelled) : uuid ∈ s.node.makerOrders :=
    (hfree uuid hmem).isListed.mem
  exact
    { recorded :=
        { taker := hrec.taker.subset hsub
          disjoint := by
            intro uuid hmem
            obtain ⟨t, ht⟩ := Finmap.mem_iff.mp hmem
            exact hrec.disjoint uuid (Finmap.mem_of_lookup_eq_some (hsub uuid t ht))
          reserved := hrec.reserved }
      starts :=
        { alice := hstarts.alice.subset hsub
          connected := hstarts.connected
          once := hstarts.once
          sender := hstarts.sender }
      gone := by
        intro o ho
        rw [hremoved] at ho
        have hgone : (call.cancelled.foldl removeMaker s).node.Gone o.uuid ∨
            ∃ t, s.node.taker.myTakerOrders.lookup o.uuid = some t ∧
              call.cancelBy.covers t.request.base t.request.rel = true ∧
              t.isCancellable = true := by
          rcases List.mem_append.mp ho with hold | hnew
          · exact .inl (Gone.of_removes (h.gone o hold) hall)
          rcases List.mem_append.mp hnew with hnew | hnew
          · obtain ⟨uuid, hmem, hremoval⟩ := List.mem_filterMap.mp hnew
            obtain ⟨own, -, -, rfl⟩ := removal_eq_some.mp hremoval
            exact .inl
              { unlisted := fun hlisted => ((hall.isListed uuid).mp hlisted).1 hmem
                taker := fun htaker => h.recorded.disjoint uuid (hall.taker ▸ htaker) (hmaker hmem)
                used := fun hunused => hunused.1 ((hall.mem uuid).mpr (hmaker hmem)) }
          · obtain ⟨⟨k, t⟩, hmem, rfl⟩ := List.mem_map.mp hnew
            exact .inr ⟨t, mem_coveredTakers.mp hmem⟩
        rcases hgone with hgone | ⟨t, ht, hcovered, hcancellable⟩
        · exact
            { unlisted := hgone.unlisted
              taker := by
                intro hmem
                obtain ⟨t, ht⟩ := Finmap.mem_iff.mp hmem
                exact hgone.taker (Finmap.mem_of_lookup_eq_some (hsub _ t ht))
              used := hgone.used }
        · have hdrawn := (h.recorded.taker.keyed _ t ht).2
          exact
            { unlisted := fun hlisted => h.recorded.disjoint _
                (Finmap.mem_of_lookup_eq_some ht) ((hall.isListed _).mp hlisted).2.mem
              taker := by
                intro hmem
                obtain ⟨t', ht'⟩ := Finmap.mem_iff.mp hmem
                have hlookup := hsub _ t' ht'
                rw [hall.taker, ht, Option.some.injEq] at hlookup
                rw [← hlookup] at ht'
                replace ht' := (Option.filter_eq_some_iff.mp ((lookup_retain _ _ _).symm.trans ht')).2
                simp [hcovered, hcancellable] at ht'
              used := fun hunused => hunused.2 <| by
                change o.uuid ∈ (call.cancelled.foldl removeMaker s).node.taker.uuids
                rw [hall.taker]
                exact hdrawn }
      calls := by
        intro call' hcall'
        exact (h.calls call' (hall.calls ▸ hcall')).mono fun uuid hmem => (hall.mem uuid).mpr hmem
      atomic := by
        refine h.atomic.append (s.removedBy call it) _ call.cancelled hremoved hreported hbroadcast
          ?_ ?_ ?_ ?_ ?_ ?_ ?_
        · intro o ho
          rcases List.mem_append.mp ho with ho | ho
          · obtain ⟨uuid, hmem, hremoval⟩ := List.mem_filterMap.mp ho
            obtain ⟨own, hown, -, rfl⟩ := removal_eq_some.mp hremoval
            obtain ⟨own', hown', -, hsettled⟩ := hfree uuid hmem
            obtain rfl := Option.some.inj (hown.symm.trans hown')
            simp [RemovedOrder.isCancellable, hsettled]
          · obtain ⟨⟨k, t⟩, hmem, rfl⟩ := List.mem_map.mp ho
            exact (mem_coveredTakers.mp hmem).2.2
        · rw [map_uuid_removedBy, huuids]
          refine List.nodup_append.mpr ⟨hcancelled, nodup_coveredTakers _ _, ?_⟩
          rintro uuid hmem _ htaker rfl
          exact h.recorded.disjoint uuid (coveredTakers_mem htaker) (hmaker hmem)
        · intro o ho old hold
          refine h.uuid_ne hold ?_
          have huuid : o.uuid ∈ (s.removedBy call it).map RemovedOrder.uuid :=
            List.mem_map_of_mem ho
          rw [map_uuid_removedBy, huuids] at huuid
          rcases List.mem_append.mp huuid with hmem | hmem
          · exact .inl (hfree _ hmem).isListed
          · exact .inr (coveredTakers_mem hmem)
        · rw [map_uuid_removedBy, huuids]
        · rw [filter_isMaker_removedBy, huuids]
        · intro m hm
          rw [hmatching] at hm
          rcases List.mem_append.mp hm with hm | hm
          · exact h.atomic.matching m hm
          · obtain ⟨uuid, -, rfl⟩ := List.mem_map.mp hm
            rfl
        · have hanswers : (s.finished call it).record.answers = s.record.answers ++
              [(call.cancelled ++ (s.coveredTakers call.cancelBy it true).map Prod.fst,
                call.currentlyMatching ++
                  (s.coveredTakers call.cancelBy it false).map Prod.fst)] := by
            simp only [CancelNode.finished, hall.record]
          intro a ha
          rw [hanswers] at ha
          rcases List.mem_append.mp ha with ha | ha
          · exact h.atomic.left a ha
          · rw [List.mem_singleton.mp ha]
            exact h.finished_left hsound }

/-- An order of the call that was removed by someone else is reported all the same, and one that was
matched since is removed with its match. -/
theorem isFree_of_atomic_finished (it : Iteration Uuid TakerOrder) (h : s.Inv)
    (hsound : call.Sound s.node) (hvisited : call.toVisit = [])
    (hatomic : (s.finished call it).record.Atomic) :
    ∀ uuid ∈ call.cancelled, s.IsFree uuid := by
  obtain ⟨hremoved, hreported, -, -⟩ := finished_record it hsound hvisited
  have hall : ∀ uuid ∈ call.cancelled, (s.removal uuid).isSome = true := by
    have hlength := hatomic.reported.length_eq
    rw [hremoved, hreported, List.map_append, map_uuid_removedBy] at hlength
    simp only [List.length_append, List.length_map] at hlength
    have hbefore := h.atomic.reported.length_eq
    rw [List.length_map] at hbefore
    rw [← List.filterMap_length_eq_length]
    omega
  intro uuid hmem
  obtain ⟨o, hremoval⟩ := Option.isSome_iff_exists.mp (hall uuid hmem)
  obtain ⟨own, hown, hlisted, rfl⟩ := removal_eq_some.mp hremoval
  refine ⟨own, hown, hlisted, ?_⟩
  have hin : RemovedOrder.maker uuid own.order ∈ (s.finished call it).record.removed := by
    rw [hremoved]
    exact List.mem_append_right _ (List.mem_append_left _
      (List.mem_filterMap.mpr ⟨uuid, hmem, hremoval⟩))
  simpa [RemovedOrder.isCancellable] using hatomic.cancellable _ hin

end Finished

/-! ### Runs -/

/-- Nothing has been cancelled. -/
structure Initial (s : CancelNode) : Prop where
  node : s.node.Initial
  calls : s.calls = []
  record : s.record = ⟨[], [], [], [], []⟩

theorem Initial.inv (h : s.Initial) : s.Inv where
  recorded := h.node.recorded
  starts :=
    { alice :=
        { gone := by simp [h.node.aliceStarts]
          once := by simp [h.node.aliceStarts]
          sender := by simp [h.node.aliceStarts] }
      connected := by simp [h.node.bobStarts]
      once := by simp [h.node.bobStarts]
      sender := by simp [h.node.bobStarts] }
  gone := by simp [h.record]
  calls := by simp [h.calls]
  atomic := by
    rw [h.record]
    constructor <;> simp

theorem Inv.step (h : s.Inv) {e : CancelEvent} (he : s.RemovesFree e) :
    (s.step ourPublicId e).Inv := by
  cases e with
  | node e =>
    obtain ⟨hrec, hstarts⟩ := OrderNode.step_inv h.recorded h.starts e
    exact
      { recorded := hrec
        starts := hstarts
        gone := fun o ho => (h.gone o ho).step h.recorded e
        calls := fun call hcall => (h.calls call hcall).mono fun _ hmem =>
          OrderNode.mem_makerOrders_step hmem e
        atomic := h.atomic }
  | cancelOrder uuid =>
    rw [CancelNode.step]
    split <;> exact h.answered rfl rfl h.calls h.atomic
  | makerLocked index =>
    rw [CancelNode.step]
    split
    · exact h
    · rename_i uuid hindex
      have hawake : { s with lockingMaker := s.lockingMaker.eraseIdx index }.Inv :=
        h.answered rfl rfl h.calls h.atomic
      exact hawake.makerLocked (he uuid hindex)
  | takerLocked index =>
    rw [CancelNode.step]
    split
    · exact h
    · rename_i uuid hindex
      have hawake : { s with lockingTaker := s.lockingTaker.eraseIdx index }.Inv :=
        h.answered rfl rfl h.calls h.atomic
      exact hawake.takerLocked (he uuid hindex)
  | cancelOrdersBy cancelBy it => exact h.cancelOrdersBy cancelBy it
  | visited index =>
    rw [CancelNode.step]
    split
    · exact h
    · rename_i call hcall
      exact h.visited hcall
  | finished index it =>
    rw [CancelNode.step]
    split
    · exact h
    rename_i call hcall
    split
    · rename_i hvisited
      have hleft : { s with calls := s.calls.eraseIdx index }.Inv :=
        h.answered rfl rfl (fun c hc => h.calls c (List.mem_of_mem_eraseIdx hc)) h.atomic
      exact hleft.finished (h.calls call (List.mem_of_getElem? hcall)) hvisited
        (he call hcall hvisited)
    · exact h

theorem atomic_step_iff (h : s.Inv) (e : CancelEvent) :
    (s.step ourPublicId e).record.Atomic ↔ s.RemovesFree e := by
  constructor
  · intro hatomic
    cases e with
    | makerLocked index =>
      intro uuid hindex o ho
      by_contra hfails
      rw [CancelNode.step, hindex] at hatomic
      have hawake : { s with lockingMaker := s.lockingMaker.eraseIdx index }.Inv :=
        h.answered rfl rfl h.calls h.atomic
      exact not_atomic_makerLocked hawake ho hfails hatomic
    | takerLocked index =>
      intro uuid hindex order horder
      by_contra hfails
      rw [CancelNode.step, hindex] at hatomic
      have hfailed := not_atomic_takerLocked
        (s := { s with lockingTaker := s.lockingTaker.eraseIdx index }) horder hfails
      exact hfailed hatomic
    | finished index it =>
      intro call hcall hvisited
      rw [CancelNode.step, hcall] at hatomic
      simp only [hvisited, if_true] at hatomic
      have hleft : { s with calls := s.calls.eraseIdx index }.Inv :=
        h.answered rfl rfl (fun c hc => h.calls c (List.mem_of_mem_eraseIdx hc)) h.atomic
      have hfree := isFree_of_atomic_finished it hleft
        (h.calls call (List.mem_of_getElem? hcall)) hvisited hatomic
      exact hfree
    | _ => trivial
  · exact fun he => (h.step he).atomic

/-- Cancellation is atomic in a run exactly when every call that removes orders finds them listed
and free. -/
theorem atomic_iff_removesFree (hinit : s.Initial) (es : List CancelEvent) :
    (∀ pre, pre <+: es → (pre.foldl (CancelNode.step ourPublicId) s).record.Atomic) ↔
      Meets (fun s e => some (s.step ourPublicId e)) RemovesFree s es := by
  rw [meets_iff_forall_append (P := fun s => s.record.Atomic) (I := Inv)
    (fun s e => ⟨_, rfl⟩)
    (fun s e s' hI _ hstep => Option.some.inj hstep ▸ atomic_step_iff hI e)
    (fun s e s' hI hG hstep => Option.some.inj hstep ▸ hI.step hG)
    hinit.inv hinit.inv.atomic]
  simp only [run_some, Option.some.injEq, forall_eq']

/-! ### A request during the cancellation of all orders -/

def idleNode : CancelNode where
  node := OrderNode.emptyNode
  lockingMaker := []
  lockingTaker := []
  calls := []
  record := ⟨[], [], [], [], []⟩

theorem initial_idleNode : idleNode.Initial := ⟨OrderNode.initial_emptyNode, rfl, rfl⟩

/-- One maker order is created and all orders are cancelled; other events come after the order has
been looked at. -/
def cancellingAll (between : List OrderNodeEvent) : List CancelEvent :=
  [.node (.newMakerOrder (testMakerBuilder OwnOrder.rick OwnOrder.morty) testBuildEnv),
    .cancelOrdersBy .all insertionIteration, .visited 0] ++
    between.map .node ++ [.finished 0 insertionIteration]

/-- A request for 4 RICK that the order is matched with. -/
def requestForFour : OrderNodeEvent :=
  .takerRequest 1 (some (OwnOrder.rick, OwnOrder.morty)) 0 2
    (((testTakerBuilder OwnOrder.rick OwnOrder.morty).assemble ⟨0, 8, ⟨2⟩⟩ 1).message
      testConfSettings)

theorem atomic_cancellingAll :
    ((cancellingAll []).foldl (step 9) idleNode).record.removed.length = 1 ∧
    ∀ pre, pre <+: cancellingAll [] → (pre.foldl (step 9) idleNode).record.Atomic :=
  ⟨by decide +kernel, (atomic_iff_removesFree initial_idleNode _).mpr (by decide +kernel)⟩

/-- The order is matched after the call has looked at it, and is removed with its match. -/
theorem not_atomic_matched :
    idleNode.Initial ∧
      ((cancellingAll [requestForFour]).foldl (step 9) idleNode).record.removed.map
        RemovedOrder.isCancellable = [false] ∧
      ¬ ((cancellingAll [requestForFour]).foldl (step 9) idleNode).record.Atomic := by
  have hremoved : ((cancellingAll [requestForFour]).foldl (step 9) idleNode).record.removed.map
      RemovedOrder.isCancellable = [false] := by decide +kernel
  refine ⟨initial_idleNode, hremoved, fun h => ?_⟩
  obtain ⟨o, ho, hfalse⟩ := List.mem_map.mp (hremoved ▸ List.mem_singleton.mpr rfl)
  exact absurd (h.cancellable o ho) (by simp [hfalse])

end CancelNode

end DeXFG.Ordermatch
