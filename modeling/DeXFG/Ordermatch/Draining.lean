import DeXFG.Ordermatch.OwnOrder
import DeXFG.Ordermatch.Reservations

/-!
# Draining the pending reservations

The handler that stored the first reservation of an entry is the only one that
takes it. It returns early when the order is gone or a coin is deactivated, and
leaves the entry behind: later reservations are appended to it and no handler
is left to look at them.
-/
namespace DeXFG.Ordermatch
open DeXFG.Library.FiniteMap DeXFG.Library.Runs

namespace TakerSide

variable {ourPublicId : H256} {s : TakerSide}

/-- The reservations of a list that are for the order. -/
def forOrder (uuid : Uuid) (messages : List MakerReserved) : List MakerReserved :=
  messages.filter fun r => r.takerOrderUuid = uuid

@[simp] theorem forOrder_append (uuid : Uuid) (l m : List MakerReserved) :
    forOrder uuid (l ++ m) = forOrder uuid l ++ forOrder uuid m := List.filter_append l m

/-- The entry of an order, empty when there is none. -/
def pendingOf (s : TakerSide) (uuid : Uuid) : List MakerReserved :=
  (s.pendingMakerReserved.lookup uuid).getD []

/-- Every entry has a handler that will take it, and every reservation received for an order that
still waits has been considered or is in the entry of the order. -/
structure NoStranded (s : TakerSide) : Prop where
  scheduled : ∀ uuid ∈ s.pendingMakerReserved, uuid ∈ s.sleeping
  considered : ∀ uuid ∈ s.myTakerOrders, (forOrder uuid s.record.received).Perm
    (forOrder uuid s.record.considered ++ s.pendingOf uuid)

/-- The handler that wakes up finds the order, both coins activated, and prices it can compare. -/
def DrainsEntry (s : TakerSide) : TakerEvent → Prop
  | .drained index env =>
    ∀ uuid, s.sleeping[index]? = some uuid →
      uuid ∈ s.myTakerOrders ∧ env.coins.isSome = true ∧ Sortable (s.pendingOf uuid)
  | _ => True

instance (s : TakerSide) : ∀ e, Decidable (s.DrainsEntry e)
  -- not by running through all uuids
  | .drained index env => Option.decidableForallMem (o := s.sleeping[index]?)
      (p := fun uuid =>
        uuid ∈ s.myTakerOrders ∧ env.coins.isSome = true ∧ Sortable (s.pendingOf uuid))
  | .newOrder _ _ => isTrue trivial
  | .removed _ => isTrue trivial
  | .makerReserved _ _ => isTrue trivial
  | .stored _ => isTrue trivial
  | .makerConnected _ _ => isTrue trivial

/-- No reservation has been received. -/
structure Fresh (s : TakerSide) : Prop where
  pending : s.pendingMakerReserved = ∅
  sleeping : s.sleeping = []
  received : s.record.received = []
  considered : s.record.considered = []

/-- Entries and handlers belong together, one to one, and nothing is lost. -/
structure Scheduled (s : TakerSide) : Prop where
  nodup : s.sleeping.Nodup
  iff : ∀ uuid, uuid ∈ s.pendingMakerReserved ↔ uuid ∈ s.sleeping
  ne_nil : ∀ uuid messages, s.pendingMakerReserved.lookup uuid = some messages → messages ≠ []
  keyed : ∀ uuid messages, s.pendingMakerReserved.lookup uuid = some messages →
    ∀ r ∈ messages, r.takerOrderUuid = uuid
  conserved : ∀ uuid, (forOrder uuid s.record.received).Perm
    (forOrder uuid s.record.considered ++ s.pendingOf uuid)

theorem Scheduled.noStranded (h : s.Scheduled) : s.NoStranded where
  scheduled uuid hmem := (h.iff uuid).mp hmem
  considered uuid _ := h.conserved uuid

theorem Fresh.scheduled (h : s.Fresh) : s.Scheduled where
  nodup := by simp [h.sleeping]
  iff uuid := by simp [h.sleeping, h.pending, Finmap.notMem_empty]
  ne_nil uuid messages hlookup := by simp [h.pending] at hlookup
  keyed uuid messages hlookup := by simp [h.pending] at hlookup
  conserved uuid := by simp [h.received, h.considered, h.pending, pendingOf, forOrder]

/-- The invariant does not mention the orders and the handlers that have not stored yet. -/
theorem Scheduled.congr {s' : TakerSide} (h : s.Scheduled)
    (hpending : s'.pendingMakerReserved = s.pendingMakerReserved)
    (hsleeping : s'.sleeping = s.sleeping)
    (hreceived : s'.record.received = s.record.received)
    (hconsidered : s'.record.considered = s.record.considered) : s'.Scheduled where
  nodup := hsleeping ▸ h.nodup
  iff uuid := by rw [hpending, hsleeping, h.iff]
  ne_nil uuid messages hlookup := h.ne_nil uuid messages (hpending ▸ hlookup)
  keyed uuid messages hlookup := h.keyed uuid messages (hpending ▸ hlookup)
  conserved uuid := by
    rw [hreceived, hconsidered, pendingOf, hpending]
    exact h.conserved uuid

/-! ## Storing -/

theorem pendingOf_storeReserved (s : TakerSide) (r : MakerReserved) (uuid : Uuid) :
    (s.storeReserved r).pendingOf uuid =
      s.pendingOf uuid ++ if r.takerOrderUuid = uuid then [r] else [] := by
  rw [pendingOf, storeReserved]
  rcases eq_or_ne uuid r.takerOrderUuid with rfl | hne
  · rw [Finmap.lookup_insert, if_pos rfl, pendingOf, Option.getD_some]
  · rw [Finmap.lookup_insert_of_ne _ hne, if_neg hne.symm, List.append_nil, pendingOf]

theorem Scheduled.storeReserved (h : s.Scheduled) (r : MakerReserved) :
    (s.storeReserved r).Scheduled := by
  -- the handler stays exactly when its message opens the entry
  have hsleeping : (s.storeReserved r).sleeping =
      if r.takerOrderUuid ∈ s.sleeping then s.sleeping else s.sleeping ++ [r.takerOrderUuid] := by
    rw [TakerSide.storeReserved]
    by_cases hmem : r.takerOrderUuid ∈ s.sleeping
    · obtain ⟨messages, hlookup⟩ := Finmap.mem_iff.mp ((h.iff _).mpr hmem)
      have hpos := List.length_pos_iff.mpr (h.ne_nil _ _ hlookup)
      rw [if_pos hmem, if_pos]
      simpa [hlookup] using hpos
    · have hnone : s.pendingMakerReserved.lookup r.takerOrderUuid = none :=
        Finmap.lookup_eq_none.mpr fun hpending => hmem ((h.iff _).mp hpending)
      rw [if_neg hmem, if_neg]
      simp [hnone]
  exact
    { nodup := by
        rw [hsleeping]
        split
        · exact h.nodup
        · rename_i hnew
          exact List.nodup_append.mpr ⟨h.nodup, List.nodup_singleton _,
            fun a ha b hb => by
              rw [List.mem_singleton.mp hb]
              exact fun heq => hnew (heq ▸ ha)⟩
      iff := by
        intro uuid
        rw [hsleeping, TakerSide.storeReserved, Finmap.mem_insert, h.iff]
        split
        · rename_i hold
          constructor
          · rintro (rfl | hmem)
            · exact hold
            · exact hmem
          · exact .inr
        · rw [List.mem_append, List.mem_singleton, or_comm]
      ne_nil := by
        intro uuid messages hlookup
        have hpending := pendingOf_storeReserved s r uuid
        rw [pendingOf, hlookup, Option.getD_some] at hpending
        rcases eq_or_ne r.takerOrderUuid uuid with rfl | hne
        · rw [hpending, if_pos rfl]
          exact List.append_ne_nil_of_right_ne_nil _ (List.cons_ne_nil r [])
        · rw [TakerSide.storeReserved, Finmap.lookup_insert_of_ne _ hne.symm] at hlookup
          exact h.ne_nil uuid messages hlookup
      keyed := by
        intro uuid messages hlookup r' hr'
        have hpending := pendingOf_storeReserved s r uuid
        rw [pendingOf, hlookup, Option.getD_some] at hpending
        rw [hpending, List.mem_append] at hr'
        rcases hr' with hr' | hr'
        · rw [pendingOf] at hr'
          cases hold : s.pendingMakerReserved.lookup uuid with
          | none => simp [hold] at hr'
          | some old => exact h.keyed uuid old hold r' (by simpa [hold] using hr')
        · split at hr'
          · rename_i heq
            rw [List.mem_singleton.mp hr']
            exact heq
          · simp at hr'
      conserved := by
        intro uuid
        rw [pendingOf_storeReserved, ← List.append_assoc]
        have hreceived : (s.storeReserved r).record.received = s.record.received ++ [r] := rfl
        rw [hreceived, forOrder_append]
        refine (h.conserved uuid).append ?_
        by_cases heq : r.takerOrderUuid = uuid <;> simp [forOrder, heq] }

/-! ## Waking up -/

/-- A handler that drains its entry: the messages are considered, the entry and the handler are
gone. -/
theorem drainReserved_of_drains (ourPublicId : H256) {uuid : Uuid} {env : DrainEnv}
    (horder : uuid ∈ s.myTakerOrders)
    (hcoins : env.coins.isSome = true) {messages : List MakerReserved}
    (hlookup : s.pendingMakerReserved.lookup uuid = some messages) (hsort : Sortable messages) :
    (s.drainReserved ourPublicId uuid env).pendingMakerReserved =
        s.pendingMakerReserved.erase uuid ∧
      (s.drainReserved ourPublicId uuid env).sleeping = s.sleeping ∧
      (s.drainReserved ourPublicId uuid env).record.received = s.record.received ∧
      (s.drainReserved ourPublicId uuid env).record.considered =
        s.record.considered ++ env.sort.sort messages := by
  obtain ⟨myOrder, horder⟩ := Finmap.mem_iff.mp horder
  obtain ⟨⟨baseCoin, relCoin⟩, hcoins⟩ := Option.isSome_iff_exists.mp hcoins
  simp only [drainReserved, horder, hcoins, hlookup, PriceSort.sortByPrice, if_pos hsort,
    processPending]
  split <;> exact ⟨rfl, rfl, rfl, rfl⟩

theorem mem_eraseIdx_iff {l : List Uuid} (h : l.Nodup) {index : ℕ} {uuid : Uuid} (uuid' : Uuid)
    (hindex : l[index]? = some uuid) : uuid' ∈ l.eraseIdx index ↔ uuid' ≠ uuid ∧ uuid' ∈ l := by
  obtain ⟨hlt, rfl⟩ := List.getElem?_eq_some_iff.mp hindex
  rw [← h.erase_getElem index hlt, h.mem_erase_iff]

theorem Scheduled.drained (h : s.Scheduled) {index : ℕ} {uuid : Uuid} {env : DrainEnv}
    (hindex : s.sleeping[index]? = some uuid) (horder : uuid ∈ s.myTakerOrders)
    (hcoins : env.coins.isSome = true) (hsort : Sortable (s.pendingOf uuid)) :
    ({ s with sleeping := s.sleeping.eraseIdx index }.drainReserved ourPublicId uuid
      env).Scheduled := by
  obtain ⟨messages, hlookup⟩ := Finmap.mem_iff.mp
    ((h.iff uuid).mpr (List.mem_of_getElem? hindex))
  rw [pendingOf, hlookup, Option.getD_some] at hsort
  obtain ⟨hpending, hsleeping, hreceived, hconsidered⟩ :=
    drainReserved_of_drains ourPublicId
      (s := { s with sleeping := s.sleeping.eraseIdx index }) horder hcoins hlookup hsort
  have hmem {uuid' : Uuid} := mem_eraseIdx_iff h.nodup uuid' hindex
  exact
    { nodup := by
        rw [hsleeping]
        exact h.nodup.sublist (List.eraseIdx_sublist _ _)
      iff := by
        intro uuid'
        rw [hpending, hsleeping, Finmap.mem_erase, h.iff, hmem]
      ne_nil := by
        intro uuid' messages' hlookup'
        rw [hpending] at hlookup'
        rcases eq_or_ne uuid' uuid with rfl | hne
        · simp [Finmap.lookup_erase] at hlookup'
        · rw [Finmap.lookup_erase_ne hne] at hlookup'
          exact h.ne_nil uuid' messages' hlookup'
      keyed := by
        intro uuid' messages' hlookup'
        rw [hpending] at hlookup'
        rcases eq_or_ne uuid' uuid with rfl | hne
        · simp [Finmap.lookup_erase] at hlookup'
        · rw [Finmap.lookup_erase_ne hne] at hlookup'
          exact h.keyed uuid' messages' hlookup'
      conserved := by
        intro uuid'
        rw [hreceived, hconsidered, pendingOf, hpending, forOrder_append]
        have hconserved := h.conserved uuid'
        rw [pendingOf] at hconserved
        rcases eq_or_ne uuid' uuid with rfl | hne
        · have hall : forOrder uuid' messages = messages :=
            List.filter_eq_self.mpr fun r hr => by simpa using h.keyed _ _ hlookup r hr
          have hsorted : (forOrder uuid' (env.sort.sort messages)).Perm messages := by
            have hperm := (env.sort.perm messages).filter fun r => r.takerOrderUuid = uuid'
            exact hperm.trans (.of_eq hall)
          rw [Finmap.lookup_erase, Option.getD_none, List.append_nil]
          rw [hlookup, Option.getD_some] at hconserved
          exact hconserved.trans (hsorted.symm.append_left _)
        · have hnone : forOrder uuid' (env.sort.sort messages) = [] := by
            refine List.filter_eq_nil_iff.mpr fun r hr => ?_
            have hr' := h.keyed _ _ hlookup r ((env.sort.perm messages).mem_iff.mp hr)
            simpa [hr'] using hne.symm
          rw [Finmap.lookup_erase_ne hne, hnone, List.append_nil]
          exact hconserved }

/-- A handler that does not drain its entry strands it, or loses its messages. -/
theorem not_noStranded_of_drained (h : s.Scheduled) {index : ℕ} {uuid : Uuid} {env : DrainEnv}
    (hindex : s.sleeping[index]? = some uuid)
    (hfails : ¬ (uuid ∈ s.myTakerOrders ∧ env.coins.isSome = true ∧
      Sortable (s.pendingOf uuid))) :
    ¬ ({ s with sleeping := s.sleeping.eraseIdx index }.drainReserved ourPublicId uuid
      env).NoStranded := by
  have hpending := (h.iff uuid).mpr (List.mem_of_getElem? hindex)
  have hasleep : uuid ∉ s.sleeping.eraseIdx index := fun hmem =>
    ((mem_eraseIdx_iff h.nodup _ hindex).mp hmem).1 rfl
  intro hno
  by_cases horder : uuid ∈ s.myTakerOrders
  · obtain ⟨myOrder, hmyOrder⟩ := Finmap.mem_iff.mp horder
    cases hcoins : env.coins with
    | none =>
      simp only [drainReserved, hmyOrder, hcoins] at hno
      exact hasleep (hno.scheduled uuid hpending)
    | some coins =>
      have hunsorted : ¬ Sortable (s.pendingOf uuid) := fun hsort =>
        hfails ⟨horder, by simp [hcoins], hsort⟩
      obtain ⟨messages, hlookup⟩ := Finmap.mem_iff.mp hpending
      rw [pendingOf, hlookup, Option.getD_some] at hunsorted
      simp only [drainReserved, hmyOrder, hcoins, hlookup, PriceSort.sortByPrice,
        if_neg hunsorted] at hno
      -- the entry is gone, and its messages were not considered
      have hlost := (h.conserved uuid).symm.trans (hno.considered uuid horder)
      rw [List.perm_append_left_iff, pendingOf, hlookup, Option.getD_some, pendingOf,
        Finmap.lookup_erase, Option.getD_none, List.perm_nil] at hlost
      exact h.ne_nil uuid messages hlookup hlost
  · have hnone : s.myTakerOrders.lookup uuid = none := Finmap.lookup_eq_none.mpr horder
    simp only [drainReserved, hnone] at hno
    exact hasleep (hno.scheduled uuid hpending)

/-! ## Runs -/

theorem Scheduled.step (h : s.Scheduled) {e : TakerEvent} (he : s.DrainsEntry e) :
    (s.step ourPublicId e).Scheduled := by
  cases e with
  | newOrder builder env =>
    rw [TakerSide.step]
    split
    · rw [insertOrder]
      split
      · exact h
      · exact h.congr rfl rfl rfl rfl
    · exact h
  | removed uuid => exact h.congr rfl rfl rfl rfl
  | makerReserved fromPubkey msg =>
    rw [TakerSide.step, checkReserved]
    split
    · exact h
    split
    · exact h
    · exact h.congr rfl rfl rfl rfl
  | stored index =>
    rw [TakerSide.step]
    split
    · exact h
    · have h' : { s with checked := s.checked.eraseIdx index }.Scheduled :=
        h.congr rfl rfl rfl rfl
      exact h'.storeReserved _
  | drained index env =>
    rw [TakerSide.step]
    split
    · exact h
    · rename_i uuid hindex
      obtain ⟨horder, hcoins, hsort⟩ := he uuid hindex
      exact h.drained hindex horder hcoins hsort
  | makerConnected fromPubkey msg =>
    rw [TakerSide.step, processMakerConnected]
    repeat' split
    all_goals exact h.congr rfl rfl rfl rfl

/-- One step keeps the property exactly when a handler that wakes up drains its entry. -/
theorem noStranded_step_iff (h : s.Scheduled) (e : TakerEvent) :
    (s.step ourPublicId e).NoStranded ↔ s.DrainsEntry e := by
  constructor
  · intro hno
    cases e with
    | drained index env =>
      intro uuid hindex
      by_contra hfails
      rw [TakerSide.step, hindex] at hno
      exact not_noStranded_of_drained h hindex hfails hno
    | _ => trivial
  · exact fun he => (h.step he).noStranded

/-- No entry is stranded and no reservation lost in a run, exactly when every handler that wakes
up finds the order, both coins activated, and prices it can compare. -/
theorem noStranded_iff_drainsEntry (hinit : s.Fresh) (es : List TakerEvent) :
    (∀ pre, pre <+: es → (pre.foldl (TakerSide.step ourPublicId) s).NoStranded) ↔
      Meets (fun s e => some (s.step ourPublicId e)) DrainsEntry s es := by
  rw [meets_iff_forall_append (P := NoStranded) (I := Scheduled)
    (fun s e => ⟨_, rfl⟩)
    (fun s e s' hI _ hstep => Option.some.inj hstep ▸ noStranded_step_iff hI e)
    (fun s e s' hI hG hstep => Option.some.inj hstep ▸ hI.step hG)
    hinit.scheduled hinit.scheduled.noStranded]
  simp only [run_some, Option.some.injEq, forall_eq']

/-! ### Two makers answer a taker order -/

/-- A taker order for 4 RICK is waiting. -/
def waitingForFour : TakerSide where
  myTakerOrders := (∅ : HashMap Uuid TakerOrder).insert 2
    ((testTakerBuilder OwnOrder.rick OwnOrder.morty).assemble ⟨0, 2, ⟨2⟩⟩ 1)
  pendingMakerReserved := ∅
  checked := []
  sleeping := []
  uuids := {2}
  record := ⟨[], [], [], []⟩

theorem fresh_waitingForFour : waitingForFour.Fresh := ⟨rfl, rfl, rfl, rfl⟩

/-- The reservation a maker sends for the order. -/
def reservedFour (makerOrderUuid : Uuid) (relAmount : ℚ) : NewProtocol.MakerReserved where
  base := "RICK"
  rel := "MORTY"
  baseAmount := 4
  relAmount := relAmount
  takerOrderUuid := 2
  makerOrderUuid := makerOrderUuid
  confSettings := testConfSettings
  baseProtocolInfo := none
  relProtocolInfo := none
  swapVersion := .default

/-- Two reservations arrive before the handler of the first wakes up with the coins. -/
def drainingRun (coins : Option (MmCoin × MmCoin)) : List TakerEvent :=
  [.makerReserved 5 (reservedFour 15 4), .stored 0, .makerReserved 6 (reservedFour 16 3),
    .stored 0, .drained 0 ⟨coins, .insertion, 0⟩]

/-- Both are considered and the cheaper one is taken up. -/
theorem noStranded_drainingRun :
    (((drainingRun (some (OwnOrder.rick, OwnOrder.morty))).foldl (step 1)
      waitingForFour).record.accepted.map fun r => r.makerOrderUuid) = [16] ∧
    ∀ pre, pre <+: drainingRun (some (OwnOrder.rick, OwnOrder.morty)) →
      (pre.foldl (step 1) waitingForFour).NoStranded :=
  ⟨by decide +kernel,
    (noStranded_iff_drainsEntry fresh_waitingForFour _).mpr (by decide +kernel)⟩

/-- The coins are deactivated when the handler wakes up: the order is still there, its entry keeps
both reservations, and no handler will look at them or at those that are appended. -/
theorem not_noStranded_deactivated :
    waitingForFour.Fresh ∧
      2 ∈ ((drainingRun none).foldl (step 1) waitingForFour).myTakerOrders ∧
      ((drainingRun none).foldl (step 1) waitingForFour).sleeping = [] ∧
      ¬ ((drainingRun none).foldl (step 1) waitingForFour).NoStranded := by
  refine ⟨fresh_waitingForFour, by decide +kernel, by decide +kernel, fun h => ?_⟩
  have hscheduled := h.scheduled 2 (by decide +kernel)
  revert hscheduled
  decide +kernel

end TakerSide

end DeXFG.Ordermatch
