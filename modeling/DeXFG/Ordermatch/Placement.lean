import DeXFG.Ordermatch.Index

/-!
# Pairs of tickers and the orders of a public key

A pair in alphabetical order is split at its first colon, so it is taken apart
correctly when the tickers contain none. Then, as long as the indices describe
the stored orders, the removals before a full trie take exactly the orders of
the public key that belong to the pair. An assignment of a base and a rel to
every uuid is kept when all orders respect it.
-/
namespace DeXFG.Ordermatch
open DeXFG.Library.FiniteMap DeXFG.Library.SetMap DeXFG.Library.KeyedWrites DeXFG.Library.Runs
open NewProtocol

/-! ## Pairs -/

/-- The ticker does not contain the separator of pairs. -/
def PlainTicker (ticker : String) : Prop := ':' ∉ ticker.toList

instance (ticker : String) : Decidable (PlainTicker ticker) :=
  inferInstanceAs (Decidable (':' ∉ ticker.toList))

/-- The pair consists of two tickers without separators. -/
def CanonicalPair (albPair : AlbOrderedOrderbookPair) : Prop :=
  ∃ base rel, PlainTicker base ∧ PlainTicker rel ∧ albPair = albOrderedPair base rel

theorem albOrderedPair_comm (base rel : String) :
    albOrderedPair base rel = albOrderedPair rel base := by
  unfold albOrderedPair
  rcases lt_trichotomy base rel with h | rfl | h
  · rw [if_pos h, if_neg h.not_gt]
  · rfl
  · rw [if_neg h.not_gt, if_pos h]

theorem splitOnce_append {base : String} (rel : String) (h : PlainTicker base) :
    splitOnce (base ++ ":" ++ rel) = some (base, rel) := by
  have hlist : (base ++ ":" ++ rel).toList = base.toList ++ ':' :: rel.toList := by
    simp [String.toList_append]
  have hne : ∀ c ∈ base.toList, decide (c ≠ ':') = true := by
    intro c hc
    rw [decide_eq_true_eq]
    rintro rfl
    exact h hc
  unfold splitOnce
  rw [hlist, if_pos (by simp), List.takeWhile_append_of_pos hne, List.dropWhile_append_of_pos hne]
  simp

/-- A canonical pair is taken apart into its tickers, in one of the two orders. -/
theorem splitOnce_albOrderedPair {base rel : String} (hbase : PlainTicker base)
    (hrel : PlainTicker rel) :
    splitOnce (albOrderedPair base rel) = some (base, rel) ∨
      splitOnce (albOrderedPair base rel) = some (rel, base) := by
  unfold albOrderedPair
  by_cases h : base < rel
  · rw [if_pos h]
    exact Or.inl (splitOnce_append rel hbase)
  · rw [if_neg h]
    exact Or.inr (splitOnce_append base hrel)

theorem albOrderedPair_eq_iff {base rel base' rel' : String} (hbase : PlainTicker base)
    (hrel : PlainTicker rel) (hbase' : PlainTicker base') (hrel' : PlainTicker rel') :
    albOrderedPair base' rel' = albOrderedPair base rel ↔
      (base', rel') = (base, rel) ∨ (base', rel') = (rel, base) := by
  constructor
  · intro h
    have hswap : ∀ {x y z w : String}, some (x, y) = some (z, w) →
        (x, y) = (z, w) ∧ (y, x) = (w, z) := by
      intro x y z w heq
      obtain ⟨rfl, rfl⟩ := Prod.mk.inj (Option.some.inj heq)
      exact ⟨rfl, rfl⟩
    rcases splitOnce_albOrderedPair hbase' hrel' with hsplit' | hsplit' <;>
      rcases splitOnce_albOrderedPair hbase hrel with hsplit | hsplit <;>
      rw [h, hsplit] at hsplit'
    · exact Or.inl (hswap hsplit').1.symm
    · exact Or.inr (hswap hsplit').1.symm
    · exact Or.inr (hswap hsplit').2.symm
    · exact Or.inl (hswap hsplit').2.symm
  · rintro (h | h)
    · obtain ⟨rfl, rfl⟩ := Prod.mk.inj h
      rfl
    · obtain ⟨rfl, rfl⟩ := Prod.mk.inj h
      exact albOrderedPair_comm _ _

namespace Orderbook

variable {orderbook : Orderbook} {ops : List IndexOp} {pubkey : String} {uuid : Uuid}
  {it : SetIteration Uuid} {albPair : AlbOrderedOrderbookPair}

/-! ## The removals before a full trie -/

theorem lookup_execAll_drops (uuids : List Uuid) :
    (orderbook.execAll (uuids.map .drop)).1.orderSet.lookup uuid =
      if uuid ∈ uuids then none else orderbook.orderSet.lookup uuid := by
  induction uuids generalizing orderbook with
  | nil => rfl
  | cons dropped uuids ih =>
    rw [List.map_cons, execAll_cons, ih, orderSet_exec, lookup_applyWrite, IndexOp.write_fst]
    by_cases hmem : uuid ∈ uuids
    · rw [if_pos hmem, if_pos (List.mem_cons_of_mem _ hmem)]
    · by_cases hu : dropped = uuid
      · subst hu
        simp [IndexOp.uuid, IndexOp.write]
      · have hnot : uuid ∉ dropped :: uuids := by simp [hmem, Ne.symm hu]
        rw [if_neg hmem, if_neg hnot, IndexOp.uuid, if_neg hu]

theorem IndexInv.execAll_drops (h : orderbook.IndexInv) (uuids : List Uuid) :
    (orderbook.execAll (uuids.map .drop)).1.IndexInv := by
  induction uuids generalizing orderbook with
  | nil => exact h
  | cons dropped uuids ih => exact ih (h.drop dropped)

theorem IndexInv.mem_ownedUuids (h : orderbook.IndexInv) {pair : String × String} :
    uuid ∈ orderbook.ownedUuids it pubkey pair ↔
      ∃ order, orderbook.orderSet.lookup uuid = some order ∧ order.pubkey = pubkey ∧
        order.baseRel = pair := by
  rw [ownedUuids, List.mem_filter, it.mem_toList, h.unordered, decide_eq_true_eq, owner,
    Option.map_eq_some_iff]
  constructor
  · rintro ⟨⟨order, hlookup, hpair⟩, order', hlookup', hpubkey⟩
    rw [hlookup, Option.some.injEq] at hlookup'
    subst hlookup'
    exact ⟨order, hlookup, hpubkey, hpair⟩
  · rintro ⟨order, hlookup, hpubkey, hpair⟩
    exact ⟨⟨order, hlookup, hpair⟩, order, hlookup, hpubkey⟩

theorem IndexInv.lookup_execAll_owned (h : orderbook.IndexInv) (pair : String × String) :
    (orderbook.execAll ((orderbook.ownedUuids it pubkey pair).map .drop)).1.orderSet.lookup uuid =
      (orderbook.orderSet.lookup uuid).filter
        fun order => ¬(order.pubkey = pubkey ∧ order.baseRel = pair) := by
  rw [lookup_execAll_drops]
  simp only [h.mem_ownedUuids]
  cases hlookup : orderbook.orderSet.lookup uuid with
  | none => simp
  | some order =>
    rw [Option.filter_some]
    by_cases howned : order.pubkey = pubkey ∧ order.baseRel = pair
    · simp [howned]
    · simp only [Option.some.injEq, exists_eq_left', howned, if_false, not_false_eq_true,
        decide_true, if_true]

theorem IndexInv.execAll_pairDrops (h : orderbook.IndexInv) :
    (orderbook.execAll (orderbook.pairDrops it pubkey albPair)).1.IndexInv := by
  unfold pairDrops
  cases splitOnce albPair with
  | none => exact h
  | some pair =>
    rw [execAll_append]
    exact (h.execAll_drops _).execAll_drops _

theorem IndexInv.lookup_execAll_pairDrops_of_split (h : orderbook.IndexInv) {base rel : String}
    (hsplit : splitOnce albPair = some (base, rel)) :
    (orderbook.execAll (orderbook.pairDrops it pubkey albPair)).1.orderSet.lookup uuid =
      (orderbook.orderSet.lookup uuid).filter fun order =>
        ¬(order.pubkey = pubkey ∧ (order.baseRel = (base, rel) ∨ order.baseRel = (rel, base))) := by
  unfold pairDrops
  rw [hsplit]
  simp only [execAll_append]
  rw [(h.execAll_drops _).lookup_execAll_owned, h.lookup_execAll_owned, Option.filter_filter]
  congr 1
  funext order
  rw [← Bool.decide_and, decide_eq_decide]
  tauto

/-- The tickers of all orders of the public key are free of separators. -/
def PlainTickers (orderbook : Orderbook) (pubkey : String) : Prop :=
  ∀ uuid order, orderbook.orderSet.lookup uuid = some order → order.pubkey = pubkey →
    PlainTicker order.base ∧ PlainTicker order.rel

/-- Before a full trie exactly the orders of the public key for the pair are removed. -/
theorem IndexInv.lookup_execAll_pairDrops (h : orderbook.IndexInv)
    (hplain : orderbook.PlainTickers pubkey) (hpair : CanonicalPair albPair) :
    (orderbook.execAll (orderbook.pairDrops it pubkey albPair)).1.orderSet.lookup uuid =
      (orderbook.orderSet.lookup uuid).filter
        fun order => ¬(order.pubkey = pubkey ∧ order.albPair = albPair) := by
  obtain ⟨base, rel, hbase, hrel, rfl⟩ := hpair
  have hsides : ∀ order, orderbook.orderSet.lookup uuid = some order → order.pubkey = pubkey →
      (order.albPair = albOrderedPair base rel ↔
        order.baseRel = (base, rel) ∨ order.baseRel = (rel, base)) := by
    intro order hlookup hpubkey
    obtain ⟨hbase', hrel'⟩ := hplain uuid order hlookup hpubkey
    exact albOrderedPair_eq_iff hbase hrel hbase' hrel'
  have hfilter : (orderbook.orderSet.lookup uuid).filter (fun order => ¬(order.pubkey = pubkey ∧
        (order.baseRel = (base, rel) ∨ order.baseRel = (rel, base)))) =
      (orderbook.orderSet.lookup uuid).filter
        fun order => ¬(order.pubkey = pubkey ∧ order.albPair = albOrderedPair base rel) := by
    cases hlookup : orderbook.orderSet.lookup uuid with
    | none => rfl
    | some order =>
      rw [Option.filter_some, Option.filter_some,
        decide_eq_decide.mpr (not_congr (and_congr_right fun hpubkey =>
          (hsides order hlookup hpubkey).symm))]
  rcases splitOnce_albOrderedPair hbase hrel with hsplit | hsplit
  · rw [h.lookup_execAll_pairDrops_of_split hsplit, hfilter]
  · rw [h.lookup_execAll_pairDrops_of_split hsplit, ← hfilter]
    simp only [or_comm]

/-! ## Assigned pairs -/

/-- Every order has the base and rel that its uuid is assigned. -/
def Placed (place : Uuid → String × String) (orderbook : Orderbook) : Prop :=
  ∀ uuid order, orderbook.orderSet.lookup uuid = some order → order.baseRel = place uuid

/-- An insertion respects the assignment. -/
def PlacedOp (place : Uuid → String × String) (op : IndexOp) : Prop :=
  ∀ order, op = .put order → order.baseRel = place order.uuid

variable {place : Uuid → String × String}

theorem Placed.keepsPair (h : orderbook.Placed place) {op : IndexOp} (hop : PlacedOp place op) :
    orderbook.KeepsPair op := by
  cases op with
  | put order =>
    intro stored hlookup
    rw [h _ stored hlookup, hop order rfl]
  | drop uuid => trivial

theorem Placed.exec (h : orderbook.Placed place) {op : IndexOp} (hop : PlacedOp place op) :
    (orderbook.exec op).1.Placed place := by
  intro u order hlookup
  rw [orderSet_exec, lookup_applyWrite, IndexOp.write_fst] at hlookup
  by_cases hu : op.uuid = u
  · subst hu
    rw [if_pos rfl] at hlookup
    cases op with
    | put put =>
      obtain rfl := Option.some.inj hlookup
      exact hop put rfl
    | drop uuid => cases hlookup
  · rw [if_neg hu] at hlookup
    exact h u order hlookup

/-- Changes that respect the assignment keep it, and the indices with it. -/
theorem Placed.execAll (h : orderbook.Placed place) (hinv : orderbook.IndexInv)
    (hops : ∀ op ∈ ops, PlacedOp place op) :
    (orderbook.execAll ops).1.Placed place ∧ (orderbook.execAll ops).1.IndexInv := by
  induction ops generalizing orderbook with
  | nil => exact ⟨h, hinv⟩
  | cons op ops ih =>
    have hop := hops op List.mem_cons_self
    exact ih (h.exec hop) (hinv.exec (h.keepsPair hop))
      fun op' hmem => hops op' (List.mem_cons_of_mem _ hmem)

end Orderbook

end DeXFG.Ordermatch
