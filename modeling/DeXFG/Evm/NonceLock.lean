import DeXFG.Library.Runs

/-!
# Nonces of the transactions of one address

The tasks of a node that send from an address share a lock, ask all RPC nodes
for the pending count of the address, sign with the highest one, and keep the
lock until some node answers with a higher count. RPC nodes are `ν`, tasks are
`ι`; an RPC node that is asked may fail, and learns of transactions whenever it
likes.
-/
namespace DeXFG.Evm
open Library

variable {ν ι : Type}

/-- `transaction_count` at the pending block: the nonces from 0 on that were all received. -/
def pendingCount (received : Finset ℕ) : ℕ :=
  Nat.findGreatest (fun n => ∀ m < n, m ∈ received) received.card

/-- One pass of the loop of `get_addr_nonce`: the passes before it in which all requests failed,
and the answers so far, `some none` for a request that failed. -/
structure NonceRound (ν : Type) where
  errors : ℕ
  answers : ν → Option (Option ℕ)

inductive NonceResult (ν : Type) where
  | waiting
  | retry
  | failed
  | nonce (n : ℕ) (web3Instances : Finset ν)

namespace NonceRound

def new (errors : ℕ) : NonceRound ν := ⟨errors, fun _ => none⟩

/-- Some answer is a count of `n` at least. -/
def Reaches (r : NonceRound ν) (n : ℕ) : Prop :=
  ∃ k, (r.answers k).join.any (fun count => n ≤ count) = true

instance [Fintype ν] (r : NonceRound ν) (n : ℕ) : Decidable (r.Reaches n) :=
  inferInstanceAs (Decidable (∃ _, _))

variable [DecidableEq ν]

def record (r : NonceRound ν) (k : ν) (answer : Option ℕ) : NonceRound ν :=
  match r.answers k with
  | none => { r with answers := Function.update r.answers k (some answer) }
  | some _ => r

variable [Fintype ν]

/-- The highest count; requests that failed do not count. -/
def max (r : NonceRound ν) : ℕ := Finset.univ.sup fun k => (r.answers k).join.getD 0

def result (r : NonceRound ν) : NonceResult ν :=
  if ∃ k, r.answers k = none then .waiting
  else if ∀ k, r.answers k = some none then
    if r.errors + 1 > 5 then .failed else .retry
  else .nonce r.max (Finset.univ.filter fun k => r.answers k = some (some r.max))

end NonceRound

/-- Where the task that has the lock is in `sign_and_send_transaction_with_keypair`. -/
inductive SendPhase (ν : Type) where
  | getNonce (r : NonceRound ν)
  | sign (nonce : ℕ) (web3Instances : Finset ν)
  | sendRaw (nonce : ℕ) (unanswered : Finset ν)
  | waitNonceIncrease (nonce : ℕ) (r : NonceRound ν)

/-- The nonce that the task has taken. -/
def SendPhase.nonce : SendPhase ν → Option ℕ
  | .getNonce _ => none
  | .sign nonce _ => some nonce
  | .sendRaw nonce _ => some nonce
  | .waitNonceIncrease nonce _ => some nonce

/-- The nonces that each RPC node has received, the transactions on the way to a node, the tasks
that wait for the lock and the one that has it, and how the tasks have returned: with the nonce of
the transaction, or with an error. -/
structure AddressSends (ν ι : Type) where
  received : ν → Finset ℕ
  inFlight : Finset (ν × ℕ)
  queue : List ι
  holder : Option (ι × SendPhase ν)
  results : List (ι × Option ℕ)

inductive SendEvent (ν ι : Type) where
  | call (i : ι)
  | acquire
  /-- An RPC node answers the request for the nonce, or fails. -/
  | answer (k : ν) (ok : Bool)
  /-- The transaction is built and signed, or this fails. -/
  | sign (ok : Bool)
  /-- An RPC node answers that it accepts the transaction, or fails. -/
  | sent (k : ν) (ok : Bool)
  | deliver (k : ν) (nonce : ℕ)
  | gossip (source target : ν) (nonce : ℕ)

namespace AddressSends

/-- No task has started. -/
def init (received : ν → Finset ℕ) : AddressSends ν ι where
  received := received
  inFlight := ∅
  queue := []
  holder := none
  results := []

/-- The nonces of the transactions that were returned `Ok`. -/
def okNonces (s : AddressSends ν ι) : List ℕ := s.results.filterMap Prod.snd

def enter (s : AddressSends ν ι) (i : ι) (phase : SendPhase ν) : AddressSends ν ι :=
  { s with holder := some (i, phase) }

/-- The task returns, and the lock is free. -/
def leave (s : AddressSends ν ι) (i : ι) (result : Option ℕ) : AddressSends ν ι :=
  { s with holder := none, results := (i, result) :: s.results }

variable [DecidableEq ν]

def receive (s : AddressSends ν ι) (k : ν) (nonce : ℕ) : AddressSends ν ι :=
  { s with received := Function.update s.received k (insert nonce (s.received k)) }

/-- The answer of an RPC node to a request for the nonce. -/
def count (s : AddressSends ν ι) (k : ν) (ok : Bool) : Option ℕ :=
  if ok then some (pendingCount (s.received k)) else none

variable [Fintype ν]

/-- `get_addr_nonce` before signing. -/
def onNonce (s : AddressSends ν ι) (i : ι) (r : NonceRound ν) : AddressSends ν ι :=
  match r.result with
  | .waiting => s.enter i (.getNonce r)
  | .retry => s.enter i (.getNonce (.new (r.errors + 1)))
  | .failed => s.leave i none
  | .nonce n web3Instances => s.enter i (.sign n web3Instances)

/-- `wait_for_addr_nonce_increase`, which asks again until the count is higher. -/
def onWait (s : AddressSends ν ι) (i : ι) (nonce : ℕ) (r : NonceRound ν) : AddressSends ν ι :=
  match r.result with
  | .waiting => s.enter i (.waitNonceIncrease nonce r)
  | .retry => s.enter i (.waitNonceIncrease nonce (.new (r.errors + 1)))
  | .failed => s.enter i (.waitNonceIncrease nonce (.new 0))
  | .nonce n _ =>
    if n > nonce then s.leave i (some nonce) else s.enter i (.waitNonceIncrease nonce (.new 0))

/-- `select_ok` over the nodes with the highest count: the first that accepts the transaction. -/
def onSent (s : AddressSends ν ι) (i : ι) (nonce : ℕ) (unanswered : Finset ν) (k : ν) (ok : Bool) :
    AddressSends ν ι :=
  if k ∉ unanswered then s
  else if ok then (s.receive k nonce).enter i (.waitNonceIncrease nonce (.new 0))
  else if unanswered.erase k = ∅ then s.leave i none
  else s.enter i (.sendRaw nonce (unanswered.erase k))

def step (s : AddressSends ν ι) : SendEvent ν ι → AddressSends ν ι
  | .call i => { s with queue := s.queue ++ [i] }
  | .acquire =>
    match s.holder, s.queue with
    | none, i :: queue => { s with queue }.enter i (.getNonce (.new 0))
    | _, _ => s
  | .answer k ok =>
    match s.holder with
    | some (i, .getNonce r) => s.onNonce i (r.record k (s.count k ok))
    | some (i, .waitNonceIncrease nonce r) => s.onWait i nonce (r.record k (s.count k ok))
    | _ => s
  | .sign ok =>
    match s.holder with
    | some (i, .sign nonce web3Instances) =>
      if ok then
        { s with inFlight := s.inFlight ∪ web3Instances.image fun k => (k, nonce) }.enter i
          (.sendRaw nonce web3Instances)
      else s.leave i none
    | _ => s
  | .sent k ok =>
    match s.holder with
    | some (i, .sendRaw nonce unanswered) => s.onSent i nonce unanswered k ok
    | _ => s
  | .deliver k nonce => if (k, nonce) ∈ s.inFlight then s.receive k nonce else s
  | .gossip source target nonce =>
    if nonce ∈ s.received source then s.receive target nonce else s

/-- When the last node answers a task that is about to sign: of the transactions that were
returned `Ok`, the answers do not stop short of any that they come up to. A node's count comes up
to a nonce when it has received all below it. -/
def UpToDate (s : AddressSends ν ι) : SendEvent ν ι → Prop
  | .answer k ok =>
    match s.holder with
    | some (_, .getNonce r) =>
      (∀ k', (r.record k (s.count k ok)).answers k' ≠ none) → ∀ n ∈ s.okNonces,
        (r.record k (s.count k ok)).Reaches n → (r.record k (s.count k ok)).Reaches (n + 1)
    | _ => True
  | _ => True

instance decidableUpToDate (s : AddressSends ν ι) : ∀ e, Decidable (s.UpToDate e)
  | .answer k ok => by
    dsimp only [UpToDate]
    split <;> infer_instance
  | .call _ => isTrue trivial
  | .acquire => isTrue trivial
  | .sign _ => isTrue trivial
  | .sent _ _ => isTrue trivial
  | .deliver _ _ => isTrue trivial
  | .gossip _ _ _ => isTrue trivial

end AddressSends

/-! ## What the answers say -/

namespace NonceRound

variable [Fintype ν] {r : NonceRound ν}

theorem not_reaches_succ_max : ¬ r.Reaches (r.max + 1) := by
  rintro ⟨k, hk⟩
  have hle : (r.answers k).join.getD 0 ≤ r.max :=
    Finset.le_sup (f := fun k => (r.answers k).join.getD 0) (Finset.mem_univ k)
  cases hcount : (r.answers k).join with
  | none =>
    rw [hcount] at hk
    cases hk
  | some count =>
    rw [hcount] at hk hle
    have hmore : r.max + 1 ≤ count := by simpa using hk
    have hless : count ≤ r.max := hle
    omega

theorem reaches_max (h : ∃ k count, r.answers k = some (some count)) : r.Reaches r.max := by
  obtain ⟨k₀, count₀, h₀⟩ := h
  obtain ⟨k, -, hk⟩ := Finset.exists_mem_eq_sup Finset.univ ⟨k₀, Finset.mem_univ k₀⟩
    fun k => (r.answers k).join.getD 0
  have hmax : r.max = (r.answers k).join.getD 0 := hk
  cases hcount : (r.answers k).join with
  | none =>
    rw [hcount, Option.getD_none] at hmax
    refine ⟨k₀, ?_⟩
    rw [hmax, h₀]
    simp
  | some count =>
    rw [hcount, Option.getD_some] at hmax
    refine ⟨k, ?_⟩
    rw [hcount, hmax]
    simp

/-- A pass that gives a nonce was answered by all nodes, and the nonce is the highest count. -/
theorem of_result_eq_nonce [DecidableEq ν] {n : ℕ} {web3Instances : Finset ν}
    (h : r.result = .nonce n web3Instances) :
    (∀ k, r.answers k ≠ none) ∧ r.Reaches n ∧ ¬ r.Reaches (n + 1) := by
  unfold result at h
  split at h
  · cases h
  rename_i hanswered
  push Not at hanswered
  split at h
  · split at h <;> cases h
  rename_i hfailed
  push Not at hfailed
  cases h
  refine ⟨hanswered, reaches_max ?_, not_reaches_succ_max⟩
  obtain ⟨k, hk⟩ := hfailed
  cases hk' : r.answers k with
  | none => exact absurd hk' (hanswered k)
  | some answer =>
    cases answer with
    | none => exact absurd hk' hk
    | some count => exact ⟨k, count, hk'⟩

end NonceRound

/-! ## Every run -/

namespace AddressSends

/-- No nonce was returned twice, nor has the task with the lock taken one that was returned. -/
structure Distinct (s : AddressSends ν ι) : Prop where
  nodup : s.okNonces.Nodup
  fresh : ∀ i phase, s.holder = some (i, phase) → ∀ n ∈ phase.nonce, n ∉ s.okNonces

variable {s t : AddressSends ν ι}

/-- The task with the lock goes on, with the nonce that it has or a new one. -/
theorem Distinct.enter (h : s.Distinct) {i : ι} {phase : SendPhase ν}
    (hresults : t.results = s.results) (hfresh : ∀ n ∈ phase.nonce, n ∉ s.okNonces) :
    (t.enter i phase).Distinct where
  nodup := by
    change (t.results.filterMap Prod.snd).Nodup
    rw [hresults]
    exact h.nodup
  fresh := by
    rintro _ _ ⟨⟩
    change ∀ n ∈ phase.nonce, n ∉ t.results.filterMap Prod.snd
    rw [hresults]
    exact hfresh

theorem Distinct.leave (h : s.Distinct) {i : ι} {result : Option ℕ}
    (hfresh : ∀ n ∈ result, n ∉ s.okNonces) : (s.leave i result).Distinct where
  nodup := by
    cases result with
    | none => exact h.nodup
    | some n => exact List.nodup_cons.mpr ⟨hfresh n rfl, h.nodup⟩
  fresh := by
    rintro _ _ ⟨⟩

/-- What the network does leaves the tasks alone. -/
theorem Distinct.of_eq (h : s.Distinct) (hresults : t.results = s.results)
    (hholder : t.holder = s.holder) : t.Distinct where
  nodup := by
    unfold okNonces
    rw [hresults]
    exact h.nodup
  fresh := by
    unfold okNonces
    rw [hresults, hholder]
    exact h.fresh

theorem Distinct.onWait [Fintype ν] (h : s.Distinct) {i : ι} {nonce : ℕ} {r : NonceRound ν}
    (hfresh : nonce ∉ s.okNonces) : (s.onWait i nonce r).Distinct := by
  have hsame : ∀ n ∈ some nonce, n ∉ s.okNonces := by
    rintro _ ⟨⟩
    exact hfresh
  unfold AddressSends.onWait
  split
  · exact h.enter rfl hsame
  · exact h.enter rfl hsame
  · exact h.enter rfl hsame
  · split
    · exact h.leave hsame
    · exact h.enter rfl hsame

theorem Distinct.onSent [DecidableEq ν] (h : s.Distinct) {i : ι} {nonce : ℕ} {unanswered : Finset ν} {k : ν}
    {ok : Bool} (hfresh : nonce ∉ s.okNonces) : (s.onSent i nonce unanswered k ok).Distinct := by
  have hsame : ∀ n ∈ some nonce, n ∉ s.okNonces := by
    rintro _ ⟨⟩
    exact hfresh
  unfold AddressSends.onSent
  split
  · exact h
  split
  · exact h.enter rfl hsame
  split
  · exact h.leave nofun
  · exact h.enter rfl hsame

variable [DecidableEq ν] [Fintype ν]

theorem Distinct.onNonce (h : s.Distinct) {i : ι} {r : NonceRound ν}
    (hup : (∀ k, r.answers k ≠ none) → ∀ n ∈ s.okNonces, r.Reaches n → r.Reaches (n + 1)) :
    (s.onNonce i r).Distinct := by
  unfold AddressSends.onNonce
  split
  · exact h.enter rfl nofun
  · exact h.enter rfl nofun
  · exact h.leave nofun
  · rename_i n web3Instances hresult
    obtain ⟨hanswered, hreaches, hnot⟩ := NonceRound.of_result_eq_nonce hresult
    apply h.enter rfl
    rintro _ ⟨⟩ hused
    exact hnot (hup hanswered n hused hreaches)

theorem Distinct.step {e : SendEvent ν ι} (h : s.Distinct) (hup : s.UpToDate e) :
    (s.step e).Distinct := by
  cases e with
  | call i => exact h.of_eq rfl rfl
  | acquire =>
    unfold AddressSends.step
    dsimp only
    split
    · exact h.enter rfl nofun
    · exact h
  | answer k ok =>
    unfold AddressSends.step
    dsimp only
    split
    · rename_i i r hholder
      rw [UpToDate, hholder] at hup
      exact h.onNonce hup
    · rename_i i nonce r hholder
      exact h.onWait (h.fresh _ _ hholder nonce rfl)
    · exact h
  | sign ok =>
    unfold AddressSends.step
    dsimp only
    split
    · rename_i i nonce web3Instances hholder
      split
      · refine Distinct.enter h rfl ?_
        rintro _ ⟨⟩
        exact h.fresh _ _ hholder nonce rfl
      · exact h.leave nofun
    · exact h
  | sent k ok =>
    unfold AddressSends.step
    dsimp only
    split
    · rename_i i nonce unanswered hholder
      exact h.onSent (h.fresh _ _ hholder nonce rfl)
    · exact h
  | deliver k nonce =>
    unfold AddressSends.step
    dsimp only
    split
    · exact h.of_eq rfl rfl
    · exact h
  | gossip source target nonce =>
    unfold AddressSends.step
    dsimp only
    split
    · exact h.of_eq rfl rfl
    · exact h

/-- In every run in which the answers before each signature are up to date, no two transactions
that were returned `Ok` have the same nonce. -/
theorem okNonces_nodup_of_run (received : ν → Finset ℕ) (es : List (SendEvent ν ι))
    (hes : Runs.Meets (fun s e => some (step s e)) UpToDate (init received) es) :
    (es.foldl step (init received)).okNonces.Nodup := by
  have hinit : (init received : AddressSends ν ι).Distinct := ⟨List.nodup_nil, by rintro _ _ ⟨⟩⟩
  have hrun := Runs.invariant_run (I := Distinct) ?_ hinit hes (Runs.run_some _ es)
  · exact hrun.nodup
  · rintro s e _ h hup ⟨⟩
    exact h.step hup

/-- Two RPC nodes and a task that sends through `k`, the only one that answers unless `both`. -/
def sampleSend (i : ℕ) (k both : Bool) : List (SendEvent Bool ℕ) :=
  [.call i, .acquire, .answer k true, .answer (!k) both, .sign true, .sent k true,
    .answer k true, .answer (!k) both]

/-- Two tasks that send while both nodes answer. -/
theorem okNonces_sample :
    (((sampleSend 0 true true ++ sampleSend 1 true true).foldl step
      (init fun _ => ∅)).okNonces.length = 2) ∧
    ((sampleSend 0 true true ++ sampleSend 1 true true).foldl step
      (init fun _ => ∅)).okNonces.Nodup :=
  ⟨by decide +kernel, okNonces_nodup_of_run _ _ (by decide +kernel)⟩

/-- The node that has the first transaction fails while the second one is sent through the other:
both are returned `Ok` with the nonce 0. -/
theorem okNonces_not_nodup_sample :
    ¬ ((sampleSend 0 true true ++ sampleSend 1 false false).foldl step
      (init fun _ => ∅)).okNonces.Nodup := by
  decide +kernel

end AddressSends

end DeXFG.Evm
