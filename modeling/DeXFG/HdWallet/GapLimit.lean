import DeXFG.HdWallet.EnabledAddress

/-!
# The scan for new addresses, query by query

The loop once more, with the ids that it asks for and with subtractions that may fail. The
scan is documented to stop after `gap_limit` unused addresses in a row.
-/
namespace DeXFG.HdWallet
open Library.Stateful Library.GapScan AccountState

variable {XPub Address Balance ε δ α β : Type}

theorem AccountState.SameKeys.trans {a a' a'' : HDAccount XPub Address} (h : SameKeys a a')
    (h' : SameKeys a' a'') : SameKeys a a'' where
  accountId := h'.accountId.trans h.accountId
  extendedPubkey := h'.extendedPubkey.trans h.extendedPubkey
  accountDerivationPath := h'.accountDerivationPath.trans h.accountDerivationPath

inductive ScanFailure where
  /-- A subtraction of an `u32` below zero. -/
  | overflow
  | error (e : BalanceError)
  deriving DecidableEq

structure ScanLog (Address Balance : Type) where
  balances : List (HDAddressBalance Address Balance)
  /-- The ids that were asked for. -/
  queries : List ℕ
  checkingAddressId : ℕ
  unused : ℕ

def checkedSub (m n : ℕ) : AccountAction XPub Address ScanFailure ℕ :=
  if n ≤ m then pure (m - n) else throw .overflow

namespace HDCoin

variable (coin : HDCoin XPub Address Balance)

def scanLoopLog (chain : Bip44Chain) (gapLimit : ℕ) : (fuel checkingAddressId unused : ℕ) →
    List (HDAddressBalance Address Balance) → List ℕ →
    AccountAction XPub Address ScanFailure (ScanLog Address Balance)
  | 0, checkingAddressId, unused, balances, queries =>
    pure { balances, queries, checkingAddressId, unused }
  | fuel + 1, checkingAddressId, unused, balances, queries =>
    if unused ≤ gapLimit then do
      let hdAddress ← mapErr .error (mapErr .fromAddressDerivingError
        (coin.deriveAddress chain checkingAddressId))
      match ← mapErr .error (ofResult (coin.addressBalanceStatus hdAddress)) with
      | some nonEmptyBalance => do
        let lastNonEmptyAddressId ← checkedSub checkingAddressId unused
        let emptyAddresses ← mapErr .error (mapErr .fromAddressDerivingError (coin.deriveAddresses
          ((List.range' lastNonEmptyAddressId unused).map fun addressId => { chain, addressId })))
        scanLoopLog chain gapLimit fuel (checkingAddressId + 1) 0
          (balances ++ emptyAddresses.map (coin.emptyBalance chain) ++
            [{ coin.emptyBalance chain hdAddress with balance := nonEmptyBalance }])
          (queries ++ [checkingAddressId])
      | none =>
        scanLoopLog chain gapLimit fuel (checkingAddressId + 1) (unused + 1) balances
          (queries ++ [checkingAddressId])
    else pure { balances, queries, checkingAddressId, unused }

/-- The loop as the scan starts it. -/
def scanLoopFrom (a : HDAccount XPub Address) (chain : Bip44Chain) (gapLimit : ℕ) :
    AccountAction XPub Address ScanFailure (ScanLog Address Balance) :=
  coin.scanLoopLog chain gapLimit (a.addressLimit - a.knownAddressesNumber chain)
    (a.knownAddressesNumber chain) 0 [] []

def scanLog (chain : Bip44Chain) (gapLimit : ℕ) :
    AccountAction XPub Address ScanFailure (ScanLog Address Balance) := do
  let s ← get
  let log ← coin.scanLoopFrom s.account chain gapLimit
  let newKnownAddressesNumber ← checkedSub log.checkingAddressId log.unused
  mapErr .error (mapErr .fromAccountUpdatingError
    (coin.setKnownAddressesNumber chain newKnownAddressesNumber))
  pure log

end HDCoin

/-! ## The log takes nothing away -/

section Erasure

theorem exec_map {m : AccountAction XPub Address ε α} {f : α → β} {s : AccountState XPub Address} :
    exec (f <$> m) s = ((exec m s).1.map f, (exec m s).2) := by
  rw [← bind_pure_comp, exec_bind]
  rcases exec m s with ⟨_ | _, _⟩ <;> rfl

theorem exec_ofResult (r : Except ε α) (s : AccountState XPub Address) :
    exec (ofResult r : AccountAction XPub Address ε α) s = (r, s) := by
  cases r <;> rfl

theorem exec_checkedSub {m n : ℕ} (h : n ≤ m) (s : AccountState XPub Address) :
    exec (checkedSub m n) s = (.ok (m - n), s) := by
  rw [checkedSub, if_pos h]
  rfl

namespace HDCoin

variable (coin : HDCoin XPub Address Balance) (chain : Bip44Chain) (gapLimit : ℕ)

/-- No subtraction fails, and without the log the loop is the one of the scan. -/
theorem exec_scanLoopLog {checkingAddressId unused : ℕ} (h : unused ≤ checkingAddressId)
    (fuel : ℕ) (balances : List (HDAddressBalance Address Balance)) (queries : List ℕ)
    (s : AccountState XPub Address) :
    exec ((fun log => (log.balances, log.checkingAddressId - log.unused)) <$>
      coin.scanLoopLog chain gapLimit fuel checkingAddressId unused balances queries) s =
    exec (mapErr ScanFailure.error
      (coin.scanLoop chain gapLimit fuel checkingAddressId unused balances)) s := by
  induction fuel generalizing checkingAddressId unused balances queries s with
  | zero => rfl
  | succ fuel ih =>
    rw [exec_map, exec_mapErr, scanLoopLog, scanLoop]
    by_cases hgap : unused ≤ gapLimit
    · simp only [if_pos hgap, exec_bind, exec_mapErr]
      rcases exec (coin.deriveAddress chain checkingAddressId) s with ⟨_ | hdAddress, s₁⟩
      · rfl
      · simp only [Except.mapError, exec_ofResult]
        cases coin.addressBalanceStatus hdAddress with
        | error e => rfl
        | ok status =>
          cases status with
          | none =>
            have hrest := ih (Nat.succ_le_succ h) balances (queries ++ [checkingAddressId]) s₁
            rw [exec_map, exec_mapErr] at hrest
            exact hrest
          | some nonEmptyBalance =>
            simp only [exec_bind, exec_mapErr, exec_checkedSub h]
            generalize (List.range' (checkingAddressId - unused) unused).map
              (fun addressId => HDAddressId.mk chain addressId) = ids
            rcases exec (coin.deriveAddresses ids) s₁ with ⟨_ | emptyAddresses, s₂⟩
            · rfl
            · have hrest := ih (Nat.zero_le (checkingAddressId + 1))
                (balances ++ emptyAddresses.map (coin.emptyBalance chain) ++
                  [{ coin.emptyBalance chain hdAddress with balance := nonEmptyBalance }])
                (queries ++ [checkingAddressId]) s₂
              rw [exec_map, exec_mapErr] at hrest
              exact hrest
    · simp only [if_neg hgap]
      rfl

end HDCoin

end Erasure

/-! ## The loop only fills the cache -/

/-- The numbers of known addresses are the same, in the account and in the storage. -/
structure Kept (s s' : AccountState XPub Address) : Prop where
  known : s'.account.knownAddressesNumber = s.account.knownAddressesNumber
  storage : s'.storage = s.storage

theorem Kept.refl (s : AccountState XPub Address) : Kept s s := ⟨rfl, rfl⟩

theorem Kept.trans {s s' s'' : AccountState XPub Address} (h : Kept s s') (h' : Kept s' s'') :
    Kept s s'' where
  known := h'.known.trans h.known
  storage := h'.storage.trans h.storage

theorem sat_kept_after {m : AccountAction XPub Address ε α} {s s' : AccountState XPub Address}
    {Q : α → Prop} (h : Kept s s') (hm : Sat m s' (fun a s'' => Q a ∧ Kept s' s'') (Kept s')) :
    Sat m s' (fun a s'' => Q a ∧ Kept s s'') (Kept s) := by
  apply hm.mono
  · exact fun a s'' h'' => ⟨h''.1, h.trans h''.2⟩
  · exact fun s'' h'' => h.trans h''

namespace HDCoin

variable (coin : HDCoin XPub Address Balance) (chain : Bip44Chain) (gapLimit : ℕ)

theorem deriveAddressWithCache_kept (id : HDAddressId) (s : AccountState XPub Address) :
    Sat (coin.deriveAddressWithCache id) s (fun _ s' => Kept s s') (Kept s) := by
  rw [deriveAddressWithCache, sat_bind, sat_get]
  split
  · exact Kept.refl s
  · simp only [sat_bind, sat_ofResult, sat_modify, sat_pure]
    constructor
    · intro a _
      exact ⟨s.account.known_cacheAddress id a, rfl⟩
    · intro _ _
      exact Kept.refl s

theorem deriveAddresses_kept (ids : List HDAddressId) (s : AccountState XPub Address) :
    Sat (coin.deriveAddresses ids) s (fun _ s' => Kept s s') (Kept s) := by
  apply sat_mapM fun _ _ s' => Kept s s'
  · intro done id bs s' h
    apply (coin.deriveAddressWithCache_kept id s').mono
    · exact fun _ s'' h' => h.trans h'
    · exact fun s'' h' => h.trans h'
  · exact Kept.refl s

theorem deriveAddress_kept (addressId : ℕ) (s : AccountState XPub Address) :
    Sat (coin.deriveAddress chain addressId) s (fun _ s' => Kept s s') (Kept s) := by
  rw [deriveAddress, sat_bind]
  apply (coin.deriveAddresses_kept _ s).mono
  · intro hdAddresses s' h
    split <;> exact h
  · exact fun _ h => h

theorem scanLoopLog_kept {checkingAddressId unused : ℕ} (h : unused ≤ checkingAddressId)
    (fuel : ℕ) (balances : List (HDAddressBalance Address Balance)) (queries : List ℕ)
    (s : AccountState XPub Address) :
    Sat (coin.scanLoopLog chain gapLimit fuel checkingAddressId unused balances queries) s
      (fun log s' => log.unused ≤ log.checkingAddressId ∧ Kept s s') (Kept s) := by
  induction fuel generalizing checkingAddressId unused balances queries s with
  | zero => exact ⟨h, Kept.refl s⟩
  | succ fuel ih =>
    rw [scanLoopLog]
    by_cases hgap : unused ≤ gapLimit
    · simp only [if_pos hgap, sat_bind, sat_mapErr]
      apply (coin.deriveAddress_kept chain checkingAddressId s).mono
      · intro hdAddress s₁ hs₁
        simp only [sat_ofResult]
        constructor
        · intro status _
          cases status with
          | none => exact sat_kept_after hs₁ (ih (Nat.succ_le_succ h) _ _ s₁)
          | some nonEmptyBalance =>
            simp only [checkedSub, if_pos h, sat_bind, sat_pure, sat_mapErr]
            apply (coin.deriveAddresses_kept _ s₁).mono
            · exact fun _ s₂ hs₂ => sat_kept_after (hs₁.trans hs₂) (ih (Nat.zero_le _) _ _ s₂)
            · exact fun _ hs₂ => hs₁.trans hs₂
        · exact fun _ _ => hs₁
      · exact fun _ hs₁ => hs₁
    · rw [if_neg hgap]
      exact ⟨h, Kept.refl s⟩

/-- The scan with its log ends like the scan. -/
theorem exec_scanLog (s : AccountState XPub Address) :
    exec (ScanLog.balances <$> coin.scanLog chain gapLimit) s =
      exec (mapErr ScanFailure.error (coin.scanForNewAddressesImpl chain gapLimit)) s := by
  have herases := coin.exec_scanLoopLog chain gapLimit
    (Nat.zero_le (s.account.knownAddressesNumber chain))
    (s.account.addressLimit - s.account.knownAddressesNumber chain) [] [] s
  have hkept := coin.scanLoopLog_kept chain gapLimit
    (Nat.zero_le (s.account.knownAddressesNumber chain))
    (s.account.addressLimit - s.account.knownAddressesNumber chain) [] [] s
  have hget : exec (get : AccountAction XPub Address ScanFailure _) s = (.ok s, s) := rfl
  have hget' : exec (get : AccountAction XPub Address BalanceError _) s = (.ok s, s) := rfl
  rw [exec_map, exec_mapErr] at herases
  rw [exec_map, exec_mapErr, scanLog, scanForNewAddressesImpl, exec_bind, hget, exec_bind, hget']
  simp only [exec_bind, scanLoopFrom]
  rcases hlog : exec (coin.scanLoopLog chain gapLimit (s.account.addressLimit -
    s.account.knownAddressesNumber chain) (s.account.knownAddressesNumber chain) 0 [] []) s with
    ⟨_ | log, s₁⟩
  · rw [hlog] at herases
    rcases hloop : exec (coin.scanLoop chain gapLimit (s.account.addressLimit -
      s.account.knownAddressesNumber chain) (s.account.knownAddressesNumber chain) 0 []) s with
      ⟨_ | result, s₂⟩
    · rw [hloop] at herases
      simpa [Except.map, Except.mapError] using herases
    · rw [hloop] at herases
      simp [Except.map, Except.mapError] at herases
  · have hle := (hkept.of_ok hlog).1
    rw [hlog] at herases
    rcases hloop : exec (coin.scanLoop chain gapLimit (s.account.addressLimit -
      s.account.knownAddressesNumber chain) (s.account.knownAddressesNumber chain) 0 []) s with
      ⟨_ | result, s₂⟩
    · rw [hloop] at herases
      simp [Except.map, Except.mapError] at herases
    · rw [hloop] at herases
      simp only [Except.map, Except.mapError, Prod.mk.injEq, Except.ok.injEq] at herases
      obtain ⟨hresult, rfl⟩ := herases
      subst hresult
      simp only [exec_checkedSub hle, exec_mapErr]
      rcases exec (coin.setKnownAddressesNumber chain (log.checkingAddressId - log.unused)) s₁
        with ⟨_ | _, s₃⟩ <;> rfl

/-- A scan that fails leaves the numbers as they were. -/
theorem scanLog_kept (s : AccountState XPub Address) :
    Sat (coin.scanLog chain gapLimit) s (fun _ _ => True) (Kept s) := by
  rw [scanLog, sat_bind, sat_get, sat_bind]
  apply (coin.scanLoopLog_kept chain gapLimit (Nat.zero_le _) _ _ _ s).mono
  · intro log s₁ hs₁
    simp only [checkedSub, if_pos hs₁.1, sat_bind, sat_pure, sat_mapErr, setKnownAddressesNumber,
      sat_get]
    split
    · exact hs₁.2
    · simp only [sat_bind, sat_ofResult, sat_modify]
      exact ⟨fun _ _ => trivial, fun _ _ => hs₁.2⟩
  · exact fun _ hs₁ => hs₁

end HDCoin

theorem ends_ofResult {coin : HDCoin XPub Address Balance} {s : AccountState XPub Address}
    {r : Except ε α} (h : s.Sound coin) :
    Ends coin (ofResult r) s fun a s' => r = .ok a ∧ s' = s := by
  rw [Ends, sat_ofResult]
  constructor
  · exact fun a ha => ⟨.refl h, ha, rfl⟩
  · exact fun _ _ => .refl h

/-! ## What the loop has seen -/

namespace HDCoin

variable (coin : HDCoin XPub Address Balance) (chain : Bip44Chain) (gapLimit : ℕ)


/-- What the node answers for an id: its balance if it is used, else the empty one. -/
def IsEntry (a : HDAccount XPub Address) (addressId : ℕ)
    (entry : HDAddressBalance Address Balance) : Prop :=
  ∃ hdAddress status, coin.deriveHDAddress a { chain, addressId } = .ok hdAddress ∧
    coin.addressBalanceStatus hdAddress = .ok status ∧
    entry = { coin.emptyBalance chain hdAddress with balance := status.getD coin.newBalance }

/-- The number of unused ids in a row before the next one, after `n` queries. -/
abbrev unusedRow (a : HDAccount XPub Address) (n : ℕ) : ℕ :=
  trail (coin.usedAt a chain) (a.knownAddressesNumber chain) n

/-- The numbers of queries after which the scan may stop, with this gap. -/
abbrev scanStops (a : HDAccount XPub Address) (gap : ℕ) : Set ℕ :=
  Stops (coin.usedAt a chain) (a.knownAddressesNumber chain) a.addressLimit gap

/-- After `n` queries, none of which came too late. -/
structure Scanned (a : HDAccount XPub Address) (n : ℕ)
    (balances : List (HDAddressBalance Address Balance)) (queries : List ℕ) : Prop where
  queries : queries = List.range' (a.knownAddressesNumber chain) n
  notStopped : ∀ m < n, m ∉ coin.scanStops chain a (gapLimit + 1)
  answered : ∀ i, i < a.knownAddressesNumber chain + n → a.knownAddressesNumber chain ≤ i →
    ∃ hdAddress status, coin.deriveHDAddress a { chain, addressId := i } = .ok hdAddress ∧
      coin.addressBalanceStatus hdAddress = .ok status
  balances : List.Forall₂ (coin.IsEntry chain a)
    (List.range' (a.knownAddressesNumber chain) (n - coin.unusedRow chain a n)) balances

variable {coin chain gapLimit} {a : HDAccount XPub Address} {n : ℕ}
  {balances : List (HDAddressBalance Address Balance)} {queries : List ℕ}

theorem Scanned.empty : coin.Scanned chain gapLimit a 0 [] [] where
  queries := rfl
  notStopped m hm := absurd hm (Nat.not_lt_zero m)
  answered i hi hle := by omega
  balances := .nil

/-- An id that is not used is not listed yet. -/
theorem Scanned.unused (h : coin.Scanned chain gapLimit a n balances queries)
    {hdAddress : HDAddress Address}
    (hgap : n ∉ coin.scanStops chain a (gapLimit + 1))
    (hderive : coin.deriveHDAddress a
      { chain, addressId := a.knownAddressesNumber chain + n } = .ok hdAddress)
    (hstatus : coin.addressBalanceStatus hdAddress = .ok none) :
    coin.unusedRow chain a (n + 1) = coin.unusedRow chain a n + 1 ∧
      coin.Scanned chain gapLimit a (n + 1) balances
        (queries ++ [a.knownAddressesNumber chain + n]) := by
  have hused := coin.usedAt_of_status hderive hstatus
  have htrail : coin.unusedRow chain a (n + 1) = coin.unusedRow chain a n + 1 := by
    rw [unusedRow, trail, hused]
    rfl
  refine ⟨htrail, ?_⟩
  exact {
    queries := by
      rw [h.queries, List.range'_1_concat]
    notStopped := by
      intro m hm
      by_cases hlast : m = n
      · rwa [hlast]
      · exact h.notStopped m (by omega)
    answered := by
      intro i hi hle
      by_cases hlast : i = a.knownAddressesNumber chain + n
      · rw [hlast]
        exact ⟨hdAddress, none, hderive, hstatus⟩
      · exact h.answered i (by omega) hle
    balances := by
      rw [htrail, Nat.add_sub_add_right]
      exact h.balances }

/-- With a used id the unused ones before it are listed too. -/
theorem Scanned.used (h : coin.Scanned chain gapLimit a n balances queries)
    {hdAddress : HDAddress Address} {nonEmptyBalance : Balance}
    {emptyAddresses : List (HDAddress Address)}
    (hgap : n ∉ coin.scanStops chain a (gapLimit + 1))
    (hderive : coin.deriveHDAddress a
      { chain, addressId := a.knownAddressesNumber chain + n } = .ok hdAddress)
    (hstatus : coin.addressBalanceStatus hdAddress = .ok (some nonEmptyBalance))
    (hempty : List.Forall₂ (fun i emptyAddress =>
        coin.deriveHDAddress a { chain, addressId := i } = .ok emptyAddress)
      (List.range' (a.knownAddressesNumber chain + n - coin.unusedRow chain a n)
        (coin.unusedRow chain a n)) emptyAddresses) :
    coin.unusedRow chain a (n + 1) = 0 ∧
      coin.Scanned chain gapLimit a (n + 1)
        (balances ++ emptyAddresses.map (coin.emptyBalance chain) ++
          [{ coin.emptyBalance chain hdAddress with balance := nonEmptyBalance }])
        (queries ++ [a.knownAddressesNumber chain + n]) := by
  have hused := coin.usedAt_of_status hderive hstatus
  have hle : coin.unusedRow chain a n ≤ n := trail_le
  have htrail : coin.unusedRow chain a (n + 1) = 0 := by
    rw [unusedRow, trail, hused]
    rfl
  refine ⟨htrail, ?_⟩
  exact {
    queries := by
      rw [h.queries, List.range'_1_concat]
    notStopped := by
      intro m hm
      by_cases hlast : m = n
      · rwa [hlast]
      · exact h.notStopped m (by omega)
    answered := by
      intro i hi hle
      by_cases hlast : i = a.knownAddressesNumber chain + n
      · rw [hlast]
        exact ⟨hdAddress, _, hderive, hstatus⟩
      · exact h.answered i (by omega) hle
    balances := by
      have hrange : List.range' (a.knownAddressesNumber chain) (n + 1 - 0) =
          List.range' (a.knownAddressesNumber chain) (n - coin.unusedRow chain a n) ++
          List.range' (a.knownAddressesNumber chain + n - coin.unusedRow chain a n)
            (coin.unusedRow chain a n) ++
          [a.knownAddressesNumber chain + n] := by
        have hfirst : a.knownAddressesNumber chain + n - coin.unusedRow chain a n =
            a.knownAddressesNumber chain + (n - coin.unusedRow chain a n) := by omega
        rw [Nat.sub_zero, List.range'_1_concat, hfirst, List.range'_append_1,
          Nat.sub_add_cancel hle]
      rw [htrail, hrange]
      apply List.rel_append (List.rel_append h.balances _)
      · exact .cons ⟨hdAddress, _, hderive, hstatus, rfl⟩ .nil
      · apply List.forall₂_map_right_iff.mpr
        have hrow : ∀ i ∈ List.range' (a.knownAddressesNumber chain + n - coin.unusedRow chain a n)
            (coin.unusedRow chain a n), ∃ hdAddress,
              coin.deriveHDAddress a { chain, addressId := i } = .ok hdAddress ∧
                coin.addressBalanceStatus hdAddress = .ok none := by
          intro i hi
          have hi' := List.mem_range'_1.mp hi
          obtain ⟨emptyAddress, status, hderive', hstatus'⟩ := h.answered i (by omega) (by omega)
          have hlow : a.knownAddressesNumber chain + n ≤ i + coin.unusedRow chain a n := by omega
          have hunused : coin.usedAt a chain i = false := unused_of_trail hlow (by omega)
          rw [coin.usedAt_of_status hderive' hstatus'] at hunused
          cases status with
          | none => exact ⟨emptyAddress, hderive', hstatus'⟩
          | some balance => cases hunused
        apply ((List.forall₂_and_left _ _).mpr ⟨hrow, hempty⟩).imp
        intro i emptyAddress hentry
        obtain ⟨⟨hdAddress', hderive', hstatus'⟩, hderive''⟩ := hentry
        have heq : hdAddress' = emptyAddress := by simpa using hderive'.symm.trans hderive''
        rw [← heq]
        exact ⟨hdAddress', none, hderive', hstatus', rfl⟩ }

/-- What the log of a scan says when the loop ends after `n` queries. -/
structure LogAfter (coin : HDCoin XPub Address Balance) (chain : Bip44Chain) (gapLimit : ℕ)
    (a : HDAccount XPub Address) (log : ScanLog Address Balance) (n : ℕ) : Prop where
  scanned : coin.Scanned chain gapLimit a n log.balances log.queries
  stops : n ∈ coin.scanStops chain a (gapLimit + 1)
  checking : log.checkingAddressId = a.knownAddressesNumber chain + n
  unused : log.unused = coin.unusedRow chain a n

theorem scanLoopLog_ends {s : AccountState XPub Address} (hs : s.Sound coin)
    (hkeys : SameKeys a s.account) (fuel : ℕ)
    (hfuel : fuel = a.addressLimit - (a.knownAddressesNumber chain + n))
    (h : coin.Scanned chain gapLimit a n balances queries) :
    Ends coin (coin.scanLoopLog chain gapLimit fuel (a.knownAddressesNumber chain + n)
        (coin.unusedRow chain a n) balances queries) s
      fun log s' => s'.account.knownAddressesNumber = s.account.knownAddressesNumber ∧
        ∃ n', coin.LogAfter chain gapLimit a log n' := by
  induction fuel generalizing s n balances queries with
  | zero =>
    apply ends_pure hs
    exact ⟨rfl, n, h, .inl (by omega), rfl, rfl⟩
  | succ fuel ih =>
    rw [scanLoopLog]
    by_cases hgap : coin.unusedRow chain a n ≤ gapLimit
    · have hgoes : n ∉ coin.scanStops chain a (gapLimit + 1) := by
        intro hstop
        have hlong := hstop.resolve_left (by omega)
        exact absurd hlong (by rw [unusedRow] at hgap; omega)
      rw [if_pos hgap]
      apply Ends.bind (ends_mapErr.mpr (ends_mapErr.mpr (coin.deriveAddress_ends hs _ _)))
      intro hdAddress s₁ hs₁ hderived
      have hderive : coin.deriveHDAddress a
          { chain, addressId := a.knownAddressesNumber chain + n } = .ok hdAddress := by
        have hone := hderived.2
        simp only [List.forall₂_cons, List.forall₂_nil_right_iff] at hone
        rw [← hkeys.deriveHDAddress]
        exact hone.1.1
      have hkeys₁ : SameKeys a s₁.account := hkeys.trans hs₁.keys
      apply Ends.bind (ends_mapErr.mpr (ends_ofResult hs₁.sound))
      intro status s₁' _ hstatus
      obtain ⟨hstatus, rfl⟩ := hstatus
      have hnext : fuel = a.addressLimit - (a.knownAddressesNumber chain + (n + 1)) := by omega
      cases status with
      | none =>
        obtain ⟨hrow, hscanned⟩ := h.unused hgoes hderive hstatus
        have hrest := ih hs₁.sound hkeys₁ hnext hscanned
        rw [hrow] at hrest
        apply hrest.mono
        intro log s' _ hlog
        exact ⟨hlog.1.trans hderived.1, hlog.2⟩
      | some nonEmptyBalance =>
        have hle : coin.unusedRow chain a n ≤ a.knownAddressesNumber chain + n :=
          trail_le.trans (Nat.le_add_left _ _)
        have hsub : (checkedSub (a.knownAddressesNumber chain + n) (coin.unusedRow chain a n) :
            AccountAction XPub Address ScanFailure ℕ) =
            pure (a.knownAddressesNumber chain + n - coin.unusedRow chain a n) := if_pos hle
        simp only [hsub, pure_bind]
        apply Ends.bind (ends_mapErr.mpr (ends_mapErr.mpr (coin.deriveAddresses_ends hs₁.sound _)))
        intro emptyAddresses s₂ hs₂ hempty
        have hderives : List.Forall₂ (fun i emptyAddress =>
            coin.deriveHDAddress a { chain, addressId := i } = .ok emptyAddress)
            (List.range' (a.knownAddressesNumber chain + n - coin.unusedRow chain a n)
              (coin.unusedRow chain a n)) emptyAddresses := by
          apply (List.forall₂_map_left_iff.mp hempty.2).imp
          intro i emptyAddress hone
          rw [← hkeys₁.deriveHDAddress]
          exact hone.1
        obtain ⟨hrow, hscanned⟩ := h.used hgoes hderive hstatus hderives
        have hrest := ih hs₂.sound (hkeys₁.trans hs₂.keys) hnext hscanned
        rw [hrow] at hrest
        apply hrest.mono
        intro log s' _ hlog
        exact ⟨hlog.1.trans (hempty.1.trans hderived.1), hlog.2⟩
    · rw [if_neg hgap]
      apply ends_pure hs
      refine ⟨rfl, n, h, .inr ?_, rfl, rfl⟩
      rw [unusedRow] at hgap
      omega

theorem scanLog_ends {s : AccountState XPub Address} (hs : s.Sound coin) :
    Ends coin (coin.scanLog chain gapLimit) s fun log s' =>
      ∃ n, coin.LogAfter chain gapLimit s.account log n ∧
        s'.account.knownAddressesNumber = Function.update s.account.knownAddressesNumber chain
          (s.account.knownAddressesNumber chain + n - coin.unusedRow chain s.account n) := by
  rw [scanLog, ends_get_bind]
  have hloop : Ends coin (coin.scanLoopFrom s.account chain gapLimit) s _ :=
    scanLoopLog_ends hs ⟨rfl, rfl, rfl⟩ _ rfl Scanned.empty
  apply Ends.bind hloop
  intro log s₁ hs₁ hlog
  obtain ⟨hknown, n, hafter⟩ := hlog
  have hle : coin.unusedRow chain s.account n ≤ n := trail_le
  have hsub : (checkedSub log.checkingAddressId log.unused :
      AccountAction XPub Address ScanFailure ℕ) =
      pure (s.account.knownAddressesNumber chain + n - coin.unusedRow chain s.account n) := by
    rw [checkedSub, hafter.checking, hafter.unused, if_pos (by omega)]
  simp only [hsub, pure_bind]
  have hnum : s₁.account.knownAddressesNumber chain ≤
      s.account.knownAddressesNumber chain + n - coin.unusedRow chain s.account n := by
    rw [hknown]
    omega
  apply Ends.bind (ends_mapErr.mpr (ends_mapErr.mpr
    (coin.setKnownAddressesNumber_ends hs₁.sound hnum)))
  intro _ s₂ hs₂ hset
  apply ends_pure hs₂.sound
  rw [hknown] at hset
  exact ⟨n, hafter, hset⟩

/-! ## Scans that get an answer to everything -/

variable (coin chain) in
/-- Every id below the limit is derived and answered, and every number is stored. -/
structure Answers (a : HDAccount XPub Address) : Prop where
  derive : ∀ i < a.addressLimit, ∃ hdAddress,
    coin.deriveHDAddress a { chain, addressId := i } = .ok hdAddress
  status : ∀ i < a.addressLimit, ∀ hdAddress,
    coin.deriveHDAddress a { chain, addressId := i } = .ok hdAddress →
      ∃ status, coin.addressBalanceStatus hdAddress = .ok status
  store : ∀ num < a.addressLimit, coin.updateAddressesNumber chain a.accountId num = .ok ()

variable (coin) in
/-- The operation has a result, and keeps what every operation keeps. -/
def Succeeds (m : AccountAction XPub Address ε α) (s : AccountState XPub Address) : Prop :=
  Sat m s (fun _ s' => Grows coin s s') fun _ => False

theorem Succeeds.bind {m : AccountAction XPub Address ε α} {f : α → AccountAction XPub Address ε β}
    {s : AccountState XPub Address} (h : coin.Succeeds m s)
    (hf : ∀ x s', Grows coin s s' → coin.Succeeds (f x) s') : coin.Succeeds (m >>= f) s := by
  rw [Succeeds, sat_bind]
  apply Sat.mono h
  · intro x s' hs'
    apply Sat.mono (hf x s' hs')
    · exact fun _ s'' hs'' => hs'.trans hs''
    · exact fun _ hfalse => hfalse
  · exact fun _ hfalse => hfalse

theorem succeeds_mapErr {m : AccountAction XPub Address ε α} {g : ε → δ}
    {s : AccountState XPub Address} : coin.Succeeds (mapErr g m) s ↔ coin.Succeeds m s := by
  simp [Succeeds]

theorem deriveAddressWithCache_succeeds {s : AccountState XPub Address} (hs : s.Sound coin)
    {id : HDAddressId} (h : ∃ hdAddress, coin.deriveHDAddress s.account id = .ok hdAddress) :
    coin.Succeeds (coin.deriveAddressWithCache id) s := by
  obtain ⟨hdAddress, hderive⟩ := h
  rw [Succeeds, deriveAddressWithCache, sat_bind, sat_get]
  split
  · exact .refl hs
  · simp only [sat_bind, sat_ofResult, sat_modify, sat_pure]
    constructor
    · exact fun x hx => coin.grows_cacheAddress hs hx
    · intro e he
      rw [hderive] at he
      cases he

theorem deriveAddresses_succeeds {s : AccountState XPub Address} (hs : s.Sound coin)
    {ids : List HDAddressId}
    (h : ∀ id ∈ ids, ∃ hdAddress, coin.deriveHDAddress s.account id = .ok hdAddress) :
    coin.Succeeds (coin.deriveAddresses ids) s := by
  induction ids generalizing s with
  | nil => exact Grows.refl hs
  | cons id ids ih =>
    rw [deriveAddresses, List.mapM_cons]
    apply (deriveAddressWithCache_succeeds hs (h id List.mem_cons_self)).bind
    intro hdAddress s₁ hs₁
    have hrest : ∀ id' ∈ ids, ∃ hdAddress,
        coin.deriveHDAddress s₁.account id' = .ok hdAddress := by
      intro id' hid'
      rw [hs₁.keys.deriveHDAddress]
      exact h id' (List.mem_cons_of_mem _ hid')
    apply (ih hs₁.sound hrest).bind
    intro hdAddresses s₂ hs₂
    exact Grows.refl hs₂.sound

theorem deriveAddress_succeeds {s : AccountState XPub Address} (hs : s.Sound coin)
    {addressId : ℕ}
    (h : ∃ hdAddress, coin.deriveHDAddress s.account { chain, addressId } = .ok hdAddress) :
    Sat (coin.deriveAddress chain addressId) s (fun hdAddress s' => Grows coin s s' ∧
      coin.deriveHDAddress s.account { chain, addressId } = .ok hdAddress) fun _ => False := by
  have hends := coin.deriveAddresses_ends hs [{ chain, addressId }]
  have hone : ∀ id ∈ [({ chain, addressId } : HDAddressId)],
      ∃ hdAddress, coin.deriveHDAddress s.account id = .ok hdAddress := by simpa using h
  have hsucceeds := deriveAddresses_succeeds hs hone
  rw [deriveAddress, sat_bind]
  rcases hrun : exec (coin.deriveAddresses [{ chain, addressId }]) s with ⟨_ | hdAddresses, s'⟩
  · exact (hsucceeds.of_error hrun).elim
  · have hderived := hends.of_ok hrun
    simp only [Sat, hrun]
    rcases hdAddresses with _ | ⟨hdAddress, _ | ⟨other, hdAddresses⟩⟩
    · cases hderived.2.2
    · refine ⟨hderived.1, ?_⟩
      have hone := hderived.2.2
      simp only [List.forall₂_cons, List.forall₂_nil_right_iff] at hone
      exact hone.1.1
    · have hone := hderived.2.2
      simp at hone

theorem scanLoopLog_succeeds {s : AccountState XPub Address} (hs : s.Sound coin)
    (hkeys : SameKeys a s.account) (hanswers : coin.Answers chain a) (fuel : ℕ)
    {checkingAddressId unused : ℕ} (hle : unused ≤ checkingAddressId)
    (hfuel : fuel ≤ a.addressLimit - checkingAddressId) :
    coin.Succeeds (coin.scanLoopLog chain gapLimit fuel checkingAddressId unused balances queries)
      s := by
  induction fuel generalizing s checkingAddressId unused balances queries with
  | zero => exact Grows.refl hs
  | succ fuel ih =>
    rw [scanLoopLog]
    by_cases hgap : unused ≤ gapLimit
    · have hlt : checkingAddressId < a.addressLimit := by omega
      have hderivable : ∀ i < a.addressLimit, ∀ s' : AccountState XPub Address,
          SameKeys a s'.account → ∃ hdAddress,
            coin.deriveHDAddress s'.account { chain, addressId := i } = .ok hdAddress := by
        intro i hi s' hs'
        rw [hs'.deriveHDAddress]
        exact hanswers.derive i hi
      rw [if_pos hgap, Succeeds, sat_bind, sat_mapErr, sat_mapErr]
      apply (deriveAddress_succeeds hs (hderivable _ hlt s hkeys)).mono
      · intro hdAddress s₁ hs₁
        obtain ⟨hgrows, hderive⟩ := hs₁
        rw [hkeys.deriveHDAddress] at hderive
        obtain ⟨status, hstatus⟩ := hanswers.status _ hlt hdAddress hderive
        have hkeys₁ := hkeys.trans hgrows.keys
        simp only [hstatus, sat_bind, sat_mapErr, sat_ofResult, Except.ok.injEq, forall_eq',
          reduceCtorEq, false_implies, implies_true, and_true]
        cases status with
        | none =>
          apply Sat.mono (ih hgrows.sound hkeys₁ (Nat.succ_le_succ hle) (by omega))
          · exact fun _ s' hs' => hgrows.trans hs'
          · exact fun _ hfalse => hfalse
        | some nonEmptyBalance =>
          simp only [checkedSub, if_pos hle, sat_bind, sat_pure, sat_mapErr]
          have hids : ∀ id ∈ (List.range' (checkingAddressId - unused) unused).map
              (fun addressId => HDAddressId.mk chain addressId),
              ∃ hdAddress, coin.deriveHDAddress s₁.account id = .ok hdAddress := by
            intro id hid
            obtain ⟨i, hi, rfl⟩ := List.mem_map.mp hid
            have hi' := List.mem_range'_1.mp hi
            exact hderivable i (by omega) s₁ hkeys₁
          apply Sat.mono (deriveAddresses_succeeds hgrows.sound hids)
          · intro _ s₂ hs₂
            apply Sat.mono (ih hs₂.sound (hkeys₁.trans hs₂.keys) (Nat.zero_le _) (by omega))
            · exact fun _ s' hs' => (hgrows.trans hs₂).trans hs'
            · exact fun _ hfalse => hfalse
          · exact fun _ hfalse => hfalse
      · exact fun _ hfalse => hfalse
    · rw [if_neg hgap]
      exact Grows.refl hs

theorem LogAfter.isLeast {log : ScanLog Address Balance}
    (h : coin.LogAfter chain gapLimit a log n) :
    IsLeast (coin.scanStops chain a (gapLimit + 1)) n := by
  constructor
  · exact h.stops
  · intro m hm
    by_contra hlt
    exact h.scanned.notStopped m (not_le.mp hlt) hm

theorem LogAfter.length_queries {log : ScanLog Address Balance}
    (h : coin.LogAfter chain gapLimit a log n) : log.queries.length = n := by
  rw [h.scanned.queries, List.length_range']

theorem LogAfter.mem_queries {log : ScanLog Address Balance}
    (h : coin.LogAfter chain gapLimit a log n) {i : ℕ} : i ∈ log.queries ↔
      a.knownAddressesNumber chain ≤ i ∧ i < a.knownAddressesNumber chain + n := by
  rw [h.scanned.queries, List.mem_range'_1]

theorem used_before_row (h : coin.unusedRow chain a n < n) :
    coin.usedAt a chain (a.knownAddressesNumber chain + n - coin.unusedRow chain a n - 1) :=
  used_before_trail h

/-- Only the position of a number can have it refused. -/
theorem setKnownAddressesNumber_refused {s : AccountState XPub Address} {num : ℕ} :
    (exec (coin.setKnownAddressesNumber chain num) s).1 =
      .error (.addressLimitReached s.account.addressLimit) ↔ s.account.addressLimit ≤ num := by
  have hget : exec (get : AccountAction XPub Address AccountUpdatingError _) s = (.ok s, s) := rfl
  rw [setKnownAddressesNumber, exec_bind, hget]
  by_cases hlimit : s.account.addressLimit ≤ num
  · simp only [if_pos hlimit]
    exact iff_of_true rfl hlimit
  · simp only [if_neg hlimit, exec_bind, exec_ofResult]
    refine iff_of_false ?_ hlimit
    intro h
    cases hupdate : coin.updateAddressesNumber chain s.account.accountId num with
    | error e =>
      rw [hupdate] at h
      cases h
    | ok _ =>
      rw [hupdate] at h
      cases h

/-! ## The scan and its documentation -/

variable (coin chain gapLimit) in
/-- What holds of every scan. -/
structure ScanSound (s : AccountState XPub Address) : Prop where
  /-- The log belongs to the scan, and no subtraction overflows. -/
  erases : exec (ScanLog.balances <$> coin.scanLog chain gapLimit) s =
    exec (mapErr ScanFailure.error (coin.scanForNewAddressesImpl chain gapLimit)) s
  unchanged : ∀ e s', exec (coin.scanLog chain gapLimit) s = (.error e, s') → Kept s s'
  ordered : ∀ log s', exec (coin.scanLog chain gapLimit) s = (.ok log, s') →
    log.queries = List.range' (s.account.knownAddressesNumber chain) log.queries.length
  /-- One past the last used id, or the old number. -/
  number : ∀ log s', exec (coin.scanLog chain gapLimit) s = (.ok log, s') →
    (s'.account.knownAddressesNumber chain = s.account.knownAddressesNumber chain ∨
      ∃ i ∈ log.queries, coin.usedAt s.account chain i ∧
        s'.account.knownAddressesNumber chain = i + 1) ∧
    ∀ i ∈ log.queries, s'.account.knownAddressesNumber chain ≤ i →
      coin.usedAt s.account chain i = false
  listed : ∀ log s', exec (coin.scanLog chain gapLimit) s = (.ok log, s') →
    List.Forall₂ (coin.IsEntry chain s.account)
      (List.range' (s.account.knownAddressesNumber chain)
        (s'.account.knownAddressesNumber chain - s.account.knownAddressesNumber chain))
      log.balances

variable (coin chain gapLimit) in
/-- The scan stops where it is documented to, and accepts what it has found. -/
structure ScansAsDocumented (s : AccountState XPub Address) : Prop where
  stops : ∀ log s', exec (coin.scanLog chain gapLimit) s = (.ok log, s') →
    IsLeast (coin.scanStops chain s.account gapLimit) log.queries.length
  accepted : ∀ log s', exec (coin.scanLoopFrom s.account chain gapLimit) s = (.ok log, s') →
    (∃ i ∈ log.queries, coin.usedAt s.account chain i) →
    (exec (coin.setKnownAddressesNumber chain (log.checkingAddressId - log.unused)) s').1 ≠
      .error (.addressLimitReached s'.account.addressLimit)

variable (coin chain gapLimit) in
/-- No gap ends below the address limit, and the last id is not used. -/
structure NoGap (a : HDAccount XPub Address) : Prop where
  short : ∀ n, a.knownAddressesNumber chain + n < a.addressLimit →
    coin.unusedRow chain a n < gapLimit
  last : coin.usedAt a chain (a.addressLimit - 1) = false

theorem scanSound {s : AccountState XPub Address} (hs : s.Sound coin) :
    coin.ScanSound chain gapLimit s := by
  have hends : ∀ log s', exec (coin.scanLog chain gapLimit) s = (.ok log, s') →
      ∃ n, coin.LogAfter chain gapLimit s.account log n ∧
        s'.account.knownAddressesNumber chain =
          s.account.knownAddressesNumber chain + n - coin.unusedRow chain s.account n := by
    intro log s' hrun
    obtain ⟨n, hafter, hknown⟩ := ((scanLog_ends hs).of_ok hrun).2
    rw [hknown, Function.update_self]
    exact ⟨n, hafter, rfl⟩
  exact {
    erases := coin.exec_scanLog chain gapLimit s
    unchanged := fun e s' hrun => (coin.scanLog_kept chain gapLimit s).of_error hrun
    ordered := by
      intro log s' hrun
      obtain ⟨n, hafter, _⟩ := hends log s' hrun
      rw [hafter.length_queries]
      exact hafter.scanned.queries
    number := by
      intro log s' hrun
      obtain ⟨n, hafter, hknown⟩ := hends log s' hrun
      have hle : coin.unusedRow chain s.account n ≤ n := trail_le
      rw [hknown]
      constructor
      · by_cases hrow : coin.unusedRow chain s.account n < n
        · refine .inr ⟨s.account.knownAddressesNumber chain + n -
            coin.unusedRow chain s.account n - 1, hafter.mem_queries.mpr ⟨by omega, by omega⟩,
            used_before_row hrow, by omega⟩
        · exact .inl (by omega)
      · intro i hi hrow
        have hlow : s.account.knownAddressesNumber chain + n ≤
            i + coin.unusedRow chain s.account n := by omega
        exact unused_of_trail hlow (hafter.mem_queries.mp hi).2
    listed := by
      intro log s' hrun
      obtain ⟨n, hafter, hknown⟩ := hends log s' hrun
      have hle : coin.unusedRow chain s.account n ≤ n := trail_le
      have hcount : s'.account.knownAddressesNumber chain - s.account.knownAddressesNumber chain =
          n - coin.unusedRow chain s.account n := by omega
      rw [hcount]
      exact hafter.scanned.balances }

theorem exec_setKnownAddressesNumber {s : AccountState XPub Address} {num : ℕ}
    (hnum : num < s.account.addressLimit)
    (hstore : coin.updateAddressesNumber chain s.account.accountId num = .ok ()) :
    ∃ s', exec (coin.setKnownAddressesNumber chain num) s = (.ok (), s') := by
  have hget : exec (get : AccountAction XPub Address AccountUpdatingError _) s = (.ok s, s) := rfl
  rw [setKnownAddressesNumber, exec_bind, hget]
  simp only [if_neg (not_le.mpr hnum), exec_bind, exec_ofResult, hstore]
  exact ⟨_, rfl⟩

theorem scansAsDocumented_iff {s : AccountState XPub Address} (hs : s.Sound coin)
    (hanswers : coin.Answers chain s.account) :
    coin.ScansAsDocumented chain gapLimit s ↔
      (s.account.knownAddressesNumber chain < s.account.addressLimit →
        coin.NoGap chain gapLimit s.account) := by
  have hloopEnds : Ends coin (coin.scanLoopFrom s.account chain gapLimit) s _ :=
    scanLoopLog_ends hs ⟨rfl, rfl, rfl⟩ _ rfl Scanned.empty
  obtain ⟨log, s₁, hloop⟩ : ∃ log s₁,
      exec (coin.scanLoopFrom s.account chain gapLimit) s = (.ok log, s₁) := by
    have hsucceeds : coin.Succeeds (coin.scanLoopFrom s.account chain gapLimit) s :=
      scanLoopLog_succeeds hs ⟨rfl, rfl, rfl⟩ hanswers _ (Nat.zero_le _) le_rfl
    rcases hrun : exec (coin.scanLoopFrom s.account chain gapLimit) s with ⟨_ | log, s₁⟩
    · exact (hsucceeds.of_error hrun).elim
    · exact ⟨log, s₁, rfl⟩
  obtain ⟨hgrows, hknown, n, hafter⟩ := hloopEnds.of_ok hloop
  have hleast := hafter.isLeast
  have hrow : coin.unusedRow chain s.account n ≤ n := trail_le
  have hnumber : log.checkingAddressId - log.unused =
      s.account.knownAddressesNumber chain + n - coin.unusedRow chain s.account n := by
    rw [hafter.checking, hafter.unused]
  have hwithin : s.account.addressLimit - s.account.knownAddressesNumber chain ≥ n :=
    hleast.2 (.inl (by omega))
  have hset : log.checkingAddressId - log.unused < s.account.addressLimit →
      ∃ s', exec (coin.scanLog chain gapLimit) s = (.ok log, s') := by
    intro hlt
    have hget : exec (get : AccountAction XPub Address ScanFailure _) s = (.ok s, s) := rfl
    have hle : log.unused ≤ log.checkingAddressId := by
      rw [hafter.checking, hafter.unused]
      omega
    have hstore := hanswers.store _ hlt
    rw [← hgrows.keys.accountId] at hstore
    obtain ⟨s', hs'⟩ := exec_setKnownAddressesNumber (s := s₁) hlt hstore
    rw [scanLog, exec_bind, hget]
    simp only [exec_bind, hloop, exec_checkedSub hle, exec_mapErr, hs']
    exact ⟨s', rfl⟩
  constructor
  · intro h hknownLt
    -- what is found is accepted, so the number stays below the limit
    have hlt : log.checkingAddressId - log.unused < s.account.addressLimit := by
      by_cases hfound : coin.unusedRow chain s.account n < n
      · by_contra hge
        have hmem : s.account.knownAddressesNumber chain + n -
            coin.unusedRow chain s.account n - 1 ∈ log.queries :=
          hafter.mem_queries.mpr ⟨by omega, by omega⟩
        exact h.accepted log s₁ hloop ⟨_, hmem, used_before_row hfound⟩
          (setKnownAddressesNumber_refused.mpr (not_lt.mp hge))
      · omega
    obtain ⟨s', hrun⟩ := hset hlt
    have hstops := h.stops log s' hrun
    rw [hafter.length_queries] at hstops
    have hshort : ∀ n, s.account.knownAddressesNumber chain + n < s.account.addressLimit →
        coin.unusedRow chain s.account n < gapLimit := (isLeast_stops_iff hleast).mp hstops
    -- no gap: all ids up to the limit have been asked for
    have hall : s.account.addressLimit ≤ s.account.knownAddressesNumber chain + n := by
      by_contra hbelow
      have hgap : gapLimit + 1 ≤ coin.unusedRow chain s.account n :=
        hleast.1.resolve_left hbelow
      have := hshort n (not_le.mp hbelow)
      omega
    refine ⟨hshort, ?_⟩
    rw [Bool.eq_false_iff]
    intro hlast
    obtain ⟨m, rfl⟩ : ∃ m, n = m + 1 := Nat.exists_eq_succ_of_ne_zero (by omega)
    have hindex : s.account.addressLimit - 1 = s.account.knownAddressesNumber chain + m := by omega
    have hnone : coin.unusedRow chain s.account (m + 1) = 0 := by
      rw [hindex] at hlast
      exact if_pos hlast
    omega
  · intro h
    constructor
    · intro log' s' hrun
      obtain ⟨n', hafter', _⟩ := ((scanLog_ends hs).of_ok hrun).2
      have hsame : n' = n := hafter'.isLeast.unique hleast
      rw [hafter'.length_queries, hsame]
      by_cases hknownLt : s.account.knownAddressesNumber chain < s.account.addressLimit
      · exact (isLeast_stops_iff hleast).mpr (h hknownLt).short
      · have hzero : n = 0 := by omega
        rw [hzero]
        exact ⟨.inl (by omega), fun m _ => Nat.zero_le m⟩
    · intro log' s₁' hloop' hused
      rw [hloop] at hloop'
      cases hloop'
      obtain ⟨i, hi, _⟩ := hused
      have hi' := hafter.mem_queries.mp hi
      have hnoGap := h (by omega)
      intro hrefused
      have hge := setKnownAddressesNumber_refused.mp hrefused
      have hlimit : s₁.account.addressLimit = s.account.addressLimit := rfl
      have hfound : coin.usedAt s.account chain (s.account.knownAddressesNumber chain + n -
          coin.unusedRow chain s.account n - 1) := used_before_row (by omega)
      have hindex : s.account.knownAddressesNumber chain + n -
          coin.unusedRow chain s.account n - 1 = s.account.addressLimit - 1 := by omega
      rw [hindex, hnoGap.last] at hfound
      cases hfound

end HDCoin

/-- A new account, with its row in the storage. -/
def freshState : AccountState DerivationPath DerivationPath where
  account := .new 0 [] []
  storage := Function.update (fun _ => none) 0 (some (HDAccount.new 0 [] [] :
    HDAccount DerivationPath DerivationPath).toStorageItem)

theorem freshState_sound : freshState.Sound sampleCoin where
  synced := by simp [freshState, HDAccount.new]
  cached id a h := by cases h

theorem freshState_answers (chain : Bip44Chain) : sampleCoin.Answers chain freshState.account where
  derive _ _ := ⟨_, rfl⟩
  status _ _ _ _ := ⟨none, rfl⟩
  store _ _ := rfl

end DeXFG.HdWallet
