import DeXFG.HdWallet.Account

/-!
# The activation of one account

The ids that are reported when an account is activated, and the numbers of known addresses that
the activation leaves.
-/
namespace DeXFG.HdWallet
open Library.Stateful AccountState

variable {XPub Address Balance : Type}

namespace HDCoin

variable (coin : HDCoin XPub Address Balance) {s : AccountState XPub Address}

/-! ## Scanned addresses -/

theorem scanForNewAddressesImpl_ends (h : s.Sound coin) (chain : Bip44Chain) (gapLimit : ℕ) :
    Ends coin (coin.scanForNewAddressesImpl chain gapLimit) s
      (Covers s.account
        (idRange chain (s.account.knownAddressesNumber chain)
          (coin.scannedNumber gapLimit s.account chain))
        (Function.update s.account.knownAddressesNumber chain
          (coin.scannedNumber gapLimit s.account chain))) := by
  rw [scanForNewAddressesImpl, ends_get_bind]
  have hnothing : idRange chain (s.account.knownAddressesNumber chain)
      (s.account.knownAddressesNumber chain) = [] := by simp [idRange]
  have hfirst := Nat.le_refl (s.account.knownAddressesNumber chain)
  apply Ends.bind (coin.scanLoop_ends h chain gapLimit hfirst _ 0 []
    (by simp [Reports, hnothing]) (by simp [hnothing]))
  rintro ⟨balances, num⟩ s' hs' ⟨hnum, hcovers⟩
  dsimp only at hnum hcovers ⊢
  have hsame : num = coin.scannedNumber gapLimit s.account chain := hnum
  subst hsame
  have hle : s'.account.knownAddressesNumber chain ≤
      coin.scannedNumber gapLimit s.account chain := by
    rw [hcovers.known]
    exact coin.known_le_scannedNumber gapLimit s.account chain
  apply Ends.bind (ends_mapErr.mpr (coin.setKnownAddressesNumber_ends hs'.sound hle))
  intro _ s'' hs'' hknown
  apply ends_pure hs''.sound
  constructor
  · rw [hknown, hcovers.known]
  · exact hcovers.reports
  · exact fun id hid => hs''.mono_cached (hcovers.cached id hid)

/-- The numbers of known addresses after the scan, where there is one. -/
def afterScan (scanNewAddresses : Bool) (gapLimit : ℕ) (a : HDAccount XPub Address)
    (c : Bip44Chain) : ℕ :=
  if scanNewAddresses ∧ c ∈ coin.protocol.chains then coin.scannedNumber gapLimit a c
  else a.knownAddressesNumber c

theorem known_le_afterScan (scanNewAddresses : Bool) (gapLimit : ℕ) (a : HDAccount XPub Address)
    (c : Bip44Chain) : a.knownAddressesNumber c ≤ coin.afterScan scanNewAddresses gapLimit a c := by
  rw [afterScan]
  split
  · exact coin.known_le_scannedNumber gapLimit a c
  · exact Nat.le_refl _

theorem scannedNumber_of_sameKeys {a a' : HDAccount XPub Address} (h : SameKeys a a')
    (gapLimit : ℕ) {c : Bip44Chain}
    (hknown : a'.knownAddressesNumber c = a.knownAddressesNumber c) :
    coin.scannedNumber gapLimit a' c = coin.scannedNumber gapLimit a c := by
  simp [scannedNumber, coin.usedAt_of_sameKeys h, hknown, HDAccount.addressLimit]

theorem scanForNewAddresses_ends (h : s.Sound coin) (gapLimit : ℕ) :
    Ends coin (coin.scanForNewAddresses gapLimit) s
      (Covers s.account
        (coin.protocol.chains.flatMap fun c => idRange c (s.account.knownAddressesNumber c)
          (coin.afterScan true gapLimit s.account c))
        (coin.afterScan true gapLimit s.account)) := by
  rw [scanForNewAddresses]
  cases hprotocol : coin.protocol with
  | utxo =>
    apply Ends.bind (coin.scanForNewAddressesImpl_ends h _ _)
    intro balances s' hs' hcovers
    apply Ends.bind (coin.scanForNewAddressesImpl_ends hs'.sound _ _)
    intro more s'' hs'' hmore
    apply ends_pure hs''.sound
    have hboth := hcovers.append hs' hs'' hmore
    have hinternal : s'.account.knownAddressesNumber .internal =
        s.account.knownAddressesNumber .internal := by simp [hcovers.known]
    rw [coin.scannedNumber_of_sameKeys hs'.keys gapLimit hinternal, hinternal,
      hcovers.known] at hboth
    have hnumbers : coin.afterScan true gapLimit s.account =
        Function.update (Function.update s.account.knownAddressesNumber .external
          (coin.scannedNumber gapLimit s.account .external)) .internal
          (coin.scannedNumber gapLimit s.account .internal) := by
      funext c
      cases c <;> simp [afterScan, hprotocol, CoinProtocol.chains]
    rw [hnumbers]
    simpa [CoinProtocol.chains] using hboth
  | eth =>
    have hnumbers : coin.afterScan true gapLimit s.account =
        Function.update s.account.knownAddressesNumber .external
          (coin.scannedNumber gapLimit s.account .external) := by
      funext c
      cases c <;> simp [afterScan, hprotocol, CoinProtocol.chains]
    rw [hnumbers]
    simpa [CoinProtocol.chains] using coin.scanForNewAddressesImpl_ends h .external gapLimit

/-- The ids of the known addresses, with those that are known after the scan. -/
def scannedIds (scanNewAddresses : Bool) (gapLimit : ℕ) (a : HDAccount XPub Address) :
    List HDAddressId :=
  (coin.protocol.chains.flatMap fun c => idRange c 0 (a.knownAddressesNumber c)) ++
    coin.protocol.chains.flatMap fun c => idRange c (a.knownAddressesNumber c)
      (coin.afterScan scanNewAddresses gapLimit a c)

theorem afterScan_of_sameKeys {a a' : HDAccount XPub Address} (h : SameKeys a a')
    (scanNewAddresses : Bool) (gapLimit : ℕ)
    (hknown : a'.knownAddressesNumber = a.knownAddressesNumber) :
    coin.afterScan scanNewAddresses gapLimit a' = coin.afterScan scanNewAddresses gapLimit a := by
  funext c
  simp [afterScan, coin.scannedNumber_of_sameKeys h gapLimit (congrFun hknown c), hknown]

theorem scanIf_ends (h : s.Sound coin) (scanNewAddresses : Bool) (gapLimit : ℕ)
    {a : HDAccount XPub Address} (hkeys : SameKeys a s.account)
    {addresses : List (HDAddressBalance Address Balance)}
    (hknown : Covers a
      (coin.protocol.chains.flatMap fun c => idRange c 0 (a.knownAddressesNumber c))
      a.knownAddressesNumber addresses s) :
    Ends coin (coin.scanIf scanNewAddresses gapLimit addresses) s
      (Covers a (coin.scannedIds scanNewAddresses gapLimit a)
        (coin.afterScan scanNewAddresses gapLimit a)) := by
  rw [scanIf]
  split
  · next hscan =>
    apply Ends.bind (ends_mapErr.mpr (coin.scanForNewAddresses_ends h gapLimit))
    intro more s' hs' hmore
    apply ends_pure hs'.sound
    rw [coin.afterScan_of_sameKeys hkeys true gapLimit hknown.known, hknown.known] at hmore
    rw [scannedIds, hscan]
    constructor
    · exact hmore.known
    · exact hknown.reports.append (hkeys.reports.mp hmore.reports)
    · intro id hid
      cases List.mem_append.mp hid with
      | inl hid => exact hs'.mono_cached (hknown.cached id hid)
      | inr hid => exact hmore.cached id hid
  · next hscan =>
    apply ends_pure h
    have hsame : coin.afterScan scanNewAddresses gapLimit a = a.knownAddressesNumber := by
      funext c
      simp [afterScan, hscan]
    have hnothing : (coin.protocol.chains.flatMap fun c =>
        idRange c (a.knownAddressesNumber c) (a.knownAddressesNumber c)) = [] := by simp [idRange]
    rw [scannedIds, hsame, hnothing, List.append_nil]
    exact hknown

/-! ## Generated addresses -/

/-- So many new addresses of the chain. -/
def Generated (s : AccountState XPub Address) (chain : Bip44Chain) (count : ℕ)
    (hdAddresses : List (HDAddress Address)) (s' : AccountState XPub Address) : Prop :=
  let num := s.account.knownAddressesNumber chain
  let ids := idRange chain num (num + count)
  s'.account.knownAddressesNumber =
      Function.update s.account.knownAddressesNumber chain (num + count) ∧
    hdAddresses.map HDAddress.derivationPath = ids.map s.account.addressPath ∧
    ∀ id ∈ ids, s'.account.Cached id

theorem generate_ends (h : s.Sound coin) (chain : Bip44Chain) (toGenerate : ℕ) :
    Ends coin ((List.range toGenerate).mapM fun _ =>
        mapErr EnableCoinBalanceError.newAddressDerivingError (coin.generateNewAddress chain)) s
      (Generated s chain toGenerate) := by
  have hrun : Ends coin ((List.range toGenerate).mapM fun _ =>
      mapErr EnableCoinBalanceError.newAddressDerivingError (coin.generateNewAddress chain)) s
      fun hdAddresses s' => Generated s chain (List.range toGenerate).length hdAddresses s' := by
    apply ends_mapM (I := fun done hdAddresses s' => Generated s chain done.length hdAddresses s') h
    · simp [Generated, idRange]
    · intro done _ hdAddresses s' hs' hdone
      apply (ends_mapErr.mpr (coin.generateNewAddress_ends hs'.sound chain)).mono
      rintro a s'' hs'' ⟨hknown, hpath, hcached⟩
      obtain ⟨hnum, hpaths, hall⟩ := hdone
      have hlast : s'.account.knownAddressesNumber chain =
          s.account.knownAddressesNumber chain + done.length := by simp [hnum]
      have hids : idRange chain (s.account.knownAddressesNumber chain)
          (s.account.knownAddressesNumber chain + (done.length + 1)) =
          idRange chain (s.account.knownAddressesNumber chain)
            (s.account.knownAddressesNumber chain + done.length) ++
          [{ chain, addressId := s.account.knownAddressesNumber chain + done.length }] := by
        rw [← idRange_succ, idRange_append chain (by omega) (by omega), Nat.add_assoc]
      simp only [Generated, List.length_append, List.length_singleton, hids]
      constructor
      · simp [hknown, hlast, hnum, Nat.add_assoc]
      · constructor
        · simp [hpaths, hpath, hlast, hs'.keys.addressPath]
        · intro id hid
          rw [hlast] at hcached
          simp only [List.mem_append, List.mem_singleton] at hid
          rcases hid with hid | rfl
          · exact hs''.mono_cached (hall id hid)
          · exact hcached
  simpa using hrun

/-- How many addresses are missing to the number that is asked for. -/
def missing (minAddressesNumber : Option ℕ) (present : ℕ) : ℕ :=
  minAddressesNumber.getD 0 - present

theorem map_withBalances (chain : Bip44Chain) {hdAddresses : List (HDAddress Address)}
    {balances : List (Address × Balance)}
    (h : balances.map Prod.fst = hdAddresses.map HDAddress.address) :
    (List.zipWith (fun (_, balance) hdAddress =>
      { coin.emptyBalance chain hdAddress with balance }) balances hdAddresses).map
        HDAddressBalance.derivationPath = hdAddresses.map HDAddress.derivationPath := by
  induction hdAddresses generalizing balances with
  | nil => simp
  | cons a rest ih =>
    cases balances with
    | nil => simp at h
    | cons b balances =>
      simp only [List.map_cons, List.cons.injEq] at h
      simpa [emptyBalance] using ih h.2

theorem genIf_ends (h : s.Sound coin) (chain : Bip44Chain) (minAddressesNumber : Option ℕ)
    {a : HDAccount XPub Address} (hkeys : SameKeys a s.account) {ids : List HDAddressId}
    {known : Bip44Chain → ℕ} {addresses : List (HDAddressBalance Address Balance)}
    (hcovers : Covers a ids known addresses s) :
    Ends coin (coin.genIf chain addresses minAddressesNumber) s
      (Covers a (ids ++ idRange chain (known chain)
          (known chain + missing minAddressesNumber ids.length))
        (Function.update known chain
          (known chain + missing minAddressesNumber ids.length))) := by
  have hnothing {num : ℕ} (hnum : num = 0) : Covers a
      (ids ++ idRange chain (known chain) (known chain + num))
      (Function.update known chain (known chain + num)) addresses s := by
    simpa [hnum, idRange] using hcovers
  cases minAddressesNumber with
  | none =>
    apply ends_pure h
    exact hnothing (by simp [missing])
  | some minAddressesNumber =>
    rw [genIf, genNewAddresses, ends_get_bind]
    split
    · exact ends_throw h
    · rw [hcovers.reports.length]
      split
      · apply ends_pure h
        exact hnothing (by simpa [missing] using by omega)
      · apply Ends.bind (coin.generate_ends h chain _)
        rintro newAddresses s' hs' ⟨hknown, hpaths, hcached⟩
        apply ends_ofResult_bind hs'.sound
        intro balances hbalances
        apply ends_pure hs'.sound
        have hanswer : coin.knownAddressesBalances (newAddresses.map HDAddress.address) =
            .ok balances := by
          cases hask : coin.knownAddressesBalances (newAddresses.map HDAddress.address) with
          | error e => simp [hask, Except.mapError] at hbalances
          | ok b => simpa [hask, Except.mapError] using hbalances
        rw [hcovers.known] at hknown hpaths hcached
        constructor
        · exact hknown
        · apply hcovers.reports.append
          rw [Reports, coin.map_withBalances chain (coin.knownAddressesBalances_fst _ _ hanswer),
            hpaths, funext hkeys.addressPath]
          rfl
        · intro id hid
          cases List.mem_append.mp hid with
          | inl hid => exact hs'.mono_cached (hcovers.cached id hid)
          | inr hid => exact hcached id hid

/-! ## The account -/

/-- The ids of all addresses that are reported when the account is activated. -/
def reportedIds (chain : Bip44Chain) (gapLimit : ℕ) (scanNewAddresses : Bool)
    (minAddressesNumber : Option ℕ) (a : HDAccount XPub Address) : List HDAddressId :=
  let ids := coin.scannedIds scanNewAddresses gapLimit a
  let num := coin.afterScan scanNewAddresses gapLimit a chain
  ids ++ idRange chain num (num + missing minAddressesNumber ids.length)

/-- The numbers of known addresses that the activation leaves. -/
def finalNumbers (chain : Bip44Chain) (gapLimit : ℕ) (scanNewAddresses : Bool)
    (minAddressesNumber : Option ℕ) (a : HDAccount XPub Address) : Bip44Chain → ℕ :=
  let num := coin.afterScan scanNewAddresses gapLimit a
  Function.update num chain (num chain +
    missing minAddressesNumber (coin.scannedIds scanNewAddresses gapLimit a).length)

theorem enableHdAccount_ends (h : s.Sound coin) (chain : Bip44Chain) (gapLimit : ℕ)
    (scanNewAddresses : Bool) (minAddressesNumber : Option ℕ) :
    Ends coin (coin.enableHdAccount chain gapLimit scanNewAddresses minAddressesNumber) s
      fun accountBalance => Covers s.account
        (coin.reportedIds chain gapLimit scanNewAddresses minAddressesNumber s.account)
        (coin.finalNumbers chain gapLimit scanNewAddresses minAddressesNumber s.account)
        accountBalance.addresses := by
  rw [enableHdAccount]
  apply Ends.bind (ends_mapErr.mpr (coin.allKnownAddressesBalances_ends h))
  intro known s₁ h₁ hknown
  apply Ends.bind (coin.scanIf_ends h₁.sound scanNewAddresses gapLimit h₁.keys hknown)
  intro scanned s₂ h₂ hscanned
  apply Ends.bind (coin.genIf_ends h₂.sound chain minAddressesNumber (h₁.trans h₂).keys hscanned)
  intro addresses s₃ h₃ haddresses
  rw [ends_get_bind]
  exact ends_pure h₃.sound haddresses

/-! ## What is reported, and how often -/

variable (chain : Bip44Chain) (gapLimit : ℕ) (scanNewAddresses : Bool)
  (minAddressesNumber : Option ℕ) (a : HDAccount XPub Address)

theorem nodup_chains : coin.protocol.chains.Nodup := by
  cases coin.protocol <;> simp [CoinProtocol.chains]

theorem mem_scannedIds {id : HDAddressId} : id ∈ coin.scannedIds scanNewAddresses gapLimit a ↔
    id.chain ∈ coin.protocol.chains ∧
      id.addressId < coin.afterScan scanNewAddresses gapLimit a id.chain := by
  have hle := coin.known_le_afterScan scanNewAddresses gapLimit a id.chain
  simp only [scannedIds, List.mem_append, List.mem_flatMap, mem_idRange]
  constructor
  · rintro (⟨c, hc, rfl, hid⟩ | ⟨c, hc, rfl, hid⟩)
    · exact ⟨hc, by omega⟩
    · exact ⟨hc, hid.2⟩
  · rintro ⟨hc, hid⟩
    by_cases hold : id.addressId < a.knownAddressesNumber id.chain
    · exact .inl ⟨id.chain, hc, rfl, Nat.zero_le _, hold⟩
    · exact .inr ⟨id.chain, hc, rfl, by omega, hid⟩

/-- Ranges of different chains have no id in common. -/
theorem nodup_flatMap_idRange (first last : Bip44Chain → ℕ) :
    (coin.protocol.chains.flatMap fun c => idRange c (first c) (last c)).Nodup := by
  rw [List.nodup_flatMap]
  constructor
  · exact fun c _ => nodup_idRange c _ _
  · apply coin.nodup_chains.imp
    intro c c' hne id hid hid'
    exact hne ((mem_idRange.mp hid).1.symm.trans (mem_idRange.mp hid').1)

theorem nodup_scannedIds : (coin.scannedIds scanNewAddresses gapLimit a).Nodup := by
  apply (coin.nodup_flatMap_idRange _ _).append (coin.nodup_flatMap_idRange _ _)
  intro id hid hid'
  simp only [List.mem_flatMap, mem_idRange] at hid hid'
  obtain ⟨c, -, rfl, -, hlt⟩ := hid
  obtain ⟨c, -, rfl, hle, -⟩ := hid'
  omega

theorem nodup_reportedIds :
    (coin.reportedIds chain gapLimit scanNewAddresses minAddressesNumber a).Nodup := by
  apply (coin.nodup_scannedIds _ _ _).append (nodup_idRange _ _ _)
  intro id hid hid'
  rw [mem_scannedIds] at hid
  rw [mem_idRange] at hid'
  rw [hid'.1] at hid
  omega

theorem length_scannedIds : (coin.scannedIds scanNewAddresses gapLimit a).length =
    (coin.protocol.chains.map (coin.afterScan scanNewAddresses gapLimit a)).sum := by
  have hle := coin.known_le_afterScan scanNewAddresses gapLimit a
  have hexternal := hle .external
  have hinternal := hle .internal
  cases hprotocol : coin.protocol <;>
    simp [scannedIds, hprotocol, CoinProtocol.chains] <;> omega

theorem afterScan_of_notMem {c : Bip44Chain} (hc : c ∉ coin.protocol.chains) :
    coin.afterScan scanNewAddresses gapLimit a c = a.knownAddressesNumber c := by
  simp [afterScan, hc]

theorem afterScan_le_finalNumbers (c : Bip44Chain) :
    coin.afterScan scanNewAddresses gapLimit a c ≤
      coin.finalNumbers chain gapLimit scanNewAddresses minAddressesNumber a c := by
  by_cases hc : c = chain
  · subst hc
    simp [finalNumbers]
  · simp [finalNumbers, hc]

/-- Known addresses are left out of the report on a chain that the coin does not ask for. -/
theorem reports_all_known_iff :
    (∀ c addressId, addressId <
        coin.finalNumbers chain gapLimit scanNewAddresses minAddressesNumber a c →
      { chain := c, addressId } ∈
        coin.reportedIds chain gapLimit scanNewAddresses minAddressesNumber a) ↔
      ∀ c ∉ coin.protocol.chains, a.knownAddressesNumber c = 0 := by
  have hmem (c : Bip44Chain) (i : ℕ) : { chain := c, addressId := i } ∈
      coin.reportedIds chain gapLimit scanNewAddresses minAddressesNumber a ↔
      c ∈ coin.protocol.chains ∧ i < coin.afterScan scanNewAddresses gapLimit a c ∨
      c = chain ∧ coin.afterScan scanNewAddresses gapLimit a chain ≤ i ∧
        i < coin.finalNumbers chain gapLimit scanNewAddresses minAddressesNumber a chain := by
    simp only [reportedIds, finalNumbers, List.mem_append, mem_scannedIds, mem_idRange,
      Function.update_self]
  simp only [hmem]
  constructor
  · intro h c hc
    have hsame := coin.afterScan_of_notMem gapLimit scanNewAddresses a hc
    have hle := coin.afterScan_le_finalNumbers chain gapLimit scanNewAddresses
      minAddressesNumber a c
    by_contra hzero
    rcases h c 0 (by omega) with hfound | ⟨rfl, hfound⟩
    · exact hc hfound.1
    · omega
  · intro h c i hi
    by_cases hscan : i < coin.afterScan scanNewAddresses gapLimit a c
    · by_cases hc : c ∈ coin.protocol.chains
      · exact .inl ⟨hc, hscan⟩
      · have hsame := coin.afterScan_of_notMem gapLimit scanNewAddresses a hc
        have hzero := h c hc
        omega
    · by_cases hc : c = chain
      · subst hc
        exact .inr ⟨rfl, by omega, hi⟩
      · simp [finalNumbers, hc, hscan] at hi

/-- The addresses that count towards the number asked for without being on the chain. -/
def others : ℕ :=
  ((coin.protocol.chains.erase chain).map (coin.afterScan scanNewAddresses gapLimit a)).sum

theorem lt_finalNumbers_iff {addressId : ℕ}
    (hzero : chain ∉ coin.protocol.chains → a.knownAddressesNumber chain = 0) :
    addressId < coin.finalNumbers chain gapLimit scanNewAddresses minAddressesNumber a chain ↔
      addressId < coin.afterScan scanNewAddresses gapLimit a chain ∨
        addressId + coin.others chain gapLimit scanNewAddresses a < minAddressesNumber.getD 0 := by
  rw [finalNumbers, Function.update_self, missing, length_scannedIds, others]
  by_cases hchain : chain ∈ coin.protocol.chains
  · have hsum := List.sum_map_erase (coin.afterScan scanNewAddresses gapLimit a) hchain
    omega
  · have hsame := coin.afterScan_of_notMem gapLimit scanNewAddresses a hchain
    have hnone := hzero hchain
    rw [List.erase_of_not_mem hchain]
    omega

end HDCoin

end DeXFG.HdWallet
