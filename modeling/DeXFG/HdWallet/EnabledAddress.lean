import DeXFG.HdWallet.Wallet

/-!
# The enabled address

When an activation that succeeds has indexed the address of its path and reported every known
address once.
-/
namespace DeXFG.HdWallet
open Library.Stateful AccountState

variable {XPub Address Balance : Type}

/-- The derivation paths of all reported addresses. -/
def reportedPaths (report : HDWalletBalance Address Balance) : List DerivationPath :=
  (report.flatMap HDAccountBalance.addresses).map HDAddressBalance.derivationPath

/-- The known addresses of these accounts are each reported once. -/
def ReportedOnce (accounts : List (HDAccount XPub Address))
    (report : HDWalletBalance Address Balance) : Prop :=
  ∀ a ∈ accounts, ∀ c i, i < a.knownAddressesNumber c →
    (reportedPaths report).count (a.addressPath { chain := c, addressId := i }) = 1

namespace HDCoin

variable (coin : HDCoin XPub Address Balance)

/-- The account of the path knows the address of the path, and it is the enabled one. -/
def Indexed (path : HDPathAccountToAddressId) (wallet : HDWallet XPub Address) : Prop :=
  ∃ a, wallet.getAccount path.accountId = some a ∧
    path.addressId < a.knownAddressesNumber path.chain ∧
    ∃ hdAddress, coin.deriveHDAddress a path.hdAddressId = .ok hdAddress ∧
      wallet.getEnabledAddress = some hdAddress

section Report

variable {coin} {params : EnabledCoinBalanceParams} {path : HDPathAccountToAddressId}
  {gapLimit : ℕ} {scanNewAddresses : Bool} {accounts accounts' : List (HDAccount XPub Address)}
  {report : HDWalletBalance Address Balance} {walletPath : DerivationPath}

theorem ActivatedAll.reportedPaths_eq
    (h : coin.ActivatedAll params path gapLimit scanNewAddresses accounts accounts' report) :
    reportedPaths report = accounts.flatMap fun a =>
      (coin.reportedIds path.chain gapLimit scanNewAddresses (minFor params path a) a).map
        a.addressPath := by
  induction h with
  | nil => rfl
  | cons head _ ih =>
    rw [List.flatMap_cons, ← ih, ← head.reports]
    simp [reportedPaths]

/-- Addresses of different accounts have different paths. -/
theorem accountId_eq_of_addressPath {a b : HDAccount XPub Address} {id id' : HDAddressId}
    (ha : a.accountDerivationPath = walletPath ++ [HARDENED_FLAG + a.accountId])
    (hb : b.accountDerivationPath = walletPath ++ [HARDENED_FLAG + b.accountId])
    (h : a.addressPath id = b.addressPath id') : a.accountId = b.accountId := by
  simp only [HDAccount.addressPath, ha, hb, List.append_assoc] at h
  have hrest := List.append_cancel_left h
  simp at hrest
  exact hrest.1

theorem ActivatedAll.nodup_reportedPaths
    (h : coin.ActivatedAll params path gapLimit scanNewAddresses accounts accounts' report)
    (hsorted : accounts.Pairwise fun a b => a.accountId < b.accountId)
    (hpaths : ∀ a ∈ accounts,
      a.accountDerivationPath = walletPath ++ [HARDENED_FLAG + a.accountId]) :
    (reportedPaths report).Nodup := by
  rw [h.reportedPaths_eq, List.nodup_flatMap]
  constructor
  · intro a _
    exact (coin.nodup_reportedIds _ _ _ _ a).map (addressPath_injective a)
  · apply hsorted.imp_of_mem
    intro a b ha hb hlt p hp hp'
    simp only [List.mem_map] at hp hp'
    obtain ⟨id, -, rfl⟩ := hp
    obtain ⟨id', -, hid'⟩ := hp'
    have hsame := accountId_eq_of_addressPath (hpaths b hb) (hpaths a ha) hid'
    omega

theorem ActivatedAll.mem_reportedPaths
    (h : coin.ActivatedAll params path gapLimit scanNewAddresses accounts accounts' report)
    (hsorted : accounts.Pairwise fun a b => a.accountId < b.accountId)
    (hpaths : ∀ a ∈ accounts,
      a.accountDerivationPath = walletPath ++ [HARDENED_FLAG + a.accountId])
    {a : HDAccount XPub Address} (ha : a ∈ accounts) {id : HDAddressId} :
    a.addressPath id ∈ reportedPaths report ↔
      id ∈ coin.reportedIds path.chain gapLimit scanNewAddresses (minFor params path a) a := by
  simp only [h.reportedPaths_eq, List.mem_flatMap, List.mem_map]
  constructor
  · rintro ⟨b, hb, id', hid', heq⟩
    have hids : (accounts.map HDAccount.accountId).Nodup :=
      (HDWallet.pairwise_accountId_iff.mp hsorted).imp Nat.ne_of_lt
    have hsame : b = a := List.inj_on_of_nodup_map hids hb ha
      (accountId_eq_of_addressPath (hpaths b hb) (hpaths a ha) heq)
    subst hsame
    exact addressPath_injective b heq ▸ hid'
  · exact fun hid => ⟨a, ha, id, hid, rfl⟩

theorem ActivatedAll.exists_left
    (h : coin.ActivatedAll params path gapLimit scanNewAddresses accounts accounts' report) :
    ∀ a' ∈ accounts', ∃ a ∈ accounts, ∃ accountBalance,
      coin.Activated params path gapLimit scanNewAddresses a a' accountBalance := by
  induction h with
  | nil => simp
  | cons head _ ih =>
    simp only [List.mem_cons]
    grind

theorem ActivatedAll.exists_right
    (h : coin.ActivatedAll params path gapLimit scanNewAddresses accounts accounts' report) :
    ∀ a ∈ accounts, ∃ a' ∈ accounts', ∃ accountBalance,
      coin.Activated params path gapLimit scanNewAddresses a a' accountBalance := by
  induction h with
  | nil => simp
  | cons head _ ih =>
    simp only [List.mem_cons]
    grind

/-- The known addresses of the activated accounts are reported, but for those of chains that the
coin does not ask for. -/
theorem ActivatedAll.reportedOnce_iff
    (h : coin.ActivatedAll params path gapLimit scanNewAddresses accounts accounts' report)
    (hsorted : accounts.Pairwise fun a b => a.accountId < b.accountId)
    (hpaths : ∀ a ∈ accounts,
      a.accountDerivationPath = walletPath ++ [HARDENED_FLAG + a.accountId]) :
    ReportedOnce accounts' report ↔
      ∀ a ∈ accounts, ∀ c ∉ coin.protocol.chains, a.knownAddressesNumber c = 0 := by
  have hcount (a : HDAccount XPub Address) (ha : a ∈ accounts) (id : HDAddressId) :
      (reportedPaths report).count (a.addressPath id) = 1 ↔
        id ∈ coin.reportedIds path.chain gapLimit scanNewAddresses (minFor params path a) a := by
    rw [(h.nodup_reportedPaths hsorted hpaths).count, ← h.mem_reportedPaths hsorted hpaths ha]
    simp
  constructor
  · intro honce a ha
    obtain ⟨a', ha', b, hactive⟩ := h.exists_right a ha
    rw [← coin.reports_all_known_iff path.chain gapLimit scanNewAddresses (minFor params path a) a]
    intro c i hi
    rw [← hcount a ha, ← hactive.keys.addressPath]
    apply honce a' ha'
    rw [hactive.known]
    exact hi
  · intro hzero a' ha' c i hi
    obtain ⟨a, ha, b, hactive⟩ := h.exists_left a' ha'
    rw [hactive.known] at hi
    rw [hactive.keys.addressPath, hcount a ha]
    exact (coin.reports_all_known_iff _ _ _ _ a).mpr (hzero a ha) c i hi

/-- What is known of an activated account is in its cache, where all of it is reported. -/
theorem Activated.cached_of_lt {a a' : HDAccount XPub Address}
    {accountBalance : HDAccountBalance Address Balance}
    (h : coin.Activated params path gapLimit scanNewAddresses a a' accountBalance)
    (hzero : ∀ c ∉ coin.protocol.chains, a.knownAddressesNumber c = 0) {c : Bip44Chain} {i : ℕ}
    (hi : i < a'.knownAddressesNumber c) : a'.Cached { chain := c, addressId := i } := by
  rw [h.known] at hi
  exact h.cached _ ((coin.reports_all_known_iff _ _ _ _ a).mpr hzero c i hi)

end Report

/-! ## When the address of the path is indexed -/

section Indexed

variable {coin} {wallet wallet' : HDWallet XPub Address} {params : EnabledCoinBalanceParams}
  {path : HDPathAccountToAddressId}

/-- The enabled address is that of the path only where the wallet was made for this path. -/
theorem indexed_iff (h : wallet.Sound coin) {a : HDAccount XPub Address}
    (ha : wallet.getAccount path.accountId = some a)
    (hcached : path.addressId < a.knownAddressesNumber path.chain →
      a.Cached path.hdAddressId) :
    coin.Indexed path wallet ↔ wallet.enabledAddress = path ∧
      path.addressId < a.knownAddressesNumber path.chain := by
  constructor
  · rintro ⟨a', ha', hlt, hdAddress, hderive, henabled⟩
    have hsame : a' = a := Option.some.inj (ha'.symm.trans ha)
    subst hsame
    obtain ⟨hmem, hid⟩ := (HDWallet.getAccount_eq_some h.sorted).mp ha
    obtain ⟨b, hb, hcache⟩ := Option.bind_eq_some_iff.mp henabled
    obtain ⟨hmemb, hidb⟩ := (HDWallet.getAccount_eq_some h.sorted).mp hb
    have hpath := coin.derivationPath_of_deriveHDAddress hderive
    rw [coin.derivationPath_of_deriveHDAddress ((h.stored b hmemb).cached _ _ hcache)] at hpath
    have hids := accountId_eq_of_addressPath (h.paths b hmemb) (h.paths a' hmem) hpath
    have hwallet : wallet.enabledAddress.accountId = path.accountId := by omega
    rw [hwallet] at hb
    have hsame : b = a' := Option.some.inj (hb.symm.trans ha)
    subst hsame
    have hinner := addressPath_injective b hpath
    simp only [HDPathAccountToAddressId.hdAddressId, HDAddressId.mk.injEq] at hinner
    constructor
    · cases hpath' : wallet.enabledAddress
      cases path
      simp_all
    · exact hlt
  · rintro ⟨henabled, hlt⟩
    obtain ⟨hmem, -⟩ := (HDWallet.getAccount_eq_some h.sorted).mp ha
    obtain ⟨hdAddress, hcache⟩ := hcached hlt
    exact ⟨a, ha, hlt, hdAddress, (h.stored a hmem).cached _ _ hcache,
      by simp [HDWallet.getEnabledAddress, henabled, ha, hcache]⟩

end Indexed

/-- The account that an activation finds at the path, or makes. -/
def pathAccount (wallet : HDWallet XPub Address) (path : HDPathAccountToAddressId) :
    Option (HDAccount XPub Address) :=
  match wallet.getAccount path.accountId with
  | some a => some a
  | none =>
    let accountDerivationPath := wallet.derivationPath ++ [HARDENED_FLAG + path.accountId]
    match coin.extractExtendedPubkey accountDerivationPath with
    | .ok accountPubkey => some (HDAccount.new path.accountId accountPubkey accountDerivationPath)
    | .error _ => none

/-- The accounts are scanned, or the new one is. -/
def scans (wallet : HDWallet XPub Address) (params : EnabledCoinBalanceParams)
    (path : HDPathAccountToAddressId) : Bool :=
  match wallet.getAccount path.accountId with
  | some _ => params.scanPolicy = .scan
  | none => params.scanPolicy = .scanIfNewWallet ∨ params.scanPolicy = .scan

/-- The wallet was made for the path, no address is known on a chain that the coin does not ask
for, a wallet without the account of the path knows no address at all, and the address of the path
is known after the scan or comes within the number of addresses asked for when those of the other
chain are counted too. -/
structure IndexesPath (wallet : HDWallet XPub Address) (params : EnabledCoinBalanceParams)
    (path : HDPathAccountToAddressId) : Prop where
  enabled : wallet.enabledAddress = path
  chains : ∀ a ∈ wallet.accounts, ∀ c ∉ coin.protocol.chains, a.knownAddressesNumber c = 0
  found : wallet.getAccount path.accountId = none →
    ∀ a ∈ wallet.accounts, ∀ c, a.knownAddressesNumber c = 0
  enough : ∀ a, coin.pathAccount wallet path = some a →
    path.addressId < coin.afterScan (scans wallet params path) wallet.gapLimit a path.chain ∨
      path.addressId + coin.others path.chain wallet.gapLimit (scans wallet params path) a <
        (minFor params path a).getD 0

section Outcomes

variable {coin} {wallet : HDWallet XPub Address} {params : EnabledCoinBalanceParams}
  {path : HDPathAccountToAddressId}

theorem Activated.lt_iff {gapLimit : ℕ} {scanNewAddresses : Bool} {a a' : HDAccount XPub Address}
    {accountBalance : HDAccountBalance Address Balance}
    (h : coin.Activated params path gapLimit scanNewAddresses a a' accountBalance)
    (hzero : ∀ c ∉ coin.protocol.chains, a.knownAddressesNumber c = 0) :
    path.addressId < a'.knownAddressesNumber path.chain ↔
      path.addressId < coin.afterScan scanNewAddresses gapLimit a path.chain ∨
        path.addressId + coin.others path.chain gapLimit scanNewAddresses a <
          (minFor params path a).getD 0 := by
  rw [h.known]
  exact coin.lt_finalNumbers_iff path.chain gapLimit scanNewAddresses _ a (hzero path.chain)

/-- The accounts were found and all of them have been activated. -/
theorem found_iff {a : HDAccount XPub Address} {accounts : List (HDAccount XPub Address)}
    {storage : HDWalletCoinStorage XPub} {report : HDWalletBalance Address Balance}
    (h : wallet.Sound coin) (ha : wallet.getAccount path.accountId = some a)
    (hactive : coin.ActivatedAll params path wallet.gapLimit (params.scanPolicy = .scan)
      wallet.accounts accounts report)
    (h' : HDWallet.Sound coin { wallet with accounts, hdWalletStorage := storage }) :
    coin.Indexed path { wallet with accounts, hdWalletStorage := storage } ∧
        ReportedOnce accounts report ↔ coin.IndexesPath wallet params path := by
  obtain ⟨hmem, hid⟩ := (HDWallet.getAccount_eq_some h.sorted).mp ha
  obtain ⟨a', ha', b, hpath⟩ := hactive.exists_right a hmem
  have hget : HDWallet.getAccount { wallet with accounts, hdWalletStorage := storage }
      path.accountId = some a' :=
    (HDWallet.getAccount_eq_some h'.sorted).mpr ⟨ha', hpath.keys.accountId.trans hid⟩
  have hscans : scans wallet params path = decide (params.scanPolicy = .scan) := by
    simp [scans, ha]
  have haccount : coin.pathAccount wallet path = some a := by simp [pathAccount, ha]
  have honce := hactive.reportedOnce_iff h.sorted h.paths
  constructor
  · rintro ⟨hindexed, hreported⟩
    have hzero := honce.mp hreported
    rw [indexed_iff h' hget fun hlt => hpath.cached_of_lt (hzero a hmem) hlt,
      hpath.lt_iff (hzero a hmem)] at hindexed
    constructor
    · exact hindexed.1
    · exact hzero
    · simp [ha]
    · intro a₂ ha₂
      obtain rfl : a = a₂ := Option.some.inj (haccount.symm.trans ha₂)
      rw [hscans]
      exact hindexed.2
  · intro hpathIndexed
    have hzero := hpathIndexed.chains
    have henough := hpathIndexed.enough a haccount
    rw [hscans] at henough
    constructor
    · rw [indexed_iff h' hget fun hlt => hpath.cached_of_lt (hzero a hmem) hlt,
        hpath.lt_iff (hzero a hmem)]
      exact ⟨hpathIndexed.enabled, henough⟩
    · exact honce.mpr hzero

theorem pathAccount_of_none {new : HDAccount XPub Address}
    (hnone : wallet.getAccount path.accountId = none)
    (hnew : coin.pathAccount wallet path = some new) :
    new.accountId = path.accountId ∧ (∀ c, new.knownAddressesNumber c = 0) ∧
      new.accountDerivationPath = wallet.derivationPath ++ [HARDENED_FLAG + new.accountId] := by
  simp only [pathAccount, hnone] at hnew
  split at hnew
  · cases hnew
    exact ⟨rfl, fun c => by cases c <;> rfl, rfl⟩
  · cases hnew

theorem sound_uploaded {new : HDAccount XPub Address}
    (hnone : wallet.getAccount path.accountId = none)
    (hnew : coin.pathAccount wallet path = some new) : (wallet.uploaded new).Sound coin := by
  simp only [pathAccount, hnone] at hnew
  split at hnew
  · cases hnew
    constructor
    · simp [HDWallet.uploaded]
    · intro id a ha
      cases ha
  · cases hnew

/-- A report on one account says nothing of the others. -/
theorem Activated.unreported {gapLimit : ℕ} {scanNewAddresses : Bool}
    {a a' b : HDAccount XPub Address} {accountBalance : HDAccountBalance Address Balance}
    {walletPath : DerivationPath}
    (h : coin.Activated params path gapLimit scanNewAddresses a a' accountBalance)
    (ha : a.accountDerivationPath = walletPath ++ [HARDENED_FLAG + a.accountId])
    (hb : b.accountDerivationPath = walletPath ++ [HARDENED_FLAG + b.accountId])
    (hne : b.accountId ≠ a.accountId) (id : HDAddressId) :
    (reportedPaths [accountBalance]).count (b.addressPath id) = 0 := by
  apply List.count_eq_zero_of_not_mem
  rw [(ActivatedAll.cons h .nil).reportedPaths_eq]
  simp only [List.flatMap_cons, List.flatMap_nil, List.append_nil, List.mem_map]
  rintro ⟨id', -, hpath⟩
  exact hne (accountId_eq_of_addressPath ha hb hpath).symm

/-- The account of the path is new, and it alone has been activated. -/
theorem created_iff {new : HDAccount XPub Address} {s : AccountState XPub Address}
    {accountBalance : HDAccountBalance Address Balance} (h : wallet.Sound coin)
    (hnone : wallet.getAccount path.accountId = none)
    (hnew : coin.pathAccount wallet path = some new)
    (hactive : coin.Activated params path wallet.gapLimit
      (params.scanPolicy = .scanIfNewWallet ∨ params.scanPolicy = .scan) new s.account
      accountBalance)
    (h' : (wallet.insertAccount s.account s.storage).Sound coin) :
    coin.Indexed path (wallet.insertAccount s.account s.storage) ∧
        ReportedOnce (wallet.insertAccount s.account s.storage).accounts [accountBalance] ↔
      coin.IndexesPath wallet params path := by
  obtain ⟨hid, hfresh, hpathNew⟩ := pathAccount_of_none hnone hnew
  have hne : ∀ b ∈ wallet.accounts, b.accountId ≠ new.accountId := by
    intro b hb hsame
    rw [(HDWallet.getAccount_eq_some h.sorted).mpr ⟨hb, hsame.trans hid⟩] at hnone
    cases hnone
  have hget : (wallet.insertAccount s.account s.storage).getAccount path.accountId =
      some s.account := by
    apply (HDWallet.getAccount_eq_some h'.sorted).mpr
    exact ⟨HDWallet.mem_insertAccount.mpr (.inl rfl), hactive.keys.accountId.trans hid⟩
  have hscans : scans wallet params path =
      decide (params.scanPolicy = .scanIfNewWallet ∨ params.scanPolicy = .scan) := by
    simp [scans, hnone]
  have hindexed := indexed_iff h' hget fun hlt =>
    hactive.cached_of_lt (fun c _ => hfresh c) hlt
  rw [hactive.lt_iff fun c _ => hfresh c] at hindexed
  have honce : ReportedOnce [s.account] [accountBalance] := by
    have hpaths : ∀ a ∈ [new], a.accountDerivationPath =
        wallet.derivationPath ++ [HARDENED_FLAG + a.accountId] := by simpa using hpathNew
    apply ((ActivatedAll.cons hactive .nil).reportedOnce_iff (List.pairwise_singleton _ _)
      hpaths).mpr
    simp [hfresh]
  constructor
  · rintro ⟨hi, hreported⟩
    have hzero : ∀ b ∈ wallet.accounts, ∀ c, b.knownAddressesNumber c = 0 := by
      intro b hb c
      by_contra hpos
      have hcount := hreported b (HDWallet.mem_insertAccount.mpr (.inr hb)) c 0 (by omega)
      rw [hactive.unreported hpathNew (h.paths b hb) (hne b hb)] at hcount
      omega
    constructor
    · exact (hindexed.mp hi).1
    · exact fun b hb c _ => hzero b hb c
    · exact fun _ => hzero
    · intro a ha
      obtain rfl : new = a := Option.some.inj (hnew.symm.trans ha)
      rw [hscans]
      exact (hindexed.mp hi).2
  · intro hpath
    have henough := hpath.enough new hnew
    rw [hscans] at henough
    constructor
    · exact hindexed.mpr ⟨hpath.enabled, henough⟩
    · intro b hb c i hi
      cases HDWallet.mem_insertAccount.mp hb with
      | inl hsame => exact honce b (by simp [hsame]) c i hi
      | inr hold =>
        rw [hpath.found hnone b hold c] at hi
        omega

theorem exists_of_bind_eq_ok {ε α β : Type} {r : Except ε α} {f : α → Except ε β} {b : β}
    (h : r.bind f = .ok b) : ∃ a, r = .ok a ∧ f a = .ok b := by
  cases r with
  | error e => cases h
  | ok a => exact ⟨a, rfl, h⟩

theorem eq_of_map_const_eq_ok {ε α β : Type} {r : Except ε α} {b b' : β}
    (h : r.map (fun _ => b) = .ok b') : b = b' := by
  cases r with
  | error e => cases h
  | ok a =>
    cases h
    rfl

theorem createNewAccount_eq {s : AccountState XPub Address}
    (h : coin.createNewAccount wallet (some path.accountId) = .ok s) :
    ∃ new, coin.pathAccount wallet path = some new ∧ s = wallet.uploaded new := by
  simp only [createNewAccount, Option.getD_some, bind, Except.bind] at h
  split at h
  · cases h
  · split at h
    · cases h
    · next accountPubkey hpubkey =>
      split at h
      · cases h
      · next hnone =>
        split at h
        · cases h
        · cases h
          refine ⟨_, ?_, rfl⟩
          rw [Bool.not_eq_true, Option.isSome_eq_false_iff, Option.isNone_iff_eq_none] at hnone
          simp only [pathAccount, hnone, hpubkey]

/-- An activation of the account at a path that has none. -/
structure Created (coin : HDCoin XPub Address Balance) (wallet : HDWallet XPub Address)
    (params : EnabledCoinBalanceParams) (path : HDPathAccountToAddressId)
    (result : Except EnableCoinBalanceError (HDWalletBalance Address Balance))
    (new : HDAccount XPub Address) (s : AccountState XPub Address) : Prop where
  none : wallet.getAccount path.accountId = none
  account : coin.pathAccount wallet path = some new
  grows : Grows coin (wallet.uploaded new) s
  active : ∀ report, result = .ok report → ∃ accountBalance, report = [accountBalance] ∧
    coin.Activated params path wallet.gapLimit
      (params.scanPolicy = .scanIfNewWallet ∨ params.scanPolicy = .scan) new s.account
      accountBalance

/-- An activation of the accounts that were found. -/
structure Found (coin : HDCoin XPub Address Balance) (wallet : HDWallet XPub Address)
    (params : EnabledCoinBalanceParams) (path : HDPathAccountToAddressId)
    (result : Except EnableCoinBalanceError (HDWalletBalance Address Balance))
    (accounts : List (HDAccount XPub Address)) (storage : HDWalletCoinStorage XPub) : Prop where
  some : ∃ a, wallet.getAccount path.accountId = some a
  grows : AccountsGrow coin wallet.accounts accounts wallet.hdWalletStorage storage
  active : ∀ report, result = .ok report → coin.ActivatedAll params path wallet.gapLimit
    (params.scanPolicy = .scan) wallet.accounts accounts report

theorem enableHdWallet_cases (h : wallet.Sound coin) (params : EnabledCoinBalanceParams)
    (path : HDPathAccountToAddressId) :
    (∃ e, coin.enableHdWallet wallet params path = (.error e, wallet)) ∨
      (∃ result new s, coin.enableHdWallet wallet params path =
          (result, wallet.insertAccount s.account s.storage) ∧
        Created coin wallet params path result new s) ∨
      ∃ result accounts storage, coin.enableHdWallet wallet params path =
          (result, { wallet with accounts, hdWalletStorage := storage }) ∧
        Found coin wallet params path result accounts storage := by
  rw [enableHdWallet]
  cases coin.produceHdAddressScanner with
  | error e => exact .inl ⟨_, rfl⟩
  | ok scanner =>
    dsimp only
    cases haccount : wallet.getAccount path.accountId with
    | none =>
      dsimp only
      cases hcreate : coin.createNewAccount wallet (some path.accountId) with
      | error e => exact .inl ⟨_, rfl⟩
      | ok newAccount =>
        obtain ⟨new, hnew, rfl⟩ := createNewAccount_eq hcreate
        have hmin : minFor params path new =
            max params.minAddressesNumber (some ((path.addressId + 1) % 2 ^ 32)) := by
          rw [minFor, if_pos (pathAccount_of_none haccount hnew).1]
        have hends := enableHdAccount_activated params path wallet.gapLimit
          (params.scanPolicy = .scanIfNewWallet ∨ params.scanPolicy = .scan)
          (sound_uploaded haccount hnew)
        simp only [HDWallet.uploaded] at hends
        rw [hmin] at hends
        refine .inr (.inl ⟨_, new, _, rfl, haccount, hnew, ?_, ?_⟩)
        · exact hends.grows
        · intro report hreport
          obtain ⟨accountBalance, hresult, hreceive⟩ := exists_of_bind_eq_ok hreport
          exact ⟨accountBalance, (eq_of_map_const_eq_ok hreceive).symm, hends.of_fst_eq_ok hresult⟩
    | some a =>
      have hends := enableAccounts_grow params path wallet.gapLimit h.sorted h.stored
      refine .inr (.inr ⟨_, _, _, rfl, ⟨a, haccount⟩, hends.1, ?_⟩)
      intro report hreport
      obtain ⟨report', hresult, hreceive⟩ := exists_of_bind_eq_ok hreport
      have hsame := eq_of_map_const_eq_ok hreceive
      subst hsame
      exact hends.2 _ hresult

theorem Created.sound {result : Except EnableCoinBalanceError (HDWalletBalance Address Balance)}
    {new : HDAccount XPub Address} {s : AccountState XPub Address} (h : wallet.Sound coin)
    (hcreated : Created coin wallet params path result new s) :
    (wallet.insertAccount s.account s.storage).Sound coin ∧
      wallet.NeverDecreases (wallet.insertAccount s.account s.storage) := by
  obtain ⟨hid, -, hpath⟩ := pathAccount_of_none hcreated.none hcreated.account
  apply h.insertAccount _ hpath hcreated.grows
  intro b hb hsame
  have hfound := (HDWallet.getAccount_eq_some h.sorted).mpr ⟨hb, hsame.trans hid⟩
  rw [hcreated.none] at hfound
  cases hfound

/-- However the activation ends, every account is still in order. -/
theorem enableHdWallet_sound (h : wallet.Sound coin) (params : EnabledCoinBalanceParams)
    (path : HDPathAccountToAddressId) :
    (coin.enableHdWallet wallet params path).2.Sound coin ∧
      wallet.NeverDecreases (coin.enableHdWallet wallet params path).2 := by
  rcases enableHdWallet_cases h params path with ⟨e, he⟩ | ⟨result, new, s, he, hcreated⟩ |
    ⟨result, accounts, storage, he, hfound⟩
  · rw [he]
    exact ⟨h, fun id a ha => ⟨a, ha, fun c => Nat.le_refl _⟩⟩
  · rw [he]
    exact hcreated.sound h
  · rw [he]
    exact h.of_accountsGrow hfound.grows

end Outcomes

end HDCoin

/-- Activation indexes the enabled address exactly under the condition `IndexesPath`; the storage
and the memory agree afterwards, and no number of known addresses has decreased, in any case. -/
theorem hd_activation_indexes_iff (coin : HDCoin XPub Address Balance)
    (wallet : HDWallet XPub Address) (h : wallet.Sound coin) (params : EnabledCoinBalanceParams)
    (path : HDPathAccountToAddressId) :
    let outcome := coin.enableHdWallet wallet params path
    (∀ id, outcome.2.hdWalletStorage id =
        (outcome.2.getAccount id).map HDAccount.toStorageItem) ∧
      wallet.NeverDecreases outcome.2 ∧
      ∀ report, outcome.1 = .ok report →
        (coin.Indexed path outcome.2 ∧ ReportedOnce outcome.2.accounts report ↔
          coin.IndexesPath wallet params path) := by
  intro outcome
  have hsound := HDCoin.enableHdWallet_sound h params path
  constructor
  · exact hsound.1.storage_eq
  · constructor
    · exact hsound.2
    · intro report hreport
      rcases HDCoin.enableHdWallet_cases h params path with ⟨e, he⟩ |
        ⟨result, new, s, he, hcreated⟩ | ⟨result, accounts, storage, he, hfound⟩
      · simp [outcome, he] at hreport
      · simp only [outcome, he] at hreport ⊢
        obtain ⟨accountBalance, rfl, hactive⟩ := hcreated.active report hreport
        exact HDCoin.created_iff h hcreated.none hcreated.account hactive (hcreated.sound h).1
      · simp only [outcome, he] at hreport ⊢
        obtain ⟨a, ha⟩ := hfound.some
        exact HDCoin.found_iff h ha (hfound.active report hreport)
          (h.of_accountsGrow hfound.grows).1

/-! ## A wallet with one account -/

/-- A coin whose addresses are their paths, none of which has been used. -/
def sampleCoin : HDCoin DerivationPath DerivationPath ℕ where
  protocol := .utxo
  isTrezor := false
  deriveChild xpub child := .ok (xpub ++ [child])
  addressFromExtendedPubkey xpub := xpub
  extractExtendedPubkey path := .ok path
  produceHdAddressScanner := .ok ()
  isAddressUsed _ _ := .ok false
  knownAddressBalance _ := .ok 0
  knownAddressesBalances addresses := .ok (addresses.map fun a => (a, 0))
  knownAddressesBalances_fst addresses balances h := by
    cases h
    simp [Function.comp_def]
  newBalance := 0
  addBalance := (· + ·)
  receivedEnabledAddressFromHwWallet _ := .ok ()
  updateAddressesNumber _ _ _ := .ok ()
  uploadNewAccount _ := .ok ()

def samplePath : HDPathAccountToAddressId where
  accountId := 0
  chain := .external
  addressId := 1

/-- The first account, which has used its first address and so many of its change addresses. -/
def sampleWallet (internalAddressesNumber : ℕ) : HDWallet DerivationPath DerivationPath :=
  .loadHdAccountsFromStorage [HARDENED_FLAG + 44, HARDENED_FLAG + 141]
    [{ accountId := 0, accountXpub := [], externalAddressesNumber := 1, internalAddressesNumber }]
    samplePath DEFAULT_GAP_LIMIT

def sampleParams : EnabledCoinBalanceParams where
  scanPolicy := .doNotScan
  minAddressesNumber := none

theorem sampleWallet_sound (internalAddressesNumber : ℕ) :
    (sampleWallet internalAddressesNumber).Sound sampleCoin :=
  HDWallet.sound_loadHdAccountsFromStorage sampleCoin _ (by simp) _ _

/-- The change address counts towards the two addresses asked for, so that the address of the path
is not generated. -/
theorem change_address_counted :
    (sampleWallet 1).Sound sampleCoin ∧
      (∃ report, (sampleCoin.enableHdWallet (sampleWallet 1) sampleParams samplePath).1 =
        .ok report) ∧
      ¬ sampleCoin.Indexed samplePath
        (sampleCoin.enableHdWallet (sampleWallet 1) sampleParams samplePath).2 := by
  constructor
  · exact sampleWallet_sound 1
  · constructor
    · exact ⟨_, rfl⟩
    · rintro ⟨a, ha, hlt, -⟩
      have hknown : (HDWallet.getAccount (sampleCoin.enableHdWallet (sampleWallet 1) sampleParams
          samplePath).2 samplePath.accountId).map
            (fun a => a.knownAddressesNumber samplePath.chain) = some 1 := rfl
      rw [ha] at hknown
      have hone : a.knownAddressesNumber samplePath.chain = 1 := Option.some.inj hknown
      rw [hone] at hlt
      exact absurd hlt (by decide)

/-- Without a change address the two addresses asked for are on the chain of the path. -/
theorem activation_sample :
    (sampleWallet 0).Sound sampleCoin ∧ sampleCoin.Indexed samplePath
      (sampleCoin.enableHdWallet (sampleWallet 0) sampleParams samplePath).2 := by
  have hsound := sampleWallet_sound 0
  constructor
  · exact hsound
  · apply (((hd_activation_indexes_iff sampleCoin (sampleWallet 0) hsound sampleParams
      samplePath).2.2 _ rfl).mpr _).1
    constructor
    · rfl
    · intro a _ c hc
      cases c <;> simp [sampleCoin, CoinProtocol.chains] at hc
    · intro hnone
      cases hnone
    · intro a ha
      cases ha
      exact .inr (by decide)

end DeXFG.HdWallet
