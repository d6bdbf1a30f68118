import DeXFG.HdWallet.AccountActivation

/-!
# The accounts of a wallet and their storage

The wallet in memory and the rows of the storage are one and the same before and after an
activation, however it ends, and the numbers of known addresses only grow.
-/
namespace DeXFG.HdWallet
open Library.Stateful AccountState

variable {XPub Address Balance : Type}

namespace HDWallet

/-- The accounts are in order, each with its own row, path and addresses. -/
structure Sound (coin : HDCoin XPub Address Balance) (wallet : HDWallet XPub Address) : Prop where
  sorted : wallet.accounts.Pairwise fun a b => a.accountId < b.accountId
  stored : ∀ a ∈ wallet.accounts,
    AccountState.Sound coin { account := a, storage := wallet.hdWalletStorage }
  rows : ∀ id, (∀ a ∈ wallet.accounts, a.accountId ≠ id) → wallet.hdWalletStorage id = none
  paths : ∀ a ∈ wallet.accounts,
    a.accountDerivationPath = wallet.derivationPath ++ [HARDENED_FLAG + a.accountId]

/-- Every account is still there and has at least the addresses it had. -/
def NeverDecreases (wallet wallet' : HDWallet XPub Address) : Prop :=
  ∀ id a, wallet.getAccount id = some a → ∃ a', wallet'.getAccount id = some a' ∧
    ∀ c, a.knownAddressesNumber c ≤ a'.knownAddressesNumber c

variable {coin : HDCoin XPub Address Balance} {wallet : HDWallet XPub Address}

theorem getAccount_eq_some
    (h : wallet.accounts.Pairwise fun a b => a.accountId < b.accountId) {id : ℕ}
    {a : HDAccount XPub Address} :
    wallet.getAccount id = some a ↔ a ∈ wallet.accounts ∧ a.accountId = id := by
  rw [getAccount]
  revert h
  generalize wallet.accounts = accounts
  intro h
  induction accounts with
  | nil => simp
  | cons b rest ih =>
    rw [List.pairwise_cons] at h
    by_cases hb : b.accountId = id
    · subst hb
      have hrest : a ∈ rest → a.accountId ≠ b.accountId := fun ha => (h.1 a ha).ne'
      simp
      constructor
      · rintro rfl
        exact ⟨.inl rfl, rfl⟩
      · rintro ⟨rfl | ha, hid⟩
        · rfl
        · exact absurd hid (hrest ha)
    · have hne : a = b → a.accountId ≠ id := fun hab => hab ▸ hb
      simp [hb, ih h.2]
      grind

/-- In memory and in the storage the numbers are the same. -/
theorem Sound.storage_eq (h : wallet.Sound coin) (id : ℕ) :
    wallet.hdWalletStorage id = (wallet.getAccount id).map HDAccount.toStorageItem := by
  cases ha : wallet.getAccount id with
  | some a =>
    obtain ⟨hmem, rfl⟩ := (getAccount_eq_some h.sorted).mp ha
    exact (h.stored a hmem).synced
  | none =>
    apply h.rows
    intro a hmem hid
    rw [(getAccount_eq_some h.sorted).mpr ⟨hmem, hid⟩] at ha
    cases ha

end HDWallet

/-- The second account is the first one after some activation. -/
structure HDAccount.GrowsTo (a a' : HDAccount XPub Address) : Prop where
  keys : SameKeys a a'
  known_le : ∀ c, a.knownAddressesNumber c ≤ a'.knownAddressesNumber c
  cached : ∀ id x, a.derivedAddresses id = some x → a'.derivedAddresses id = some x

theorem HDAccount.GrowsTo.refl (a : HDAccount XPub Address) : a.GrowsTo a where
  keys := ⟨rfl, rfl, rfl⟩
  known_le _ := Nat.le_refl _
  cached _ _ h := h

theorem AccountState.Grows.growsTo {coin : HDCoin XPub Address Balance}
    {s s' : AccountState XPub Address} (h : Grows coin s s') : s.account.GrowsTo s'.account :=
  ⟨h.keys, h.known_le, h.cached⟩

/-- The rows of other accounts do not matter to an account. -/
theorem AccountState.Sound.of_storage_eq {coin : HDCoin XPub Address Balance}
    {a : HDAccount XPub Address} {storage storage' : HDWalletCoinStorage XPub}
    (h : AccountState.Sound coin { account := a, storage })
    (heq : storage' a.accountId = storage a.accountId) :
    AccountState.Sound coin { account := a, storage := storage' } where
  synced := heq.trans h.synced
  cached := h.cached

namespace HDCoin

variable (coin : HDCoin XPub Address Balance)

/-- How many addresses an account is asked for. -/
def minFor (params : EnabledCoinBalanceParams) (path : HDPathAccountToAddressId)
    (a : HDAccount XPub Address) : Option ℕ :=
  if a.accountId = path.accountId then
    max params.minAddressesNumber (some ((path.addressId + 1) % 2 ^ 32))
  else params.minAddressesNumber

/-- What the report on an account says and what the activation leaves of it. -/
structure Activated (params : EnabledCoinBalanceParams) (path : HDPathAccountToAddressId)
    (gapLimit : ℕ) (scanNewAddresses : Bool) (a a' : HDAccount XPub Address)
    (accountBalance : HDAccountBalance Address Balance) : Prop where
  keys : SameKeys a a'
  known : a'.knownAddressesNumber =
    coin.finalNumbers path.chain gapLimit scanNewAddresses (minFor params path a) a
  reports : Reports a accountBalance.addresses
    (coin.reportedIds path.chain gapLimit scanNewAddresses (minFor params path a) a)
  cached : ∀ id ∈ coin.reportedIds path.chain gapLimit scanNewAddresses (minFor params path a) a,
    a'.Cached id

/-- So it is with each account of a list. -/
inductive ActivatedAll (params : EnabledCoinBalanceParams) (path : HDPathAccountToAddressId)
    (gapLimit : ℕ) (scanNewAddresses : Bool) : List (HDAccount XPub Address) →
    List (HDAccount XPub Address) → HDWalletBalance Address Balance → Prop where
  | nil : ActivatedAll params path gapLimit scanNewAddresses [] [] []
  | cons {a a' : HDAccount XPub Address} {accountBalance : HDAccountBalance Address Balance}
      {accounts accounts' : List (HDAccount XPub Address)}
      {report : HDWalletBalance Address Balance}
      (head : coin.Activated params path gapLimit scanNewAddresses a a' accountBalance)
      (tail : ActivatedAll params path gapLimit scanNewAddresses accounts accounts' report) :
      ActivatedAll params path gapLimit scanNewAddresses (a :: accounts) (a' :: accounts')
        (accountBalance :: report)

variable {coin}

theorem enableHdAccount_activated (params : EnabledCoinBalanceParams)
    (path : HDPathAccountToAddressId) (gapLimit : ℕ) (scanNewAddresses : Bool)
    {s : AccountState XPub Address} (h : s.Sound coin) :
    Ends coin (coin.enableHdAccount path.chain gapLimit scanNewAddresses
        (minFor params path s.account)) s
      fun accountBalance s' => coin.Activated params path gapLimit scanNewAddresses
        s.account s'.account accountBalance := by
  apply (coin.enableHdAccount_ends h _ _ _ _).mono
  intro accountBalance s' hs' hcovers
  exact ⟨hs'.keys, hcovers.known, hcovers.reports, hcovers.cached⟩

/-- What becomes of the accounts that were found, and of the rows. -/
structure AccountsGrow (coin : HDCoin XPub Address Balance)
    (accounts accounts' : List (HDAccount XPub Address))
    (storage storage' : HDWalletCoinStorage XPub) : Prop where
  grows : List.Forall₂ HDAccount.GrowsTo accounts accounts'
  stored : ∀ a ∈ accounts', AccountState.Sound coin { account := a, storage := storage' }
  frame : ∀ id, (∀ a ∈ accounts, a.accountId ≠ id) → storage' id = storage id

theorem AccountsGrow.refl {accounts : List (HDAccount XPub Address)}
    {storage : HDWalletCoinStorage XPub}
    (hstored : ∀ a ∈ accounts, AccountState.Sound coin { account := a, storage }) :
    AccountsGrow coin accounts accounts storage storage where
  grows := List.forall₂_same.mpr fun a _ => .refl a
  stored := hstored
  frame _ _ := rfl

/-- The rows of the rest are not those of the first account, and the other way round. -/
theorem AccountsGrow.cons {a : HDAccount XPub Address} {rest rest' : List (HDAccount XPub Address)}
    {storage storage' : HDWalletCoinStorage XPub} {s' : AccountState XPub Address}
    (hne : ∀ b ∈ rest, b.accountId ≠ a.accountId)
    (hhead : Grows coin { account := a, storage } s')
    (htail : AccountsGrow coin rest rest' s'.storage storage') :
    AccountsGrow coin (a :: rest) (s'.account :: rest') storage storage' where
  grows := .cons hhead.growsTo htail.grows
  stored := by
    intro b hb
    cases List.mem_cons.mp hb with
    | inl hb =>
      subst hb
      apply hhead.sound.of_storage_eq
      apply htail.frame
      rw [hhead.keys.accountId]
      exact hne
    | inr hb => exact htail.stored b hb
  frame id hid := by
    have hrest : ∀ b ∈ rest, b.accountId ≠ id := fun b hb => hid b (List.mem_cons_of_mem a hb)
    rw [htail.frame id hrest]
    exact hhead.frame id (hid a List.mem_cons_self).symm

theorem enableAccounts_grow (params : EnabledCoinBalanceParams) (path : HDPathAccountToAddressId)
    (gapLimit : ℕ) {accounts : List (HDAccount XPub Address)}
    {storage : HDWalletCoinStorage XPub}
    (hsorted : accounts.Pairwise fun a b => a.accountId < b.accountId)
    (hstored : ∀ a ∈ accounts, AccountState.Sound coin { account := a, storage }) :
    AccountsGrow coin accounts (coin.enableAccounts params path gapLimit accounts storage).2.1
        storage (coin.enableAccounts params path gapLimit accounts storage).2.2 ∧
      ∀ report, (coin.enableAccounts params path gapLimit accounts storage).1 = .ok report →
        coin.ActivatedAll params path gapLimit (params.scanPolicy = .scan) accounts
          (coin.enableAccounts params path gapLimit accounts storage).2.1 report := by
  induction accounts generalizing storage with
  | nil =>
    constructor
    · exact .refl hstored
    · rintro report h
      cases h
      exact .nil
  | cons a rest ih =>
    rw [List.pairwise_cons] at hsorted
    have hne : ∀ b ∈ rest, b.accountId ≠ a.accountId := fun b hb => (hsorted.1 b hb).ne'
    have hfirst := enableHdAccount_activated params path gapLimit (params.scanPolicy = .scan)
      (hstored a List.mem_cons_self)
    have hrest {s' : AccountState XPub Address} (hs' : Grows coin { account := a, storage } s') :
        ∀ b ∈ rest, AccountState.Sound coin { account := b, storage := s'.storage } := by
      intro b hb
      apply (hstored b (List.mem_cons_of_mem a hb)).of_storage_eq
      exact hs'.frame b.accountId (hne b hb)
    rw [enableAccounts, ← minFor]
    rcases hexec : exec (coin.enableHdAccount path.chain gapLimit (params.scanPolicy = .scan)
      (minFor params path a)) { account := a, storage } with ⟨_ | accountBalance, s'⟩
    · have hs' := hfirst.of_error hexec
      constructor
      · exact .cons hne hs' (.refl (hrest hs'))
      · rintro report ⟨⟩
    · obtain ⟨hs', hhead⟩ := hfirst.of_ok hexec
      have htail := @ih s'.storage hsorted.2 (hrest hs')
      constructor
      · exact .cons hne hs' htail.1
      · intro report hreport
        dsimp only at hreport
        cases hresult : (coin.enableAccounts params path gapLimit rest s'.storage).1 with
        | error e =>
          rw [hresult] at hreport
          cases hreport
        | ok report' =>
          rw [hresult] at hreport
          cases hreport
          exact .cons hhead (htail.2 report' hresult)

theorem AccountsGrow.exists_left {accounts accounts' : List (HDAccount XPub Address)}
    {storage storage' : HDWalletCoinStorage XPub}
    (h : AccountsGrow coin accounts accounts' storage storage') :
    ∀ a' ∈ accounts', ∃ a ∈ accounts, a.GrowsTo a' := by
  obtain ⟨h, -, -⟩ := h
  induction h with
  | nil => simp
  | cons hhead _ ih =>
    simp only [List.mem_cons]
    grind

theorem AccountsGrow.exists_right {accounts accounts' : List (HDAccount XPub Address)}
    {storage storage' : HDWalletCoinStorage XPub}
    (h : AccountsGrow coin accounts accounts' storage storage') :
    ∀ a ∈ accounts, ∃ a' ∈ accounts', a.GrowsTo a' := by
  obtain ⟨h, -, -⟩ := h
  induction h with
  | nil => simp
  | cons hhead _ ih =>
    simp only [List.mem_cons]
    grind

theorem AccountsGrow.map_accountId {accounts accounts' : List (HDAccount XPub Address)}
    {storage storage' : HDWalletCoinStorage XPub}
    (h : AccountsGrow coin accounts accounts' storage storage') :
    accounts'.map HDAccount.accountId = accounts.map HDAccount.accountId := by
  obtain ⟨h, -, -⟩ := h
  induction h with
  | nil => rfl
  | cons hhead _ ih => simp [hhead.keys.accountId, ih]

end HDCoin

namespace HDWallet

variable {coin : HDCoin XPub Address Balance} {wallet : HDWallet XPub Address}

theorem pairwise_accountId_iff {accounts : List (HDAccount XPub Address)} :
    accounts.Pairwise (fun a b => a.accountId < b.accountId) ↔
      (accounts.map HDAccount.accountId).Pairwise (· < ·) := List.pairwise_map.symm

/-- The accounts that were found have all been activated, or some of them. -/
theorem Sound.of_accountsGrow (h : wallet.Sound coin)
    {accounts : List (HDAccount XPub Address)} {storage : HDWalletCoinStorage XPub}
    (hgrow : coin.AccountsGrow wallet.accounts accounts wallet.hdWalletStorage storage) :
    Sound coin { wallet with accounts, hdWalletStorage := storage } ∧
      wallet.NeverDecreases { wallet with accounts, hdWalletStorage := storage } := by
  have hsorted : accounts.Pairwise fun a b => a.accountId < b.accountId := by
    rw [pairwise_accountId_iff, hgrow.map_accountId, ← pairwise_accountId_iff]
    exact h.sorted
  constructor
  · constructor
    · exact hsorted
    · exact hgrow.stored
    · intro id hid
      have hold : ∀ a ∈ wallet.accounts, a.accountId ≠ id := by
        intro a ha
        obtain ⟨a', ha', hgrows⟩ := hgrow.exists_right a ha
        rw [← hgrows.keys.accountId]
        exact hid a' ha'
      exact (hgrow.frame id hold).trans (h.rows id hold)
    · intro a' ha'
      obtain ⟨a, ha, hgrows⟩ := hgrow.exists_left a' ha'
      rw [hgrows.keys.accountDerivationPath, hgrows.keys.accountId]
      exact h.paths a ha
  · intro id a ha
    obtain ⟨hmem, rfl⟩ := (getAccount_eq_some h.sorted).mp ha
    obtain ⟨a', ha', hgrows⟩ := hgrow.exists_right a hmem
    exact ⟨a', (getAccount_eq_some hsorted).mpr ⟨ha', hgrows.keys.accountId⟩, hgrows.known_le⟩

/-- A new account and the storage with its row. -/
def uploaded (wallet : HDWallet XPub Address) (new : HDAccount XPub Address) :
    AccountState XPub Address where
  account := new
  storage := Function.update wallet.hdWalletStorage new.accountId (some new.toStorageItem)

theorem nodup_readableRows {rows : List (HDAccountStorageItem XPub)}
    (h : (rows.map HDAccountStorageItem.accountId).Nodup) :
    ((readableRows rows).map HDAccountStorageItem.accountId).Nodup := by
  rw [readableRows]
  split
  · exact h
  · exact List.nodup_nil

theorem find?_accountId {rows : List (HDAccountStorageItem XPub)}
    (h : (rows.map HDAccountStorageItem.accountId).Nodup) {item : HDAccountStorageItem XPub}
    (hitem : item ∈ rows) : rows.find? (fun row => row.accountId = item.accountId) = some item := by
  induction rows with
  | nil => cases hitem
  | cons row rest ih =>
    rw [List.map_cons, List.nodup_cons] at h
    cases List.mem_cons.mp hitem with
    | inl hsame => simp [hsame]
    | inr hrest =>
      have hne : row.accountId ≠ item.accountId := fun hsame =>
        h.1 (hsame ▸ List.mem_map_of_mem hrest)
      simp [hne, ih h.2 hrest]

instance total_accountId : Std.Total fun a b : HDAccount XPub Address =>
    a.accountId ≤ b.accountId := ⟨fun _ _ => Nat.le_total _ _⟩

instance trans_accountId : IsTrans (HDAccount XPub Address) fun a b =>
    a.accountId ≤ b.accountId := ⟨fun _ _ _ => Nat.le_trans⟩

theorem pairwise_lt {accounts : List (HDAccount XPub Address)}
    (hle : accounts.Pairwise fun a b => a.accountId ≤ b.accountId)
    (hne : accounts.Pairwise fun a b => a.accountId ≠ b.accountId) :
    accounts.Pairwise fun a b => a.accountId < b.accountId := by
  apply (hle.and hne).imp
  exact fun h => lt_of_le_of_ne h.1 h.2

/-- A wallet whose rows have different ids is in order when it has been loaded. -/
theorem sound_loadHdAccountsFromStorage (coin : HDCoin XPub Address Balance)
    (derivationPath : DerivationPath) {rows : List (HDAccountStorageItem XPub)}
    (h : (rows.map HDAccountStorageItem.accountId).Nodup)
    (enabledAddress : HDPathAccountToAddressId) (gapLimit : ℕ) :
    Sound coin (loadHdAccountsFromStorage derivationPath rows enabledAddress gapLimit) := by
  have hnodup := nodup_readableRows h
  have hperm : ((readableRows rows).map
      (@HDAccount.fromStorageItem XPub Address derivationPath)).insertionSort
        (fun a b => a.accountId ≤ b.accountId) |>.Perm
      ((readableRows rows).map (HDAccount.fromStorageItem derivationPath)) :=
    List.perm_insertionSort _ _
  have hmem {a : HDAccount XPub Address} :
      a ∈ (@loadHdAccountsFromStorage XPub Address derivationPath rows enabledAddress
        gapLimit).accounts ↔
      ∃ item ∈ readableRows rows, HDAccount.fromStorageItem derivationPath item = a := by
    rw [← List.mem_map]
    exact hperm.mem_iff
  constructor
  · apply pairwise_lt (List.pairwise_insertionSort _ _)
    rw [hperm.pairwise_iff fun h => h.symm]
    exact List.pairwise_map.mpr (List.pairwise_map.mp hnodup)
  · intro a ha
    obtain ⟨item, hitem, rfl⟩ := hmem.mp ha
    constructor
    · exact find?_accountId hnodup hitem
    · intro id a ha
      cases ha
  · intro id hid
    apply List.find?_eq_none.mpr
    intro item hitem
    simpa [HDAccount.fromStorageItem] using hid _ (hmem.mpr ⟨item, hitem, rfl⟩)
  · intro a ha
    obtain ⟨item, -, rfl⟩ := hmem.mp ha
    rfl

theorem mem_insertAccount {a b : HDAccount XPub Address} {storage : HDWalletCoinStorage XPub} :
    b ∈ (wallet.insertAccount a storage).accounts ↔ b = a ∨ b ∈ wallet.accounts :=
  List.mem_orderedInsert _

theorem sorted_insertAccount {a : HDAccount XPub Address} {storage : HDWalletCoinStorage XPub}
    (h : wallet.accounts.Pairwise fun a b => a.accountId < b.accountId)
    (hnew : ∀ b ∈ wallet.accounts, b.accountId ≠ a.accountId) :
    (wallet.insertAccount a storage).accounts.Pairwise fun a b => a.accountId < b.accountId := by
  have hperm : (wallet.insertAccount a storage).accounts.Perm (a :: wallet.accounts) :=
    List.perm_orderedInsert _ a wallet.accounts
  have hne : (wallet.insertAccount a storage).accounts.Pairwise
      fun a b => a.accountId ≠ b.accountId := by
    rw [hperm.pairwise_iff fun h => h.symm, List.pairwise_cons]
    exact ⟨fun b hb => (hnew b hb).symm, h.imp Nat.ne_of_lt⟩
  exact pairwise_lt (List.Pairwise.orderedInsert a wallet.accounts (h.imp Nat.le_of_lt)) hne

/-- A new account has been inserted, after what was done to it. -/
theorem Sound.insertAccount (h : wallet.Sound coin) {new : HDAccount XPub Address}
    (hnew : ∀ b ∈ wallet.accounts, b.accountId ≠ new.accountId)
    (hpath : new.accountDerivationPath = wallet.derivationPath ++ [HARDENED_FLAG + new.accountId])
    {s : AccountState XPub Address}
    (hs : Grows coin (wallet.uploaded new) s) :
    (wallet.insertAccount s.account s.storage).Sound coin ∧
      wallet.NeverDecreases (wallet.insertAccount s.account s.storage) := by
  have hid : s.account.accountId = new.accountId := hs.keys.accountId
  have hne : ∀ b ∈ wallet.accounts, b.accountId ≠ s.account.accountId := by
    rw [hid]
    exact hnew
  have hold : ∀ id, id ≠ new.accountId → s.storage id = wallet.hdWalletStorage id := by
    intro id hne
    rw [hs.frame id hne]
    simp [uploaded, hne]
  have hsorted : (wallet.insertAccount s.account s.storage).accounts.Pairwise
      fun a b => a.accountId < b.accountId := sorted_insertAccount h.sorted hne
  constructor
  · constructor
    · exact hsorted
    · intro b hb
      cases mem_insertAccount.mp hb with
      | inl hb =>
        rw [hb]
        exact hs.sound
      | inr hb => exact (h.stored b hb).of_storage_eq (hold _ (hnew b hb))
    · intro id hrow
      have hnone : ∀ b ∈ wallet.accounts, b.accountId ≠ id :=
        fun b hb => hrow b (mem_insertAccount.mpr (.inr hb))
      have hother : id ≠ new.accountId := by
        rw [← hid]
        exact (hrow _ (mem_insertAccount.mpr (.inl rfl))).symm
      exact (hold id hother).trans (h.rows id hnone)
    · intro b hb
      cases mem_insertAccount.mp hb with
      | inl hb =>
        rw [hb, hs.keys.accountDerivationPath, hid]
        exact hpath
      | inr hb => exact h.paths b hb
  · intro id a ha
    obtain ⟨hmem, rfl⟩ := (getAccount_eq_some h.sorted).mp ha
    have hmem' : a ∈ (wallet.insertAccount s.account s.storage).accounts :=
      mem_insertAccount.mpr (.inr hmem)
    exact ⟨a, (getAccount_eq_some hsorted).mpr ⟨hmem', rfl⟩, fun c => Nat.le_refl _⟩

end HDWallet

end DeXFG.HdWallet
