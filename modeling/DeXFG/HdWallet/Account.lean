import DeXFG.HdWallet.Activation
import DeXFG.Library.GapScan

/-!
# What is done to one account

Whatever becomes of an operation on an account, the account and its row in the storage have the
same numbers afterwards, none of them has decreased, the cache only has addresses of the account
and the other rows are as before. With a result the reported addresses are known by their ids.
-/
namespace DeXFG.HdWallet
open Library.Stateful Library.GapScan

variable {XPub Address Balance ε δ α β : Type}

/-! ## Ids and paths -/

def HDAccount.addressPath (a : HDAccount XPub Address) (id : HDAddressId) : DerivationPath :=
  a.accountDerivationPath ++ [id.chain.toChildNumber, id.addressId]

/-- The ids of a chain from one number up to another. -/
def idRange (chain : Bip44Chain) (first last : ℕ) : List HDAddressId :=
  (List.range' first (last - first)).map fun addressId => { chain, addressId }

theorem mem_idRange {chain : Bip44Chain} {first last : ℕ} {id : HDAddressId} :
    id ∈ idRange chain first last ↔
      id.chain = chain ∧ first ≤ id.addressId ∧ id.addressId < last := by
  rcases id with ⟨c, i⟩
  simp only [idRange, List.mem_map, List.mem_range'_1, HDAddressId.mk.injEq]
  constructor
  · rintro ⟨j, hj, rfl, rfl⟩
    simp only [true_and]
    omega
  · rintro ⟨rfl, hi⟩
    exact ⟨i, by omega, rfl, rfl⟩

theorem nodup_idRange (chain : Bip44Chain) (first last : ℕ) : (idRange chain first last).Nodup := by
  apply List.Nodup.map
  · intro i j h
    simpa using h
  · exact List.nodup_range'

theorem idRange_append (chain : Bip44Chain) {first middle last : ℕ} (h : first ≤ middle)
    (h' : middle ≤ last) :
    idRange chain first middle ++ idRange chain middle last = idRange chain first last := by
  rw [idRange, idRange, idRange, ← List.map_append]
  congr 1
  have hfirst : last - first = (middle - first) + (last - middle) := by omega
  have hmiddle : middle = first + (middle - first) := by omega
  rw [hfirst, ← List.range'_append_1, ← hmiddle]

@[simp] theorem length_idRange (chain : Bip44Chain) (first last : ℕ) :
    (idRange chain first last).length = last - first := by simp [idRange]

theorem idRange_succ (chain : Bip44Chain) (n : ℕ) :
    idRange chain n (n + 1) = [{ chain, addressId := n }] := by simp [idRange]

theorem addressPath_injective (a : HDAccount XPub Address) : Function.Injective a.addressPath := by
  rintro ⟨c, i⟩ ⟨c', i'⟩ h
  simp [HDAccount.addressPath] at h
  simp [Bip44Chain.toChildNumber_inj h.1, h.2]

/-- The balances report the addresses with these ids. -/
def Reports (a : HDAccount XPub Address) (balances : List (HDAddressBalance Address Balance))
    (ids : List HDAddressId) : Prop :=
  balances.map HDAddressBalance.derivationPath = ids.map a.addressPath

theorem Reports.append {a : HDAccount XPub Address}
    {balances balances' : List (HDAddressBalance Address Balance)} {ids ids' : List HDAddressId}
    (h : Reports a balances ids) (h' : Reports a balances' ids') :
    Reports a (balances ++ balances') (ids ++ ids') := by
  simp only [Reports, List.map_append] at *
  rw [h, h']

theorem Reports.length {a : HDAccount XPub Address}
    {balances : List (HDAddressBalance Address Balance)} {ids : List HDAddressId}
    (h : Reports a balances ids) : balances.length = ids.length := by
  simpa using congrArg List.length h

/-! ## What every operation keeps -/

namespace AccountState

structure Sound (coin : HDCoin XPub Address Balance) (s : AccountState XPub Address) : Prop where
  synced : s.storage s.account.accountId = some s.account.toStorageItem
  cached : ∀ id a, s.account.derivedAddresses id = some a →
    coin.deriveHDAddress s.account id = .ok a

/-- The second account is the first one with other numbers and another cache. -/
structure SameKeys (a a' : HDAccount XPub Address) : Prop where
  accountId : a'.accountId = a.accountId
  extendedPubkey : a'.extendedPubkey = a.extendedPubkey
  accountDerivationPath : a'.accountDerivationPath = a.accountDerivationPath

structure Grows (coin : HDCoin XPub Address Balance) (s s' : AccountState XPub Address) :
    Prop where
  sound : s'.Sound coin
  keys : SameKeys s.account s'.account
  known_le : ∀ c, s.account.knownAddressesNumber c ≤ s'.account.knownAddressesNumber c
  cached : ∀ id a, s.account.derivedAddresses id = some a →
    s'.account.derivedAddresses id = some a
  frame : ∀ id, id ≠ s.account.accountId → s'.storage id = s.storage id

variable {coin : HDCoin XPub Address Balance} {s s' s'' : AccountState XPub Address}

theorem Grows.refl (h : s.Sound coin) : Grows coin s s where
  sound := h
  keys := ⟨rfl, rfl, rfl⟩
  known_le _ := Nat.le_refl _
  cached _ _ h := h
  frame _ _ := rfl

theorem Grows.trans (h : Grows coin s s') (h' : Grows coin s' s'') : Grows coin s s'' where
  sound := h'.sound
  keys := by
    constructor
    · exact h'.keys.accountId.trans h.keys.accountId
    · exact h'.keys.extendedPubkey.trans h.keys.extendedPubkey
    · exact h'.keys.accountDerivationPath.trans h.keys.accountDerivationPath
  known_le c := le_trans (h.known_le c) (h'.known_le c)
  cached id a ha := h'.cached id a (h.cached id a ha)
  frame id hid := by
    rw [h'.frame id (by simpa [h.keys.accountId] using hid), h.frame id hid]

theorem SameKeys.addressPath {a a' : HDAccount XPub Address} (h : SameKeys a a')
    (id : HDAddressId) : a'.addressPath id = a.addressPath id := by
  simp [HDAccount.addressPath, h.accountDerivationPath]

theorem SameKeys.deriveHDAddress {a a' : HDAccount XPub Address} (h : SameKeys a a')
    (id : HDAddressId) : coin.deriveHDAddress a' id = coin.deriveHDAddress a id := by
  simp [HDCoin.deriveHDAddress, h.extendedPubkey, h.accountDerivationPath]

theorem SameKeys.reports {a a' : HDAccount XPub Address} (h : SameKeys a a')
    {balances : List (HDAddressBalance Address Balance)} {ids : List HDAddressId} :
    Reports a' balances ids ↔ Reports a balances ids := by
  have heq : a'.addressPath = a.addressPath := funext h.addressPath
  simp [Reports, heq]

end AccountState

open AccountState

/-- The operation keeps what every operation keeps, and with a result `Q` holds. -/
def Ends (coin : HDCoin XPub Address Balance) (m : AccountAction XPub Address ε α)
    (s : AccountState XPub Address) (Q : α → AccountState XPub Address → Prop) : Prop :=
  Sat m s (fun a s' => Grows coin s s' ∧ Q a s') (Grows coin s)

section Rules

variable {coin : HDCoin XPub Address Balance} {s : AccountState XPub Address}
  {m : AccountAction XPub Address ε α} {f : α → AccountAction XPub Address ε β}
  {Q : α → AccountState XPub Address → Prop}

theorem Ends.mono {Q' : α → AccountState XPub Address → Prop} (h : Ends coin m s Q)
    (hQ : ∀ a s', Grows coin s s' → Q a s' → Q' a s') : Ends coin m s Q' := by
  apply Sat.mono h
  · exact fun a s' h => ⟨h.1, hQ a s' h.1 h.2⟩
  · exact fun _ h => h

theorem Ends.grows (h : Ends coin m s Q) : Grows coin s (exec m s).2 := by
  rcases hexec : exec m s with ⟨_ | _, s'⟩
  · exact h.of_error hexec
  · exact (h.of_ok hexec).1

theorem Ends.of_fst_eq_ok (h : Ends coin m s Q) {a : α} (ha : (exec m s).1 = .ok a) :
    Q a (exec m s).2 :=
  (h.of_ok (Prod.ext ha rfl)).2

theorem ends_pure {a : α} (h : s.Sound coin) (hQ : Q a s) :
    Ends coin (pure a : AccountAction XPub Address ε α) s Q := ⟨.refl h, hQ⟩

theorem ends_throw {e : ε} (h : s.Sound coin) :
    Ends coin (throw e : AccountAction XPub Address ε α) s Q := Grows.refl h

theorem ends_get_bind {f : AccountState XPub Address → AccountAction XPub Address ε α} :
    Ends coin (get >>= f) s Q ↔ Ends coin (f s) s Q := by simp [Ends]

theorem ends_ofResult_bind {r : Except ε α} {Q : β → AccountState XPub Address → Prop}
    (h : s.Sound coin) (hf : ∀ a, r = .ok a → Ends coin (f a) s Q) :
    Ends coin (ofResult r >>= f) s Q := by
  simp only [Ends, sat_bind, sat_ofResult]
  constructor
  · exact hf
  · exact fun _ _ => .refl h

theorem ends_modify_bind {g : AccountState XPub Address → AccountState XPub Address}
    {f : Unit → AccountAction XPub Address ε α} (h : Grows coin s (g s))
    (hf : Ends coin (f ()) (g s) Q) : Ends coin (modify g >>= f) s Q := by
  simp only [Ends, sat_bind, sat_modify]
  apply Sat.mono hf
  · exact fun a s' h' => ⟨h.trans h'.1, h'.2⟩
  · exact fun _ h' => h.trans h'

theorem ends_mapErr {g : ε → δ} : Ends coin (mapErr g m) s Q ↔ Ends coin m s Q := by simp [Ends]

theorem Ends.bind {Q' : β → AccountState XPub Address → Prop} (h : Ends coin m s Q)
    (hf : ∀ a s', Grows coin s s' → Q a s' → Ends coin (f a) s' Q') :
    Ends coin (m >>= f) s Q' := by
  rw [Ends, sat_bind]
  apply Sat.mono h
  · intro a s' h'
    apply Sat.mono (hf a s' h'.1 h'.2)
    · exact fun b s'' h'' => ⟨h'.1.trans h''.1, h''.2⟩
    · exact fun s'' h'' => h'.1.trans h''
  · exact fun _ h => h

theorem ends_mapM {l : List α} {g : α → AccountAction XPub Address ε β}
    {I : List α → List β → AccountState XPub Address → Prop} (hs : s.Sound coin) (h : I [] [] s)
    (hstep : ∀ done a bs s', Grows coin s s' → I done bs s' →
      Ends coin (g a) s' fun b => I (done ++ [a]) (bs ++ [b])) :
    Ends coin (l.mapM g) s (I l) := by
  apply sat_mapM fun done bs s' => Grows coin s s' ∧ I done bs s'
  · intro done a bs s' hI
    apply Sat.mono (hstep done a bs s' hI.1 hI.2)
    · exact fun b s'' h'' => ⟨hI.1.trans h''.1, h''.2⟩
    · exact fun s'' h'' => hI.1.trans h''
  · exact ⟨.refl hs, h⟩

end Rules

/-! ## What the operations do -/

namespace HDAccount

variable (a : HDAccount XPub Address)

@[simp] theorem known_cacheAddress (id : HDAddressId) (hdAddress : HDAddress Address) :
    (a.cacheAddress id hdAddress).knownAddressesNumber = a.knownAddressesNumber := by
  funext c
  cases c <;> rfl

@[simp] theorem known_setKnownAddressesNumber (num : ℕ) (chain : Bip44Chain) :
    (a.setKnownAddressesNumber num chain).knownAddressesNumber =
      Function.update a.knownAddressesNumber chain num := by
  funext c
  cases c <;> cases chain <;> rfl

@[simp] theorem toStorageItem_setKnownAddressesNumber (num : ℕ) (chain : Bip44Chain) :
    (a.setKnownAddressesNumber num chain).toStorageItem =
      a.toStorageItem.setAddressesNumber num chain := by cases chain <;> rfl

/-- An address with this id has been derived. -/
def Cached (id : HDAddressId) : Prop := ∃ hdAddress, a.derivedAddresses id = some hdAddress

end HDAccount

theorem AccountState.Grows.mono_cached {coin : HDCoin XPub Address Balance}
    {s s' : AccountState XPub Address} (h : Grows coin s s') {id : HDAddressId}
    (hid : s.account.Cached id) : s'.account.Cached id :=
  hid.imp (h.cached id)

namespace HDCoin

variable (coin : HDCoin XPub Address Balance) {s : AccountState XPub Address}

theorem derivationPath_of_deriveHDAddress {a : HDAccount XPub Address} {id : HDAddressId}
    {hdAddress : HDAddress Address} (h : coin.deriveHDAddress a id = .ok hdAddress) :
    hdAddress.derivationPath = a.addressPath id := by
  simp only [deriveHDAddress, bind, Except.bind] at h
  split at h
  · cases h
  · split at h
    · cases h
    · cases h
      rfl

theorem grows_cacheAddress {id : HDAddressId} {hdAddress : HDAddress Address} (h : s.Sound coin)
    (hderive : coin.deriveHDAddress s.account id = .ok hdAddress) :
    Grows coin s (s.cacheAddress id hdAddress) where
  sound := by
    constructor
    · exact h.synced
    · intro id' a ha
      by_cases hid : id' = id
      · subst hid
        have hsame : hdAddress = a := by
          simpa [AccountState.cacheAddress, HDAccount.cacheAddress] using ha
        exact hsame ▸ hderive
      · apply h.cached
        simpa [AccountState.cacheAddress, HDAccount.cacheAddress, hid] using ha
  keys := ⟨rfl, rfl, rfl⟩
  known_le c := by simp [AccountState.cacheAddress]
  cached id' a ha := by
    by_cases hid : id' = id
    · subst hid
      have hsame := (h.cached id' a ha).symm.trans hderive
      simp only [Except.ok.injEq] at hsame
      simp [AccountState.cacheAddress, HDAccount.cacheAddress, hsame]
    · simpa [AccountState.cacheAddress, HDAccount.cacheAddress, hid] using ha
  frame _ _ := rfl

/-- The addresses with these ids are derived and are in the cache. -/
def Derived (s : AccountState XPub Address) (ids : List HDAddressId)
    (hdAddresses : List (HDAddress Address)) (s' : AccountState XPub Address) : Prop :=
  s'.account.knownAddressesNumber = s.account.knownAddressesNumber ∧
    List.Forall₂ (fun id a => coin.deriveHDAddress s.account id = .ok a ∧
      s'.account.derivedAddresses id = some a) ids hdAddresses

theorem Derived.paths {coin : HDCoin XPub Address Balance} {s s' : AccountState XPub Address}
    {ids : List HDAddressId} {hdAddresses : List (HDAddress Address)}
    (h : coin.Derived s ids hdAddresses s') :
    hdAddresses.map HDAddress.derivationPath = ids.map s.account.addressPath := by
  obtain ⟨-, h⟩ := h
  induction h with
  | nil => rfl
  | cons hhead _ ih => simp [coin.derivationPath_of_deriveHDAddress hhead.1, ih]

theorem Derived.cached {coin : HDCoin XPub Address Balance} {s s' : AccountState XPub Address}
    {ids : List HDAddressId} {hdAddresses : List (HDAddress Address)}
    (h : coin.Derived s ids hdAddresses s') : ∀ id ∈ ids, s'.account.Cached id := by
  obtain ⟨-, h⟩ := h
  induction h with
  | nil => simp
  | cons hhead _ ih => simpa [HDAccount.Cached, hhead.2] using ih

theorem deriveAddressWithCache_ends (h : s.Sound coin) (id : HDAddressId) :
    Ends coin (coin.deriveAddressWithCache id) s fun a s' => coin.Derived s [id] [a] s' := by
  rw [deriveAddressWithCache, ends_get_bind]
  cases hcache : s.account.derivedAddresses id with
  | some a =>
    apply ends_pure h
    simp [Derived, h.cached id a hcache, hcache]
  | none =>
    apply ends_ofResult_bind h
    intro a ha
    have hgrows := coin.grows_cacheAddress h ha
    apply ends_modify_bind hgrows
    apply ends_pure hgrows.sound
    constructor
    · exact s.account.known_cacheAddress id a
    · simp [ha, AccountState.cacheAddress, HDAccount.cacheAddress]

theorem deriveAddresses_ends (h : s.Sound coin) (ids : List HDAddressId) :
    Ends coin (coin.deriveAddresses ids) s (coin.Derived s ids) := by
  apply ends_mapM h
  · exact ⟨rfl, .nil⟩
  · intro done id hdAddresses s' hs' hdone
    apply (coin.deriveAddressWithCache_ends hs'.sound id).mono
    intro a s'' hs'' hid
    constructor
    · exact hid.1.trans hdone.1
    · apply List.rel_append
      · apply hdone.2.imp
        exact fun id a ha => ⟨ha.1, hs''.cached id a ha.2⟩
      · simpa [Derived, hs'.keys.deriveHDAddress] using hid.2

theorem deriveAddress_ends (h : s.Sound coin) (chain : Bip44Chain) (addressId : ℕ) :
    Ends coin (coin.deriveAddress chain addressId) s
      fun a s' => coin.Derived s [{ chain, addressId }] [a] s' := by
  apply Ends.bind (coin.deriveAddresses_ends h _)
  intro hdAddresses s' hs' hderived
  match hdAddresses, hderived with
  | [a], hderived => exact ends_pure hs'.sound hderived

/-- The row of the account and the account itself get the same number. -/
theorem grows_setKnownAddressesNumber (h : s.Sound coin) {chain : Bip44Chain} {num : ℕ}
    (hnum : s.account.knownAddressesNumber chain ≤ num) :
    Grows coin s ((s.updateAddressesNumber chain num).setKnownAddressesNumber chain num) where
  sound := by
    constructor
    · have hid : (s.account.setKnownAddressesNumber num chain).accountId = s.account.accountId := by
        cases chain <;> rfl
      simp [AccountState.updateAddressesNumber, AccountState.setKnownAddressesNumber, hid, h.synced]
    · cases chain <;> exact h.cached
  keys := by cases chain <;> exact ⟨rfl, rfl, rfl⟩
  known_le c := by
    by_cases hc : c = chain
    · subst hc
      simpa [AccountState.updateAddressesNumber, AccountState.setKnownAddressesNumber] using hnum
    · simp [AccountState.updateAddressesNumber, AccountState.setKnownAddressesNumber, hc]
  cached id a ha := by cases chain <;> exact ha
  frame id hid := by
    simp [AccountState.updateAddressesNumber, AccountState.setKnownAddressesNumber, hid]

theorem setKnownAddressesNumber_ends (h : s.Sound coin) {chain : Bip44Chain} {num : ℕ}
    (hnum : s.account.knownAddressesNumber chain ≤ num) :
    Ends coin (coin.setKnownAddressesNumber chain num) s fun _ s' =>
      s'.account.knownAddressesNumber =
        Function.update s.account.knownAddressesNumber chain num := by
  rw [setKnownAddressesNumber, ends_get_bind]
  split
  · exact ends_throw h
  · apply ends_ofResult_bind h
    intro _ _
    simp only [Ends, sat_bind, sat_modify]
    constructor
    · exact coin.grows_setKnownAddressesNumber h hnum
    · simp [AccountState.updateAddressesNumber, AccountState.setKnownAddressesNumber]

theorem generateNewAddress_ends (h : s.Sound coin) (chain : Bip44Chain) :
    Ends coin (coin.generateNewAddress chain) s fun a s' =>
      let num := s.account.knownAddressesNumber chain
      s'.account.knownAddressesNumber =
          Function.update s.account.knownAddressesNumber chain (num + 1) ∧
        a.derivationPath = s.account.addressPath { chain, addressId := num } ∧
        s'.account.Cached { chain, addressId := num } := by
  rw [generateNewAddress, ends_get_bind]
  dsimp only
  split
  · exact ends_throw h
  · apply Ends.bind (ends_mapErr.mpr (coin.deriveAddress_ends h _ _))
    intro a s' hs' hderived
    have hnum : s'.account.knownAddressesNumber chain ≤
        s.account.knownAddressesNumber chain + 1 := by simp [hderived.1]
    apply Ends.bind (ends_mapErr.mpr (coin.setKnownAddressesNumber_ends hs'.sound hnum))
    intro _ s'' hs'' hknown
    apply ends_pure hs''.sound
    constructor
    · rw [hknown, hderived.1]
    · constructor
      · simpa using hderived.paths
      · exact hs''.mono_cached (hderived.cached _ (by simp))

/-! ## The known addresses -/

theorem map_zipBalances (chain : Bip44Chain) {hdAddresses : List (HDAddress Address)}
    {balances : List (Address × Balance)}
    (h : balances.map Prod.fst = hdAddresses.map HDAddress.address) :
    (zipBalances chain hdAddresses balances).map HDAddressBalance.derivationPath =
      hdAddresses.map HDAddress.derivationPath := by
  induction hdAddresses generalizing balances with
  | nil => simp [zipBalances]
  | cons a rest ih =>
    cases balances with
    | nil => simp at h
    | cons b balances =>
      simp only [List.map_cons, List.cons.injEq] at h
      simpa [zipBalances] using ih h.2

/-- The balances report the addresses with these ids, which are in the cache, and the account has
these numbers of known addresses. -/
structure Covers (a : HDAccount XPub Address) (ids : List HDAddressId) (known : Bip44Chain → ℕ)
    (balances : List (HDAddressBalance Address Balance)) (s' : AccountState XPub Address) :
    Prop where
  known : s'.account.knownAddressesNumber = known
  reports : Reports a balances ids
  cached : ∀ id ∈ ids, s'.account.Cached id

theorem Covers.append {coin : HDCoin XPub Address Balance} {s s' s'' : AccountState XPub Address}
    {ids ids' : List HDAddressId} {known known' : Bip44Chain → ℕ}
    {balances balances' : List (HDAddressBalance Address Balance)} (hs' : Grows coin s s')
    (hs'' : Grows coin s' s'') (h : Covers s.account ids known balances s')
    (h' : Covers s'.account ids' known' balances' s'') :
    Covers s.account (ids ++ ids') known' (balances ++ balances') s'' where
  known := h'.known
  reports := h.reports.append (hs'.keys.reports.mp h'.reports)
  cached id hid := by
    cases List.mem_append.mp hid with
    | inl hid => exact hs''.mono_cached (h.cached id hid)
    | inr hid => exact h'.cached id hid

theorem Covers.of_sameKeys {a a' : HDAccount XPub Address} {ids : List HDAddressId}
    {known : Bip44Chain → ℕ} {balances : List (HDAddressBalance Address Balance)}
    {s' : AccountState XPub Address} (hkeys : SameKeys a a')
    (h : Covers a' ids known balances s') : Covers a ids known balances s' where
  known := h.known
  reports := hkeys.reports.mp h.reports
  cached := h.cached

theorem knownAddressesBalancesWithIds_ends (h : s.Sound coin) (chain : Bip44Chain) (num : ℕ) :
    Ends coin (coin.knownAddressesBalancesWithIds chain (List.range num)) s
      (Covers s.account (idRange chain 0 num) s.account.knownAddressesNumber) := by
  apply Ends.bind (ends_mapErr.mpr (coin.deriveAddresses_ends h _))
  intro hdAddresses s' hs' hderived
  apply ends_ofResult_bind hs'.sound
  intro balances hbalances
  apply ends_pure hs'.sound
  have hids : (List.range num).map (fun addressId => HDAddressId.mk chain addressId) =
      idRange chain 0 num := by simp [idRange, List.range_eq_range']
  rw [hids] at hderived
  constructor
  · exact hderived.1
  · rw [Reports, map_zipBalances chain (coin.knownAddressesBalances_fst _ _ hbalances)]
    exact hderived.paths
  · exact hderived.cached

end HDCoin

/-- The chains that a coin of this protocol asks for and scans. -/
def CoinProtocol.chains : CoinProtocol → List Bip44Chain
  | .utxo => [.external, .internal]
  | .eth => [.external]

namespace HDCoin

variable (coin : HDCoin XPub Address Balance) {s : AccountState XPub Address}

theorem allKnownAddressesBalances_ends (h : s.Sound coin) :
    Ends coin coin.allKnownAddressesBalances s
      (Covers s.account
        (coin.protocol.chains.flatMap fun c => idRange c 0 (s.account.knownAddressesNumber c))
        s.account.knownAddressesNumber) := by
  rw [allKnownAddressesBalances, ends_get_bind]
  cases coin.protocol with
  | utxo =>
    apply Ends.bind (coin.knownAddressesBalancesWithIds_ends h _ _)
    intro balances s' hs' hcovers
    apply Ends.bind (coin.knownAddressesBalancesWithIds_ends hs'.sound _ _)
    intro more s'' hs'' hmore
    apply ends_pure hs''.sound
    have hboth := hcovers.append hs' hs'' hmore
    rw [hcovers.known] at hboth
    simpa [CoinProtocol.chains] using hboth
  | eth => simpa [CoinProtocol.chains] using coin.knownAddressesBalancesWithIds_ends h _ _

/-! ## The scan -/

/-- The network has seen the address. -/
def usedAt (a : HDAccount XPub Address) (chain : Bip44Chain) (addressId : ℕ) : Bool :=
  match coin.deriveHDAddress a { chain, addressId } with
  | .ok hdAddress =>
    match coin.isAddressUsed hdAddress.address hdAddress.derivationPath with
    | .ok used => used
    | .error _ => false
  | .error _ => false

/-- The number of known addresses after a scan. -/
def scannedNumber (gapLimit : ℕ) (a : HDAccount XPub Address) (chain : Bip44Chain) : ℕ :=
  frontier (coin.usedAt a chain) gapLimit (a.addressLimit - a.knownAddressesNumber chain)
    (a.knownAddressesNumber chain) 0

/-- A scan comes to know what it can reach over gaps of unused addresses, and no more. -/
theorem lt_scannedNumber_iff (gapLimit : ℕ) (a : HDAccount XPub Address) (chain : Bip44Chain)
    (addressId : ℕ) : addressId < coin.scannedNumber gapLimit a chain ↔
      addressId < a.knownAddressesNumber chain ∨ ∃ n, addressId < n ∧
        Reaches (coin.usedAt a chain) gapLimit a.addressLimit (a.knownAddressesNumber chain) n :=
  le_frontier_iff

theorem known_le_scannedNumber (gapLimit : ℕ) (a : HDAccount XPub Address) (chain : Bip44Chain) :
    a.knownAddressesNumber chain ≤ coin.scannedNumber gapLimit a chain := known_le_frontier

theorem usedAt_of_sameKeys {a a' : HDAccount XPub Address} (h : SameKeys a a') :
    coin.usedAt a' = coin.usedAt a := by
  funext chain addressId
  simp [HDCoin.usedAt, h.deriveHDAddress]

theorem usedAt_of_status {a : HDAccount XPub Address} {chain : Bip44Chain} {addressId : ℕ}
    {hdAddress : HDAddress Address} {status : Option Balance}
    (hderive : coin.deriveHDAddress a { chain, addressId } = .ok hdAddress)
    (hstatus : coin.addressBalanceStatus hdAddress = .ok status) :
    coin.usedAt a chain addressId = status.isSome := by
  simp only [usedAt, hderive]
  simp only [addressBalanceStatus, bind, Except.bind] at hstatus
  split at hstatus
  · cases hstatus
  · next used hused =>
    rw [hused]
    cases used with
    | false =>
      cases hstatus
      rfl
    | true =>
      cases hbalance : coin.knownAddressBalance hdAddress.address with
      | error e => simp [hbalance] at hstatus
      | ok balance =>
        simp [hbalance] at hstatus
        simp [← hstatus]

/-- The loop knows the ids up to `known` and has found the next `unused` ones not used. -/
theorem scanLoop_ends (h : s.Sound coin) (chain : Bip44Chain) (gapLimit : ℕ) {first known : ℕ}
    (hfirst : first ≤ known) (fuel unused : ℕ)
    (balances : List (HDAddressBalance Address Balance))
    (hreports : Reports s.account balances (idRange chain first known))
    (hcached : ∀ id ∈ idRange chain first known, s.account.Cached id) :
    Ends coin (coin.scanLoop chain gapLimit fuel (known + unused) unused balances) s
      fun result s' =>
        result.2 = frontier (coin.usedAt s.account chain) gapLimit fuel known unused ∧
          Covers s.account (idRange chain first result.2) s.account.knownAddressesNumber
            result.1 s' := by
  induction fuel generalizing s known unused balances with
  | zero =>
    apply ends_pure h
    simp only [Nat.add_sub_cancel]
    exact ⟨rfl, rfl, hreports, hcached⟩
  | succ fuel ih =>
    rw [scanLoop, Library.GapScan.frontier]
    split
    · apply Ends.bind (ends_mapErr.mpr (coin.deriveAddress_ends h _ _))
      intro hdAddress s' hs' hderived
      apply ends_ofResult_bind hs'.sound
      intro status hstatus
      obtain ⟨hderive, hin⟩ :
          coin.deriveHDAddress s.account { chain, addressId := known + unused } = .ok hdAddress ∧
            s'.account.derivedAddresses { chain, addressId := known + unused } =
              some hdAddress := by simpa using hderived.2
      have hused := coin.usedAt_of_status hderive hstatus
      have hkept : ∀ id ∈ idRange chain first known, s'.account.Cached id :=
        fun id hid => hs'.mono_cached (hcached id hid)
      cases status with
      | none =>
        rw [if_neg (by simp [hused])]
        apply (ih hs'.sound hfirst (unused + 1) balances (hs'.keys.reports.mpr hreports) hkept).mono
        intro result s'' _ hresult
        rw [coin.usedAt_of_sameKeys hs'.keys, hderived.1] at hresult
        exact ⟨hresult.1, hresult.2.of_sameKeys hs'.keys⟩
      | some nonEmptyBalance =>
        rw [if_pos (by simp [hused])]
        have hids : (List.range' (known + unused - unused) unused).map
            (fun addressId => HDAddressId.mk chain addressId) =
            idRange chain known (known + unused) := by simp [idRange]
        dsimp only
        rw [hids]
        apply Ends.bind (ends_mapErr.mpr (coin.deriveAddresses_ends hs'.sound _))
        intro emptyAddresses s'' hs'' hempty
        have hall : idRange chain first (known + unused + 1) =
            idRange chain first known ++ idRange chain known (known + unused) ++
              [{ chain, addressId := known + unused }] := by
          rw [idRange_append chain hfirst (by omega), ← idRange_succ,
            idRange_append chain (by omega) (by omega)]
        have hkeys : SameKeys s.account s''.account := (hs'.trans hs'').keys
        have hfound : Reports s''.account
            (balances ++ emptyAddresses.map (coin.emptyBalance chain) ++
              [{ coin.emptyBalance chain hdAddress with balance := nonEmptyBalance }])
            (idRange chain first (known + unused + 1)) := by
          rw [hall, hkeys.reports]
          apply (hreports.append _).append
          · simpa [Reports, emptyBalance] using coin.derivationPath_of_deriveHDAddress hderive
          · apply hs'.keys.reports.mp
            simpa [Reports, emptyBalance, Function.comp_def] using hempty.paths
        have hknown : ∀ id ∈ idRange chain first (known + unused + 1), s''.account.Cached id := by
          intro id hid
          rw [hall] at hid
          simp only [List.mem_append, List.mem_singleton] at hid
          rcases hid with (hid | hid) | rfl
          · exact hs''.mono_cached (hkept id hid)
          · exact hempty.cached id hid
          · exact hs''.mono_cached ⟨hdAddress, hin⟩
        apply (ih hs''.sound (by omega) 0 _ hfound hknown).mono
        intro result t _ hresult
        rw [coin.usedAt_of_sameKeys hkeys, hempty.1, hderived.1] at hresult
        exact ⟨hresult.1, hresult.2.of_sameKeys hkeys⟩
    · apply ends_pure h
      simp only [Nat.add_sub_cancel]
      exact ⟨trivial, rfl, hreports, hcached⟩

end HDCoin

end DeXFG.HdWallet
