import DeXFG.HdWallet.Types
import DeXFG.Library.Stateful

/-!
# Activation of an HD wallet

What is derived, asked and stored when a coin is activated in HD mode. The operations on one
account run on that account and the storage, and a failed one keeps what it had changed.
-/
namespace DeXFG.HdWallet
open Library.Stateful (Action exec ofResult mapErr)

/-- A borrowed account and the storage of the wallet. -/
structure AccountState (XPub Address : Type) where
  account : HDAccount XPub Address
  storage : HDWalletCoinStorage XPub

namespace AccountState

variable {XPub Address : Type} (s : AccountState XPub Address)

def cacheAddress (id : HDAddressId) (hdAddress : HDAddress Address) : AccountState XPub Address :=
  { s with account := s.account.cacheAddress id hdAddress }

/-- Updates the row of the account, if there is one. -/
def updateAddressesNumber (chain : Bip44Chain) (num : ℕ) : AccountState XPub Address where
  account := s.account
  storage := Function.update s.storage s.account.accountId
    ((s.storage s.account.accountId).map (·.setAddressesNumber num chain))

def setKnownAddressesNumber (chain : Bip44Chain) (num : ℕ) : AccountState XPub Address :=
  { s with account := s.account.setKnownAddressesNumber num chain }

end AccountState

abbrev AccountAction (XPub Address ε α : Type) := Action (AccountState XPub Address) ε α

variable {XPub Address Balance : Type}

namespace HDCoin

variable (coin : HDCoin XPub Address Balance)

/-! ## Addresses -/

/-- The address of an account, derived without the cache. -/
def deriveHDAddress (hdAccount : HDAccount XPub Address) (id : HDAddressId) :
    Except AddressDerivingError (HDAddress Address) := do
  let changeChild := id.chain.toChildNumber
  let changePubkey ← (coin.deriveChild hdAccount.extendedPubkey changeChild).mapError .bip32Error
  let derivedPubkey ← (coin.deriveChild changePubkey id.addressId).mapError .bip32Error
  pure {
    address := coin.addressFromExtendedPubkey derivedPubkey
    derivationPath := hdAccount.accountDerivationPath ++ [changeChild, id.addressId] }

def deriveAddressWithCache (id : HDAddressId) :
    AccountAction XPub Address AddressDerivingError (HDAddress Address) := do
  let s ← get
  match s.account.derivedAddresses id with
  | some hdAddress => pure hdAddress
  | none => do
    let hdAddress ← ofResult (coin.deriveHDAddress s.account id)
    modify fun s => s.cacheAddress id hdAddress
    pure hdAddress

def deriveAddresses (ids : List HDAddressId) :
    AccountAction XPub Address AddressDerivingError (List (HDAddress Address)) :=
  ids.mapM coin.deriveAddressWithCache

def deriveAddress (chain : Bip44Chain) (addressId : ℕ) :
    AccountAction XPub Address AddressDerivingError (HDAddress Address) := do
  match ← coin.deriveAddresses [{ chain, addressId }] with
  | [hdAddress] => pure hdAddress
  | [] => throw (.internal "got zero elements when exactly one was expected")
  | _ => throw (.internal "got at least 2 elements when exactly one was expected")

/-- The storage is updated first. -/
def setKnownAddressesNumber (chain : Bip44Chain) (newKnownAddressesNumber : ℕ) :
    AccountAction XPub Address AccountUpdatingError Unit := do
  let s ← get
  if s.account.addressLimit ≤ newKnownAddressesNumber then
    throw (.addressLimitReached s.account.addressLimit)
  else do
    ofResult ((coin.updateAddressesNumber chain s.account.accountId
      newKnownAddressesNumber).mapError .walletStorageError)
    modify fun s => s.updateAddressesNumber chain newKnownAddressesNumber
    modify fun s => s.setKnownAddressesNumber chain newKnownAddressesNumber

def generateNewAddress (chain : Bip44Chain) :
    AccountAction XPub Address NewAddressDerivingError (HDAddress Address) := do
  let s ← get
  let knownAddressesNumber := s.account.knownAddressesNumber chain
  if s.account.addressLimit ≤ knownAddressesNumber then
    throw (.addressLimitReached s.account.addressLimit)
  else do
    let hdAddress ← mapErr .fromAddressDerivingError
      (coin.deriveAddress chain knownAddressesNumber)
    mapErr .fromAccountUpdatingError
      (coin.setKnownAddressesNumber chain (knownAddressesNumber + 1))
    pure hdAddress

/-! ## Balances of the known addresses -/

/-- Pairs the answered balances with the derivation paths they were requested for. -/
def zipBalances (chain : Bip44Chain) (hdAddresses : List (HDAddress Address))
    (balances : List (Address × Balance)) : List (HDAddressBalance Address Balance) :=
  List.zipWith (fun (address, balance) hdAddress =>
    { address, derivationPath := hdAddress.derivationPath, chain, balance }) balances hdAddresses

def knownAddressesBalancesWithIds (chain : Bip44Chain) (addressIds : List ℕ) :
    AccountAction XPub Address BalanceError (List (HDAddressBalance Address Balance)) := do
  let hdAddresses ← mapErr .fromAddressDerivingError
    (coin.deriveAddresses (addressIds.map fun addressId => { chain, addressId }))
  let balances ← ofResult (coin.knownAddressesBalances (hdAddresses.map HDAddress.address))
  pure (zipBalances chain hdAddresses balances)

def allKnownAddressesBalances :
    AccountAction XPub Address BalanceError (List (HDAddressBalance Address Balance)) := do
  let s ← get
  let externalAddresses := s.account.knownAddressesNumber .external
  match coin.protocol with
  | .utxo => do
    let internalAddresses := s.account.knownAddressesNumber .internal
    let balances ← coin.knownAddressesBalancesWithIds .external (List.range externalAddresses)
    let more ← coin.knownAddressesBalancesWithIds .internal (List.range internalAddresses)
    pure (balances ++ more)
  | .eth => coin.knownAddressesBalancesWithIds .external (List.range externalAddresses)

/-! ## The scan for new addresses -/

/-- The balance of an address that has been used. -/
def addressBalanceStatus (hdAddress : HDAddress Address) : Except BalanceError (Option Balance) :=
  do
  if ← coin.isAddressUsed hdAddress.address hdAddress.derivationPath then
    some <$> coin.knownAddressBalance hdAddress.address
  else pure none

def emptyBalance (chain : Bip44Chain) (hdAddress : HDAddress Address) :
    HDAddressBalance Address Balance where
  address := hdAddress.address
  derivationPath := hdAddress.derivationPath
  chain := chain
  balance := coin.newBalance

/-- The loop of the scan, with at most `fuel` ids up to the address limit. -/
def scanLoop (chain : Bip44Chain) (gapLimit : ℕ) : (fuel checkingAddressId unused : ℕ) →
    List (HDAddressBalance Address Balance) →
    AccountAction XPub Address BalanceError (List (HDAddressBalance Address Balance) × ℕ)
  | 0, checkingAddressId, unused, balances => pure (balances, checkingAddressId - unused)
  | fuel + 1, checkingAddressId, unused, balances =>
    if unused ≤ gapLimit then do
      let hdAddress ← mapErr .fromAddressDerivingError
        (coin.deriveAddress chain checkingAddressId)
      match ← ofResult (coin.addressBalanceStatus hdAddress) with
      | some nonEmptyBalance => do
        let lastNonEmptyAddressId := checkingAddressId - unused
        let emptyAddresses ← mapErr .fromAddressDerivingError (coin.deriveAddresses
          ((List.range' lastNonEmptyAddressId unused).map fun addressId => { chain, addressId }))
        scanLoop chain gapLimit fuel (checkingAddressId + 1) 0
          (balances ++ emptyAddresses.map (coin.emptyBalance chain) ++
            [{ coin.emptyBalance chain hdAddress with balance := nonEmptyBalance }])
      | none => scanLoop chain gapLimit fuel (checkingAddressId + 1) (unused + 1) balances
    else pure (balances, checkingAddressId - unused)

def scanForNewAddressesImpl (chain : Bip44Chain) (gapLimit : ℕ) :
    AccountAction XPub Address BalanceError (List (HDAddressBalance Address Balance)) := do
  let s ← get
  let checkingAddressId := s.account.knownAddressesNumber chain
  let (balances, newKnownAddressesNumber) ← coin.scanLoop chain gapLimit
    (s.account.addressLimit - checkingAddressId) checkingAddressId 0 []
  mapErr .fromAccountUpdatingError (coin.setKnownAddressesNumber chain newKnownAddressesNumber)
  pure balances

def scanForNewAddresses (gapLimit : ℕ) :
    AccountAction XPub Address BalanceError (List (HDAddressBalance Address Balance)) :=
  match coin.protocol with
  | .utxo => do
    let addresses ← coin.scanForNewAddressesImpl .external gapLimit
    let more ← coin.scanForNewAddressesImpl .internal gapLimit
    pure (addresses ++ more)
  | .eth => coin.scanForNewAddressesImpl .external gapLimit

/-! ## Activation -/

/-- Generates addresses until `resultAddresses` has `minAddressesNumber` of them. -/
def genNewAddresses (chain : Bip44Chain)
    (resultAddresses : List (HDAddressBalance Address Balance)) (minAddressesNumber : ℕ) :
    AccountAction XPub Address EnableCoinBalanceError
      (List (HDAddressBalance Address Balance)) := do
  let s ← get
  if s.account.addressLimit ≤ minAddressesNumber then
    throw (.newAddressDerivingError (.addressLimitReached s.account.addressLimit))
  else if minAddressesNumber ≤ resultAddresses.length then pure resultAddresses
  else do
    let toGenerate := minAddressesNumber - resultAddresses.length
    let newAddresses ← (List.range toGenerate).mapM fun _ =>
      mapErr .newAddressDerivingError (coin.generateNewAddress chain)
    let balances ← ofResult ((coin.knownAddressesBalances
      (newAddresses.map HDAddress.address)).mapError .balanceError)
    pure (resultAddresses ++ List.zipWith (fun (_, balance) hdAddress =>
      { coin.emptyBalance chain hdAddress with balance }) balances newAddresses)

/-- Extends the addresses with what the scan finds. -/
def scanIf (scanNewAddresses : Bool) (gapLimit : ℕ)
    (addresses : List (HDAddressBalance Address Balance)) :
    AccountAction XPub Address EnableCoinBalanceError
      (List (HDAddressBalance Address Balance)) :=
  if scanNewAddresses then do
    let more ← mapErr .balanceError (coin.scanForNewAddresses gapLimit)
    pure (addresses ++ more)
  else pure addresses

def genIf (chain : Bip44Chain) (addresses : List (HDAddressBalance Address Balance)) :
    Option ℕ → AccountAction XPub Address EnableCoinBalanceError
      (List (HDAddressBalance Address Balance))
  | some minAddressesNumber => coin.genNewAddresses chain addresses minAddressesNumber
  | none => pure addresses

def enableHdAccount (chain : Bip44Chain) (gapLimit : ℕ) (scanNewAddresses : Bool)
    (minAddressesNumber : Option ℕ) :
    AccountAction XPub Address EnableCoinBalanceError (HDAccountBalance Address Balance) := do
  let known ← mapErr .balanceError coin.allKnownAddressesBalances
  let scanned ← coin.scanIf scanNewAddresses gapLimit known
  let addresses ← coin.genIf chain scanned minAddressesNumber
  let s ← get
  pure {
    accountIndex := s.account.accountId
    derivationPath := s.account.accountDerivationPath
    totalBalance := addresses.foldl (fun total a => coin.addBalance total a.balance)
      coin.newBalance
    addresses }

end HDCoin

namespace HDWallet

variable (wallet : HDWallet XPub Address)

def getAccount (accountId : ℕ) : Option (HDAccount XPub Address) :=
  wallet.accounts.find? fun a => a.accountId = accountId

def getEnabledAddress : Option (HDAddress Address) :=
  (wallet.getAccount wallet.enabledAddress.accountId).bind fun account =>
    account.derivedAddresses wallet.enabledAddress.hdAddressId

def accountLimit (_ : HDWallet XPub Address) : ℕ := DEFAULT_ACCOUNT_LIMIT

/-- The first id that is free. -/
def firstFreeAccountId : ℕ :=
  match wallet.accounts.getLast? with
  | none => 0
  | some last => ((List.range (last.accountId + 1)).find? fun id =>
      (wallet.getAccount id).isNone).getD (last.accountId + 1)

/-- The account goes into the map by its id, and its row into the storage. -/
def insertAccount (a : HDAccount XPub Address) (storage : HDWalletCoinStorage XPub) :
    HDWallet XPub Address :=
  { wallet with
    accounts := wallet.accounts.orderedInsert (fun a b => a.accountId ≤ b.accountId) a
    hdWalletStorage := storage }

end HDWallet

namespace HDCoin

variable (coin : HDCoin XPub Address Balance) (wallet : HDWallet XPub Address)

/-- The new account and the storage with its row. -/
def createNewAccount (accountId : Option ℕ) :
    Except NewAccountCreationError (AccountState XPub Address) := do
  let newAccountId := accountId.getD wallet.firstFreeAccountId
  if wallet.accountLimit ≤ newAccountId then throw (.accountLimitReached wallet.accountLimit)
  else do
    let accountDerivationPath := wallet.derivationPath ++ [HARDENED_FLAG + newAccountId]
    let accountPubkey ← coin.extractExtendedPubkey accountDerivationPath
    let newAccount := HDAccount.new newAccountId accountPubkey accountDerivationPath
    if (wallet.getAccount newAccountId).isSome then
      throw (.internal (s!"Account '{newAccountId}' has been activated while we proceed the " ++
        "'create_new_account' function"))
    else do
      (coin.uploadNewAccount newAccount.toStorageItem).mapError .fromHDWalletStorageError
      pure {
        account := newAccount
        storage := Function.update wallet.hdWalletStorage newAccountId
          (some newAccount.toStorageItem) }

/-- The accounts that were found, in order, with the storage that each leaves to the next. -/
def enableAccounts (params : EnabledCoinBalanceParams) (path : HDPathAccountToAddressId)
    (gapLimit : ℕ) : List (HDAccount XPub Address) → HDWalletCoinStorage XPub →
    Except EnableCoinBalanceError (HDWalletBalance Address Balance) ×
      List (HDAccount XPub Address) × HDWalletCoinStorage XPub
  | [], storage => (.ok [], [], storage)
  | account :: rest, storage =>
    let minAddressesNumber :=
      if account.accountId = path.accountId then
        max params.minAddressesNumber (some ((path.addressId + 1) % 2 ^ 32))
      else params.minAddressesNumber
    match exec (coin.enableHdAccount path.chain gapLimit (params.scanPolicy = .scan)
        minAddressesNumber) { account, storage } with
    | (.error e, s) => (.error e, s.account :: rest, s.storage)
    | (.ok accountBalance, s) =>
      let (result, accounts, storage) := enableAccounts params path gapLimit rest s.storage
      (result.map (accountBalance :: ·), s.account :: accounts, storage)

/-- A hardware wallet's coin must accept the enabled address. -/
def receiveEnabledAddress : Except EnableCoinBalanceError Unit :=
  if coin.isTrezor then
    match wallet.getEnabledAddress with
    | none => .error (.newAddressDerivingError (.internal
        "Couldn't find enabled address after it has already been enabled"))
    | some enabledAddress => (coin.receivedEnabledAddressFromHwWallet enabledAddress).mapError
        fun e => .newAddressDerivingError (.internal
          s!"Coin rejected the enabled address derived from the hardware wallet: {e}")
  else .ok ()

def enableHdWallet (params : EnabledCoinBalanceParams) (path : HDPathAccountToAddressId) :
    Except EnableCoinBalanceError (HDWalletBalance Address Balance) × HDWallet XPub Address :=
  match coin.produceHdAddressScanner with
  | .error e => (.error (.balanceError e), wallet)
  | .ok () =>
    match wallet.getAccount path.accountId with
    | none =>
      match coin.createNewAccount wallet (some path.accountId) with
      | .error e => (.error (.newAccountCreationError e), wallet)
      | .ok newAccount =>
        let (result, s) := exec (coin.enableHdAccount path.chain wallet.gapLimit
          (params.scanPolicy = .scanIfNewWallet ∨ params.scanPolicy = .scan)
          (max params.minAddressesNumber (some ((path.addressId + 1) % 2 ^ 32)))) newAccount
        let wallet' := wallet.insertAccount s.account s.storage
        (result.bind fun accountBalance =>
          (coin.receiveEnabledAddress wallet').map fun _ => [accountBalance], wallet')
    | some _ =>
      let (result, accounts, hdWalletStorage) :=
        coin.enableAccounts params path wallet.gapLimit wallet.accounts wallet.hdWalletStorage
      let wallet' := { wallet with accounts, hdWalletStorage }
      (result.bind fun report => (coin.receiveEnabledAddress wallet').map fun _ => report, wallet')

end HDCoin

end DeXFG.HdWallet
