import Mathlib.Tactic

/-!
# HD wallets: accounts, their storage and the coin

A coin is taken with what it derives, asks of the network and stores; the storage keeps nothing
of a write that it answers with an error.
-/
namespace DeXFG.HdWallet

inductive Bip44Chain where
  | external
  | internal
  deriving DecidableEq, Repr

/-- A child of a derivation path, hardened from `HARDENED_FLAG` on. -/
abbrev ChildNumber := ℕ

def HARDENED_FLAG : ℕ := 2 ^ 31

def Bip44Chain.toChildNumber : Bip44Chain → ChildNumber
  | .external => 0
  | .internal => 1

theorem Bip44Chain.toChildNumber_inj {c c' : Bip44Chain}
    (h : c.toChildNumber = c'.toChildNumber) : c = c' := by
  cases c <;> cases c' <;> simp_all [toChildNumber]

abbrev DerivationPath := List ChildNumber

structure HDAddressId where
  chain : Bip44Chain
  addressId : ℕ
  deriving DecidableEq, Repr

structure HDPathAccountToAddressId where
  accountId : ℕ
  chain : Bip44Chain
  addressId : ℕ
  deriving DecidableEq, Repr

def HDPathAccountToAddressId.hdAddressId (path : HDPathAccountToAddressId) : HDAddressId where
  chain := path.chain
  addressId := path.addressId

/-! ## The errors -/

inductive HDWalletStorageError where
  | hdWalletUnavailable
  | errorSaving (e : String)
  | errorLoading (e : String)
  | errorDeserializing (e : String)
  | errorSerializing (e : String)
  | internal (e : String)
  deriving DecidableEq, Repr

def HDWalletStorageError.text : HDWalletStorageError → String
  | .hdWalletUnavailable => "HD wallet not allowed"
  | .errorSaving e => s!"Error saving changes in HD wallet storage: {e}"
  | .errorLoading e => s!"Error loading from HD wallet storage: {e}"
  | .errorDeserializing e => s!"Error deserializing a swap: {e}"
  | .errorSerializing e => s!"Error serializing a swap: {e}"
  | .internal e => s!"Internal error: {e}"

inductive AddressDerivingError where
  | bip32Error (e : String)
  | internal (e : String)
  deriving DecidableEq, Repr

def AddressDerivingError.text : AddressDerivingError → String
  | .bip32Error e => s!"BIP32 address deriving error: {e}"
  | .internal e => e

inductive AccountUpdatingError where
  | addressLimitReached (maxAddressesNumber : ℕ)
  | walletStorageError (e : HDWalletStorageError)
  deriving DecidableEq, Repr

def AccountUpdatingError.text : AccountUpdatingError → String
  | .addressLimitReached maxAddressesNumber => toString maxAddressesNumber
  | .walletStorageError e => e.text

inductive NewAddressDerivingError where
  | addressLimitReached (maxAddressesNumber : ℕ)
  | bip32Error (e : String)
  | walletStorageError (e : HDWalletStorageError)
  | internal (e : String)
  deriving DecidableEq, Repr

namespace NewAddressDerivingError

def fromAddressDerivingError : AddressDerivingError → NewAddressDerivingError
  | .bip32Error e => .bip32Error e
  | .internal e => .internal e

def fromAccountUpdatingError : AccountUpdatingError → NewAddressDerivingError
  | .addressLimitReached maxAddressesNumber => .addressLimitReached maxAddressesNumber
  | .walletStorageError e => .walletStorageError e

end NewAddressDerivingError

inductive NewAccountCreationError where
  | hwContextNotInitialized
  | hdWalletUnavailable
  | coinDoesntSupportTrezor
  | rpcTaskError (e : String)
  | hardwareWalletError (e : String)
  | accountLimitReached (maxAccountsNumber : ℕ)
  | errorSavingAccountToStorage (e : String)
  | internal (e : String)
  deriving DecidableEq, Repr

def NewAccountCreationError.fromHDWalletStorageError :
    HDWalletStorageError → NewAccountCreationError
  | .errorSaving e => .errorSavingAccountToStorage e
  | .errorSerializing e => .errorSavingAccountToStorage e
  | .hdWalletUnavailable => .hdWalletUnavailable
  | .internal e => .internal e
  | other => .internal other.text

inductive BalanceError where
  | transport (e : String)
  | invalidResponse (e : String)
  | walletStorageError (e : String)
  | internal (e : String)
  deriving DecidableEq, Repr

namespace BalanceError

def fromAddressDerivingError (e : AddressDerivingError) : BalanceError := .internal e.text

def fromAccountUpdatingError (e : AccountUpdatingError) : BalanceError :=
  match e with
  | .addressLimitReached _ => .internal s!"Unexpected internal error: {e.text}"
  | .walletStorageError _ => .walletStorageError e.text

end BalanceError

inductive EnableCoinBalanceError where
  | newAddressDerivingError (e : NewAddressDerivingError)
  | newAccountCreationError (e : NewAccountCreationError)
  | balanceError (e : BalanceError)
  deriving DecidableEq, Repr

/-! ## Accounts -/

structure HDAddress (Address : Type) where
  address : Address
  derivationPath : DerivationPath
  deriving DecidableEq

structure HDAccountStorageItem (XPub : Type) where
  accountId : ℕ
  accountXpub : XPub
  externalAddressesNumber : ℕ
  internalAddressesNumber : ℕ

/-- The rows of one wallet and one coin. -/
abbrev HDWalletCoinStorage (XPub : Type) := ℕ → Option (HDAccountStorageItem XPub)

structure HDAccount (XPub Address : Type) where
  accountId : ℕ
  extendedPubkey : XPub
  accountDerivationPath : DerivationPath
  externalAddressesNumber : ℕ
  internalAddressesNumber : ℕ
  derivedAddresses : HDAddressId → Option (HDAddress Address)

def DEFAULT_GAP_LIMIT : ℕ := 20
def DEFAULT_ACCOUNT_LIMIT : ℕ := HARDENED_FLAG
def DEFAULT_ADDRESS_LIMIT : ℕ := HARDENED_FLAG

namespace HDAccount

variable {XPub Address : Type}

def new (accountId : ℕ) (extendedPubkey : XPub) (accountDerivationPath : DerivationPath) :
    HDAccount XPub Address where
  accountId := accountId
  extendedPubkey := extendedPubkey
  accountDerivationPath := accountDerivationPath
  externalAddressesNumber := 0
  internalAddressesNumber := 0
  derivedAddresses _ := none

variable (a : HDAccount XPub Address)

def addressLimit (_ : HDAccount XPub Address) : ℕ := DEFAULT_ADDRESS_LIMIT

def knownAddressesNumber : Bip44Chain → ℕ
  | .external => a.externalAddressesNumber
  | .internal => a.internalAddressesNumber

def setKnownAddressesNumber (num : ℕ) : Bip44Chain → HDAccount XPub Address
  | .external => { a with externalAddressesNumber := num }
  | .internal => { a with internalAddressesNumber := num }

def toStorageItem : HDAccountStorageItem XPub where
  accountId := a.accountId
  accountXpub := a.extendedPubkey
  externalAddressesNumber := a.externalAddressesNumber
  internalAddressesNumber := a.internalAddressesNumber

def cacheAddress (id : HDAddressId) (hdAddress : HDAddress Address) : HDAccount XPub Address :=
  { a with derivedAddresses := Function.update a.derivedAddresses id (some hdAddress) }

end HDAccount

/-- A row with a new number of known addresses. -/
def HDAccountStorageItem.setAddressesNumber {XPub : Type} (item : HDAccountStorageItem XPub)
    (num : ℕ) : Bip44Chain → HDAccountStorageItem XPub
  | .external => { item with externalAddressesNumber := num }
  | .internal => { item with internalAddressesNumber := num }

structure HDWallet (XPub Address : Type) where
  derivationPath : DerivationPath
  /-- In ascending order of their ids. -/
  accounts : List (HDAccount XPub Address)
  enabledAddress : HDPathAccountToAddressId
  gapLimit : ℕ
  hdWalletStorage : HDWalletCoinStorage XPub

/-- The account of a row, with an empty cache. -/
def HDAccount.fromStorageItem {XPub Address : Type} (walletDerPath : DerivationPath)
    (item : HDAccountStorageItem XPub) : HDAccount XPub Address where
  accountId := item.accountId
  extendedPubkey := item.accountXpub
  accountDerivationPath := walletDerPath ++ [HARDENED_FLAG + item.accountId]
  externalAddressesNumber := item.externalAddressesNumber
  internalAddressesNumber := item.internalAddressesNumber
  derivedAddresses _ := none

/-- The rows that can be read; where one cannot be, all of them are cleared. -/
def readableRows {XPub : Type} (rows : List (HDAccountStorageItem XPub)) :
    List (HDAccountStorageItem XPub) :=
  if rows.all fun item => item.accountId < HARDENED_FLAG then rows else []

/-- The wallet with the accounts of its rows. -/
def HDWallet.loadHdAccountsFromStorage {XPub Address : Type} (derivationPath : DerivationPath)
    (rows : List (HDAccountStorageItem XPub)) (enabledAddress : HDPathAccountToAddressId)
    (gapLimit : ℕ) : HDWallet XPub Address where
  derivationPath := derivationPath
  accounts := ((readableRows rows).map (HDAccount.fromStorageItem derivationPath)).insertionSort
    fun a b => a.accountId ≤ b.accountId
  enabledAddress := enabledAddress
  gapLimit := gapLimit
  hdWalletStorage id := (readableRows rows).find? fun item => item.accountId = id

/-! ## The coin and what it reports -/

structure HDAddressBalance (Address Balance : Type) where
  address : Address
  derivationPath : DerivationPath
  chain : Bip44Chain
  balance : Balance
  deriving DecidableEq

structure HDAccountBalance (Address Balance : Type) where
  accountIndex : ℕ
  derivationPath : DerivationPath
  totalBalance : Balance
  addresses : List (HDAddressBalance Address Balance)
  deriving DecidableEq

abbrev HDWalletBalance (Address Balance : Type) := List (HDAccountBalance Address Balance)

inductive EnableCoinScanPolicy where
  | doNotScan
  | scanIfNewWallet
  | scan
  deriving DecidableEq, Repr

structure EnabledCoinBalanceParams where
  scanPolicy : EnableCoinScanPolicy
  minAddressesNumber : Option ℕ

inductive CoinProtocol where
  | utxo
  | eth
  deriving DecidableEq, Repr

structure HDCoin (XPub Address Balance : Type) where
  protocol : CoinProtocol
  isTrezor : Bool
  deriveChild : XPub → ChildNumber → Except String XPub
  addressFromExtendedPubkey : XPub → Address
  extractExtendedPubkey : DerivationPath → Except NewAccountCreationError XPub
  produceHdAddressScanner : Except BalanceError Unit
  isAddressUsed : Address → DerivationPath → Except BalanceError Bool
  knownAddressBalance : Address → Except BalanceError Balance
  knownAddressesBalances : List Address → Except BalanceError (List (Address × Balance))
  /-- The balances are in the same order as they were requested. -/
  knownAddressesBalances_fst : ∀ addresses balances,
    knownAddressesBalances addresses = .ok balances → balances.map Prod.fst = addresses
  newBalance : Balance
  addBalance : Balance → Balance → Balance
  receivedEnabledAddressFromHwWallet : HDAddress Address → Except String Unit
  updateAddressesNumber : Bip44Chain → ℕ → ℕ → Except HDWalletStorageError Unit
  uploadNewAccount : HDAccountStorageItem XPub → Except HDWalletStorageError Unit

end DeXFG.HdWallet
