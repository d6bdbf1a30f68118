import DeXFG.Utxo.CashAddress

/-!
# Addresses of a coin

An address in each of its formats, how it is built for the configuration of a coin,
how it is displayed, and how a string is taken for one.
-/
namespace DeXFG.Utxo

/-! ## Libraries -/

inductive Bech32Variant where
  | bech32
  | bech32m
  deriving DecidableEq, Repr

/-- The `bech32` crate. Its errors are given by their texts. -/
structure Bech32 where
  decode : Text → Except String (Text × Bytes × Bech32Variant)
  /-- What a writer for `Variant::Bech32` puts out for a human readable part and some `u5`. -/
  encode : Text → Bytes → Text
  toBase32 : Bytes → Bytes
  fromBase32 : Bytes → Except String Bytes

/-- The `bs58` crate. -/
structure Base58 where
  decode : Text → Option Bytes
  encode : Bytes → Text

/-- The hash functions behind checksums. -/
structure ChecksumCrypto extends Bitcrypto where
  groestl512 : Bytes → H512
  keccak256 : Bytes → H256

/-- What the functions of addresses call that is not theirs. -/
structure AddressEnv where
  unicode : Unicode
  base58 : Base58
  bech32 : Bech32
  crypto : ChecksumCrypto

/-! ## Parts of an address -/

/-- For a legacy address (p2pkh or p2sh). -/
structure AddressPrefix where
  data : Bytes
  length_le : data.length ≤ 2
  deriving DecidableEq, Repr

namespace AddressPrefix

def default : AddressPrefix := ⟨[], by decide⟩

/-- `TryFrom<&[u8]>`. -/
def tryFrom (bytes : Bytes) : Option AddressPrefix :=
  if h : bytes ≠ [] ∧ bytes.length ≤ 2 then some ⟨bytes, h.2⟩ else none

def ofByte (byte : UInt8) : AddressPrefix := ⟨[byte], by simp⟩

/-- For use in a cash address. -/
def getSizeOne (p : AddressPrefix) : UInt8 :=
  match p.data with
  | [byte] => byte
  | _ => 0

def isEmpty (p : AddressPrefix) : Bool := p.data.isEmpty

/-- `Display`. -/
def display (p : AddressPrefix) : String :=
  "[" ++ String.intercalate ", " (p.data.map toString) ++ "]"

end AddressPrefix

/-- All prefixes for legacy address types supported for a coin. -/
structure NetworkAddressPrefixes where
  p2pkh : AddressPrefix
  p2sh : AddressPrefix
  deriving DecidableEq, Repr

inductive AddressHashEnum where
  /-- 20 bytes long hash used in P2PKH, P2SH, P2WPKH. -/
  | addressHash (hash : H160)
  /-- 32 bytes long hash derived from a script, used in P2WSH. -/
  | witnessScriptHash (hash : H256)
  deriving DecidableEq, Repr

namespace AddressHashEnum

def toVec : AddressHashEnum → Bytes
  | addressHash h => h.val
  | witnessScriptHash s => s.val

def isAddressHash : AddressHashEnum → Bool
  | addressHash _ => true
  | witnessScriptHash _ => false

def isWitnessScriptHash : AddressHashEnum → Bool
  | addressHash _ => false
  | witnessScriptHash _ => true

def defaultAddressHash : AddressHashEnum := addressHash ⟨List.replicate 20 0, by decide⟩

def defaultWitnessScriptHash : AddressHashEnum := witnessScriptHash ⟨List.replicate 32 0, by decide⟩

/-- A slice of another length makes it panic. -/
def copyFromSlice (hash : AddressHashEnum) (src : Bytes) : Except DecodeFault AddressHashEnum :=
  match hash with
  | addressHash _ => if h : src.length = 20 then .ok (addressHash ⟨src, h⟩) else .error .panic
  | witnessScriptHash _ =>
    if h : src.length = 32 then .ok (witnessScriptHash ⟨src, h⟩) else .error .panic

end AddressHashEnum

inductive AddressScriptType where
  | p2pkh
  | p2sh
  | p2wpkh
  | p2wsh
  deriving DecidableEq, Repr

inductive AddressFormat where
  /-- In Bitcoin Cash context the standard format also known as 'legacy'. -/
  | standard
  | segwit
  | cashAddress (network : Text) (pubAddrPrefix p2shAddrPrefix : UInt8)
  deriving DecidableEq, Repr

inductive ChecksumType where
  | dsha256
  | dgroestl512
  | keccak256
  deriving DecidableEq, Repr

/-- Data checksum. -/
def checksum (crypto : ChecksumCrypto) (data : Bytes) : ChecksumType → Bytes
  | .dsha256 => (crypto.dhash256 data).val.take 4
  | .dgroestl512 => (crypto.groestl512 (crypto.groestl512 data).val).val.take 4
  | .keccak256 => (crypto.keccak256 data).val.take 4

def detectChecksum (crypto : ChecksumCrypto) (data sum : Bytes) :
    Except DecodeFault ChecksumType :=
  if sum = checksum crypto data .dsha256 then .ok .dsha256
  else if sum = checksum crypto data .dgroestl512 then .ok .dgroestl512
  else if sum = checksum crypto data .keccak256 then .ok .keccak256
  else .error (.error "Invalid Checksum")

structure Address where
  /-- The base58 prefix of the address. -/
  addressPrefix : AddressPrefix
  /-- Segwit addr human readable part. -/
  hrp : Option Text
  pubkey : Option Public
  /-- Public key/Script hash. -/
  hash : AddressHashEnum
  checksumType : ChecksumType
  addrFormat : AddressFormat
  /-- Which output script corresponds to this address format and prefix. -/
  scriptType : AddressScriptType

/-- `PartialEq`, which doesn't take the public key into consideration. -/
def Address.Same (a b : Address) : Prop :=
  a.addressPrefix = b.addressPrefix ∧ a.hrp = b.hrp ∧ a.hash = b.hash ∧
    a.checksumType = b.checksumType ∧ a.addrFormat = b.addrFormat ∧ a.scriptType = b.scriptType

/-! ## Legacy addresses -/

structure LegacyAddress where
  addressPrefix : AddressPrefix
  checksumType : ChecksumType
  hash : Bytes
  deriving DecidableEq, Repr

/-- `&data[start..stop]`. -/
def slice (data : Bytes) (start stop : ℕ) : Except DecodeFault Bytes :=
  if start ≤ stop ∧ stop ≤ data.length then .ok ((data.take stop).drop start) else .error .panic

namespace LegacyAddress

def layout (crypto : ChecksumCrypto) (address : LegacyAddress) : Bytes :=
  let result := address.addressPrefix.data ++ address.hash
  result ++ checksum crypto result address.checksumType

/-- A layout whose prefix takes so many bytes. -/
def fromLayoutOf (crypto : ChecksumCrypto) (size : ℕ) (data : Bytes) :
    Except DecodeFault LegacyAddress := do
  let checksumType ← detectChecksum crypto (← slice data 0 (size + 20))
    (← slice data (size + 20) data.length)
  let hash ← slice data size (size + 20)
  match AddressPrefix.tryFrom (← slice data 0 size) with
  -- prefix conversion should not fail
  | none => .error .panic
  | some addressPrefix => .ok { addressPrefix, checksumType, hash }

def fromLayout (crypto : ChecksumCrypto) (data : Bytes) : Except DecodeFault LegacyAddress :=
  match data.length with
  | 25 => fromLayoutOf crypto 1 data
  | 26 => fromLayoutOf crypto 2 data
  | _ => .error (.error "Invalid Address")

def fromStr (env : AddressEnv) (s : Text) : Except DecodeFault LegacyAddress :=
  match env.base58.decode s with
  | none => .error (.error "Invalid Address")
  | some hex => fromLayout env.crypto hex

def display (env : AddressEnv) (address : LegacyAddress) : Text :=
  env.base58.encode (address.layout env.crypto)

end LegacyAddress

/-! ## Segwit addresses -/

structure SegwitAddress where
  hrp : Text
  version : UInt8
  program : Bytes
  deriving DecidableEq, Repr

namespace SegwitAddress

def new (hash : AddressHashEnum) (hrp : Text) : SegwitAddress :=
  { hrp := hrp, version := 0, program := hash.toVec }

def display (bech32 : Bech32) (address : SegwitAddress) : Text :=
  bech32.encode address.hrp (address.version :: bech32.toBase32 address.program)

def fromStr (bech32 : Bech32) (s : Text) : Except DecodeFault SegwitAddress :=
  match bech32.decode s with
  | .error e => .error (.error s!"bech32: {e}")
  | .ok (hrp, payload, variant) =>
    if payload.isEmpty then .error (.error "the bech32 payload was empty")
    else
      match variant with
      | .bech32m => .error (.error "address variant/format Bech32m is not supported yet!")
      | .bech32 =>
        match payload with
        -- nothing to split at
        | [] => .error .panic
        | version :: p5 =>
          match bech32.fromBase32 p5 with
          | .error e => .error (.error s!"bech32: {e}")
          | .ok program =>
            let l := program.length
            if 16 < version.toNat then
              .error (.error s!"invalid witness script version: {version}")
            else if l < 2 ∨ 40 < l then
              .error (.error ("the witness program must be between 2 and 40 bytes in length: " ++
                s!"length={l}"))
            else if version ≠ 0 then
              .error (.error s!"witness script version: {version} is not supported yet!")
            else if l ≠ 20 ∧ l ≠ 32 then
              .error (.error ("a v0 witness program must be either of length 20 or 32 bytes: " ++
                s!"length={l}"))
            else .ok { hrp, version, program }

end SegwitAddress

/-! ## Addresses from strings -/

namespace Address

def fromLegacyaddress (env : AddressEnv) (s : Text) (prefixes : NetworkAddressPrefixes) :
    Except DecodeFault Address :=
  match LegacyAddress.fromStr env s with
  | .error .panic => .error .panic
  | .error (.error _) => .error (.error "invalid address")
  | .ok address =>
    if address.hash.length ≠ 20 then .error (.error "Expect 20 bytes long hash")
    else do
      let hash ← AddressHashEnum.defaultAddressHash.copyFromSlice address.hash
      let scriptType ←
        if address.addressPrefix = prefixes.p2pkh then .ok AddressScriptType.p2pkh
        else if address.addressPrefix = prefixes.p2sh then .ok AddressScriptType.p2sh
        else .error (DecodeFault.error "invalid address prefix")
      return { addressPrefix := address.addressPrefix, hash := hash
               checksumType := address.checksumType, hrp := none, pubkey := none
               addrFormat := .standard, scriptType := scriptType }

def fromSegwitaddress (env : AddressEnv) (segaddr : Text) (checksumType : ChecksumType) :
    Except DecodeFault Address :=
  match SegwitAddress.fromStr env.bech32 segaddr with
  | .error fault => .error fault
  | .ok address => do
    let (scriptType, hash) ←
      if address.program.length = 20 then
        .ok (AddressScriptType.p2wpkh, AddressHashEnum.defaultAddressHash)
      else if address.program.length = 32 then
        .ok (AddressScriptType.p2wsh, AddressHashEnum.defaultWitnessScriptHash)
      else .error (DecodeFault.error "Expect either 20 or 32 bytes long hash")
    let hash ← hash.copyFromSlice address.program
    return { addressPrefix := AddressPrefix.default, hash := hash, checksumType := checksumType
             hrp := some address.hrp, pubkey := none, addrFormat := .segwit
             scriptType := scriptType }

def fromCashaddress (env : AddressEnv) (cashaddr : Text) (checksumType : ChecksumType)
    (netAddrPrefixes : NetworkAddressPrefixes) : Except DecodeFault Address :=
  match CashAddress.decode env.unicode cashaddr with
  | .error fault => .error fault
  | .ok address =>
    if address.hash.length ≠ 20 then .error (.error "Expect 20 bytes long hash")
    else do
      let hash ← AddressHashEnum.defaultAddressHash.copyFromSlice address.hash
      let (scriptType, addrPrefix) :=
        match address.addressType with
        | .p2pkh => (AddressScriptType.p2pkh, netAddrPrefixes.p2pkh)
        | .p2sh => (AddressScriptType.p2sh, netAddrPrefixes.p2sh)
      return { addressPrefix := addrPrefix, hash := hash, checksumType := checksumType
               hrp := none, pubkey := none
               addrFormat := .cashAddress address.network.toText
                 netAddrPrefixes.p2pkh.getSizeOne netAddrPrefixes.p2sh.getSizeOne
               scriptType := scriptType }

/-! ## Addresses to strings -/

def toCashaddress (env : AddressEnv) (address : Address) (networkPrefix : Text)
    (networkAddrPrefixes : NetworkAddressPrefixes) : Except String CashAddress := do
  let addressType ←
    if address.addressPrefix = networkAddrPrefixes.p2pkh then .ok CashAddrType.p2pkh
    else if address.addressPrefix = networkAddrPrefixes.p2sh then .ok CashAddrType.p2sh
    else .error (s!"Unknown address prefix {address.addressPrefix.display}. Expect: " ++
      s!"{networkAddrPrefixes.p2pkh.display}, {networkAddrPrefixes.p2sh.display}")
  CashAddress.new env.unicode networkPrefix address.hash.toVec addressType

def displayAddress (env : AddressEnv) (address : Address) : Except String Text :=
  match address.addrFormat with
  | .standard =>
    .ok (LegacyAddress.display env
      { addressPrefix := address.addressPrefix, checksumType := address.checksumType
        hash := address.hash.toVec })
  | .segwit =>
    match address.hrp with
    | some hrp => .ok ((SegwitAddress.new address.hash hrp).display env.bech32)
    | none => .error "Cannot display segwit address for a coin with no bech32_hrp in config"
  | .cashAddress network pubAddrPrefix p2shAddrPrefix => do
    let cashaddress ← toCashaddress env address network
      { p2pkh := .ofByte pubAddrPrefix, p2sh := .ofByte p2shAddrPrefix }
    cashaddress.encode

end Address

/-! ## The configuration of a coin -/

/-- The properties of a coin that say how its addresses look. A number is none where the
property is missing or is no `u64`. -/
structure CoinConfig where
  ticker : String
  pubtype : Option UInt64
  p2shtype : Option UInt64
  taddr : Option UInt64
  bech32Hrp : Option Text

structure UtxoCoinConf where
  checksumType : ChecksumType
  addressPrefixes : NetworkAddressPrefixes
  bech32Hrp : Option Text

namespace CoinConfig

def checksumType (config : CoinConfig) : ChecksumType :=
  if config.ticker = "GRS" then .dgroestl512
  else if config.ticker = "SMART" then .keccak256
  else .dsha256

def pubAddrPrefix (config : CoinConfig) : UInt8 :=
  (config.pubtype.getD (if config.ticker = "BTC" then 0 else 60)).toUInt8

def p2shAddressPrefix (config : CoinConfig) : UInt8 :=
  (config.p2shtype.getD (if config.ticker = "BTC" then 5 else 85)).toUInt8

/-- `pub_t_address_prefix` and `p2sh_t_address_prefix`. -/
def tAddressPrefix (config : CoinConfig) : UInt8 := (config.taddr.getD 0).toUInt8

/-- A byte in front of another unless it is 0. -/
def prefixOf (tAddrPrefix addrPrefix : UInt8) : AddressPrefix :=
  if tAddrPrefix ≠ 0 then ⟨[tAddrPrefix, addrPrefix], by simp⟩ else .ofByte addrPrefix

/-- The part of `build` that is about addresses. -/
def build (config : CoinConfig) : UtxoCoinConf where
  checksumType := config.checksumType
  addressPrefixes :=
    { p2pkh := prefixOf config.tAddressPrefix config.pubAddrPrefix
      p2sh := prefixOf config.tAddressPrefix config.p2shAddressPrefix }
  bech32Hrp := config.bech32Hrp

/-- A format from a request or from the configuration, with the coin's own prefixes. -/
def addressFormat (config : CoinConfig) : AddressFormat → AddressFormat
  | .cashAddress network _ _ =>
    .cashAddress network config.pubAddrPrefix config.p2shAddressPrefix
  | format => format

end CoinConfig

def addressFromStrUnchecked (env : AddressEnv) (conf : UtxoCoinConf) (address : Text) :
    Except DecodeFault Address :=
  match Address.fromLegacyaddress env address conf.addressPrefixes with
  | .ok legacy => .ok legacy
  | .error .panic => .error .panic
  | .error (.error legacy) =>
    match Address.fromSegwitaddress env address conf.checksumType with
    | .ok segwit => .ok segwit
    | .error .panic => .error .panic
    | .error (.error segwit) =>
      match Address.fromCashaddress env address conf.checksumType conf.addressPrefixes with
      | .ok cashaddress => .ok cashaddress
      | .error .panic => .error .panic
      | .error (.error cash) =>
        .error (.error s!"Cannot determine format: {repr [legacy, segwit, cash]}")

/-! ## Building addresses -/

inductive AddressBuilderOption where
  /-- Build for pay to pubkey hash output (witness or legacy). -/
  | pubkeyHash (hash : AddressHashEnum)
  /-- Build for pay to script hash output (witness or legacy). -/
  | scriptHash (hash : AddressHashEnum)
  /-- Build for pay to pubkey hash but using a public key as an input. -/
  | fromPubKey (pubkey : Public)

structure AddressBuilder where
  prefixes : NetworkAddressPrefixes
  hrp : Option Text
  checksumType : ChecksumType
  addrFormat : AddressFormat
  buildOption : Option AddressBuilderOption

namespace AddressBuilder

/-- The builder of a coin's addresses. -/
def ofConf (conf : UtxoCoinConf) (addrFormat : AddressFormat)
    (buildOption : AddressBuilderOption) : AddressBuilder where
  prefixes := conf.addressPrefixes
  hrp := conf.bech32Hrp
  checksumType := conf.checksumType
  addrFormat := addrFormat
  buildOption := some buildOption

variable (builder : AddressBuilder) (crypto : Bitcrypto)

def getAddressPrefix (buildOption : AddressBuilderOption) : Except String AddressPrefix :=
  let chosen :=
    match buildOption with
    | .pubkeyHash _ | .fromPubKey _ => builder.prefixes.p2pkh
    | .scriptHash _ => builder.prefixes.p2sh
  if chosen.isEmpty then .error "no prefix for address set" else .ok chosen

def getLegacyScriptType : AddressBuilderOption → AddressScriptType
  | .pubkeyHash _ | .fromPubKey _ => .p2pkh
  | .scriptHash _ => .p2sh

def getSegwitScriptType : AddressBuilderOption → AddressScriptType
  | .pubkeyHash _ | .fromPubKey _ => .p2wpkh
  | .scriptHash _ => .p2wsh

def getHash : AddressBuilderOption → AddressHashEnum
  | .pubkeyHash hash => hash
  | .scriptHash hash => hash
  | .fromPubKey pubkey => .addressHash (crypto.dhash160 pubkey.val)

def getPubkey : AddressBuilderOption → Option Public
  | .fromPubKey pubkey => some pubkey
  | _ => none

def checkSegwitHrp : Except String Unit :=
  match builder.hrp with
  | none => .error "no hrp for address"
  | some _ => .ok ()

def checkSegwitHash (buildOption : AddressBuilderOption) : Except String Unit :=
  let isHashValid :=
    match buildOption with
    | .pubkeyHash hash => hash.isAddressHash
    | .scriptHash hash => hash.isWitnessScriptHash
    | .fromPubKey _ => true
  if isHashValid then .ok () else .error "invalid hash for segwit address"

/-- An address with prefixes, legacy or of Bitcoin Cash. -/
def buildPrefixed (buildOption : AddressBuilderOption) : Except String Address := do
  return { addressPrefix := ← builder.getAddressPrefix buildOption, hrp := none
           hash := getHash crypto buildOption, pubkey := getPubkey buildOption
           checksumType := builder.checksumType, addrFormat := builder.addrFormat
           scriptType := getLegacyScriptType buildOption }

def build : Except String Address :=
  match builder.buildOption with
  | none => .error "no address builder option set"
  | some buildOption =>
    match builder.addrFormat with
    | .standard => builder.buildPrefixed crypto buildOption
    | .segwit => do
      builder.checkSegwitHrp
      checkSegwitHash buildOption
      return { addressPrefix := AddressPrefix.default, hrp := builder.hrp
               hash := getHash crypto buildOption, pubkey := getPubkey buildOption
               checksumType := builder.checksumType, addrFormat := builder.addrFormat
               scriptType := getSegwitScriptType buildOption }
    | .cashAddress .. => builder.buildPrefixed crypto buildOption

end AddressBuilder

end DeXFG.Utxo
