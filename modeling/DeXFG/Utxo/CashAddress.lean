import DeXFG.Utxo.Types

/-!
# Addresses of Bitcoin Cash

A hash and its type in groups of five bits, with a checksum that covers the name of
the network.
-/
namespace DeXFG.Utxo

/-- A string by its characters. -/
abbrev Text := List Char

/-- What the standard library knows of characters beyond ASCII. -/
structure Unicode where
  /-- `str::to_lowercase`. -/
  toLowercase : Text → Text
  /-- `char::is_lowercase`. -/
  isLowercase : Char → Bool
  /-- `char::is_numeric`. -/
  isNumeric : Char → Bool

/-- How a decoder fails: with an error of its own, or in a panic. -/
inductive DecodeFault where
  | error (reason : String)
  | panic
  deriving DecidableEq, Repr

inductive CashAddrType where
  /-- Pay to PubKey Hash. -/
  | p2pkh
  /-- Pay to Script Hash. -/
  | p2sh
  deriving DecidableEq, Repr

inductive NetworkPrefix where
  | bitcoinCash
  | bchTest
  | bchReg
  /-- SLP on BCH mainnet. -/
  | simpleLedger
  /-- SLP on BCH testnet. -/
  | slpTest
  | other (network : Text)
  deriving DecidableEq, Repr

namespace NetworkPrefix

/-- `to_string`. -/
def toText : NetworkPrefix → Text
  | bitcoinCash => "bitcoincash".toList
  | bchTest => "bchtest".toList
  | bchReg => "bchreg".toList
  | simpleLedger => "simpleledger".toList
  | slpTest => "slptest".toList
  | other network => network

/-- `FromStr`. -/
def parse (unicode : Unicode) (s : Text) : NetworkPrefix :=
  let s := unicode.toLowercase s
  if s = "bitcoincash".toList then bitcoinCash
  else if s = "bchtest".toList then bchTest
  else if s = "bchreg".toList then bchReg
  else if s = "simpleledger".toList then simpleLedger
  else if s = "slptest".toList then slpTest
  else other s

/-- The right-most five bits of each byte, and a null termination byte. -/
def encodeToChecksum (network : NetworkPrefix) : Bytes :=
  (network.toText.flatMap String.utf8EncodeChar).map (· &&& 0b11111) ++ [0]

end NetworkPrefix

def defaultNetwork : NetworkPrefix := .bitcoinCash

structure CashAddress where
  network : NetworkPrefix
  hash : Bytes
  addressType : CashAddrType
  deriving DecidableEq, Repr

/-! ## The checksum -/

def polyModStep (c : BitVec 64) (d : UInt8) : BitVec 64 :=
  let c0 := c >>> 35
  let c := ((c &&& 0x07ffffffff#64) <<< 5) ^^^ BitVec.ofNat 64 d.toNat
  let c := if c0 &&& 0x01#64 ≠ 0#64 then c ^^^ 0x98f2bc8e61#64 else c
  let c := if c0 &&& 0x02#64 ≠ 0#64 then c ^^^ 0x79b76d99e2#64 else c
  let c := if c0 &&& 0x04#64 ≠ 0#64 then c ^^^ 0xf33e5fb3c4#64 else c
  let c := if c0 &&& 0x08#64 ≠ 0#64 then c ^^^ 0xae2eabe2a8#64 else c
  if c0 &&& 0x10#64 ≠ 0#64 then c ^^^ 0x1e4f43e470#64 else c

/-- A BCH-encoding checksum. -/
def polyMod (rawData : Bytes) : BitVec 64 := rawData.foldl polyModStep 1#64 ^^^ 1#64

def calculateChecksum (network : NetworkPrefix) (payload : Bytes) : BitVec 64 :=
  polyMod (network.encodeToChecksum ++ payload)

/-! ## Groups of bits -/

/-- The groups that the accumulator holds whole, and how many bits it holds after them. -/
def drain (tobits acc : ℕ) : ℕ → ℕ → ℕ × Bytes
  | 0, bits => (bits, [])
  | fuel + 1, bits =>
    if tobits ≤ bits then
      let v := (acc >>> (bits - tobits)) &&& ((1 <<< tobits) - 1)
      let rest := drain tobits acc fuel (bits - tobits)
      (rest.1, UInt8.ofNat v :: rest.2)
    else (bits, [])

/-- The accumulator, the number of bits in it that are not put out, and the output. -/
structure Regroup where
  acc : ℕ
  bits : ℕ
  output : Bytes

def regroupStep (frombits tobits : ℕ) (state : Regroup) (d : UInt8) : Regroup :=
  let acc := ((state.acc <<< frombits) ||| d.toNat) &&& ((1 <<< (frombits + tobits - 1)) - 1)
  let bits := state.bits + frombits
  let drained := drain tobits acc bits bits
  { acc := acc, bits := drained.1, output := state.output ++ drained.2 }

/-- Converts a byte array from one bit representation to another. The flag indicates that the
output was not truncated. -/
def convertBits (frombits tobits : ℕ) (input : Bytes) (pad : Bool) : Bytes × Bool :=
  let state := input.foldl (regroupStep frombits tobits) { acc := 0, bits := 0, output := [] }
  if pad = false ∧ 0 < state.bits then (state.output, false)
  else if pad = true ∧ 0 < state.bits then
    let v := (state.acc <<< (tobits - state.bits)) &&& ((1 <<< tobits) - 1)
    (state.output ++ [UInt8.ofNat v], true)
  else (state.output, true)

/-! ## Characters for five bits -/

namespace Base32

/-- Charset for converting from base32. -/
def charsetRev : List ℤ :=
  [-1, -1, -1, -1, -1, -1, -1, -1, -1, -1, -1, -1, -1, -1, -1, -1, -1, -1, -1, -1, -1, -1, -1, -1,
   -1, -1, -1, -1, -1, -1, -1, -1, -1, -1, -1, -1, -1, -1, -1, -1, -1, -1, -1, -1, -1, -1, -1, -1,
   15, -1, 10, 17, 21, 20, 26, 30, 7, 5, -1, -1, -1, -1, -1, -1, -1, 29, -1, 24, 13, 25, 9, 8, 23,
   -1, 18, 22, 31, 27, 19, -1, 1, 0, 3, 16, 11, 28, 12, 14, 6, 4, 2, -1, -1, -1, -1, -1, -1, 29, -1,
   24, 13, 25, 9, 8, 23, -1, 18, 22, 31, 27, 19, -1, 1, 0, 3, 16, 11, 28, 12, 14, 6, 4, 2, -1, -1,
   -1, -1, -1]

/-- Charset for converting to base32. -/
def charset : List Char :=
  ['q', 'p', 'z', 'r', 'y', '9', 'x', '8', 'g', 'f', '2', 't', 'v', 'd', 'w', '0', 's', '3', 'j',
   'n', '5', '4', 'k', 'h', 'c', 'e', '6', 'm', 'u', 'a', '7', 'l']

/-- It expects the byte array to be 5-bit packed. -/
def encode : Bytes → Except String Text
  | [] => .ok []
  | i :: input =>
    match charset[i.toNat]? with
    | none => .error "Invalid byte in input array"
    | some c => (encode input).map (c :: ·)

def decode : Text → Except String Bytes
  | [] => .ok []
  | c :: input =>
    match charsetRev[c.toNat]? with
    | none => .error "Invalid base32 input string"
    | some val =>
      if val = -1 then .error "Invalid base32 input string"
      else (decode input).map (UInt8.ofNat val.toNat :: ·)

end Base32

/-! ## The addresses -/

/-- The input contains mixed upper and lowercase characters, or none at all. -/
def isMixedcase (unicode : Unicode) : Text → Bool
  | [] => true
  | first :: s =>
    !(first :: s).all fun c =>
      unicode.isNumeric c || unicode.isLowercase c == unicode.isLowercase first

def splitAddress (unicode : Unicode) (addr : Text) : Except String (NetworkPrefix × Text) :=
  match addr.splitOn ':' with
  | [payload] => .ok (defaultNetwork, payload)
  | [network, payload] => .ok (NetworkPrefix.parse unicode network, payload)
  | _ => .error "Invalid address: expect 'network:payload'"

/-- The three least significant bits indicate the size of the hash. -/
def hashSizeFromVersion (version : UInt8) : ℕ :=
  match (version &&& 0b00000111).toNat with
  | 0 => 20
  | 1 => 24
  | 2 => 28
  | 3 => 32
  | 4 => 40
  | 5 => 48
  | 6 => 56
  | _ => 64

/-- The most significant bit is reserved, the four next bits indicate the type. -/
def addrTypeFromVersion (version : UInt8) : Except String CashAddrType :=
  if version &&& 0b10000000 ≠ 0 then
    .error "The version byte's most significant bit is reserved and must be 0"
  else
    match (version >>> 3).toNat with
    | 0 => .ok .p2pkh
    | 1 => .ok .p2sh
    | _ => .error "Unexpected address type"

namespace CashAddress

/-- What follows the checks of the symbols. -/
def ofPayload (network : NetworkPrefix) (payload : Bytes) : Except DecodeFault CashAddress :=
  if payload.length < 9 then .error (.error "Insufficient packed data to decode")
  else
    match (convertBits 5 8 (payload.take (payload.length - 8)) false).1 with
    -- the version byte is popped off
    | [] => .error .panic
    | version :: hash =>
      match addrTypeFromVersion version with
      | .error reason => .error (.error reason)
      | .ok addressType =>
        let expected := hashSizeFromVersion version
        let actual := hash.length
        if actual ≠ expected then
          .error (.error s!"Incorrect address hash len: expected={expected}, actual={actual}")
        else .ok { network := network, hash := hash, addressType := addressType }

def decode (unicode : Unicode) (addr : Text) : Except DecodeFault CashAddress :=
  match splitAddress unicode addr with
  | .error reason => .error (.error reason)
  | .ok (network, payload) =>
    if isMixedcase unicode payload then
      .error (.error "cashaddress contains mixed upper and lowercase characters")
    else
      match Base32.decode payload with
      | .error reason => .error (.error reason)
      | .ok payload =>
        if calculateChecksum network payload ≠ 0#64 then
          .error (.error "Checksum verification failed")
        else ofPayload network payload

def versionByte (address : CashAddress) : Except String UInt8 :=
  let enAddressType : UInt8 :=
    match address.addressType with
    | .p2pkh => 0
    | .p2sh => 1
  let size := address.hash.length
  let enHashSize : Except String UInt8 :=
    match size with
    | 20 => .ok 0
    | 24 => .ok 1
    | 28 => .ok 2
    | 32 => .ok 3
    | 40 => .ok 4
    | 48 => .ok 5
    | 56 => .ok 6
    | 64 => .ok 7
    | _ => .error s!"Unexpected hash size {size}"
  enHashSize.map fun enHashSize => (enAddressType <<< 3) ||| enHashSize

/-- The symbols of a checksum, from its most significant bits on. -/
def checksumSymbols (checksum : BitVec 64) : Bytes :=
  (List.range 8).map fun i => UInt8.ofNat ((checksum >>> (5 * (7 - i))) &&& 0x1F#64).toNat

/-- The symbols of a version and a hash with their checksum. -/
def symbols (network : NetworkPrefix) (version : UInt8) (hash : Bytes) : Bytes :=
  let payload := (convertBits 8 5 (version :: hash) true).1
  -- the checksum sits in the last eight bytes, which are zero to calculate it
  payload ++ checksumSymbols (calculateChecksum network (payload ++ List.replicate 8 0))

def encode (address : CashAddress) : Except String Text :=
  match address.versionByte with
  | .error reason => .error reason
  | .ok version =>
    (Base32.encode (symbols address.network version address.hash)).map fun payload =>
      address.network.toText ++ ':' :: payload

def new (unicode : Unicode) (network : Text) (hash : Bytes) (addressType : CashAddrType) :
    Except String CashAddress :=
  let size := hash.length
  if size ∈ [20, 24, 28, 32, 40, 48, 56, 64] then
    .ok { network := NetworkPrefix.parse unicode network, hash := hash, addressType := addressType }
  else .error s!"Unexpected hash size {size}"

end CashAddress

end DeXFG.Utxo
