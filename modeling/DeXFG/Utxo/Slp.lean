import DeXFG.Library.Utf8
import DeXFG.Utxo.Reader
import DeXFG.Utxo.Script

/-!
# Scripts of SLP transactions

The first output of a token transaction says in pushes what the transaction does. It is written
with the builder of scripts and read with the reader of serialized data.
-/
namespace DeXFG.Utxo.Slp
open Library.Reading

def slpLokadId : String := "SLP\x00"

def slpFungible : UInt8 := 1

def slpSend : String := "SEND"

def slpMint : String := "MINT"

def slpGenesis : String := "GENESIS"

/-- `as_bytes` -/
def asBytes (string : String) : Bytes := Library.Utf8.encode string

/-- `to_be_bytes` -/
def toBeBytes (n : UInt64) : Bytes := (leBytes 8 n.toNat).reverse

/-- `from_be_bytes` -/
def fromBeBytes (bytes : Bytes) : UInt64 := UInt64.ofNat (leNat bytes.reverse)

/-! ## Writing -/

/-- What both scripts begin with. -/
def header (transactionType : String) : Builder :=
  (((Builder.default.pushOpcode Opcode.opReturn).pushData (asBytes slpLokadId)).pushData
    [slpFungible]).pushData (asBytes transactionType)

def slpSendOutput (tokenId : H256) (amounts : List UInt64) : TransactionOutput where
  value := 0
  scriptPubkey :=
    (amounts.foldl (fun builder amount => builder.pushData (toBeBytes amount))
      ((header slpSend).pushData tokenId.val)).intoBytes

/-- A push, or one of no bytes by an opcode for long ones. -/
def pushOptional (builder : Builder) : Option Bytes → Builder
  | some data => builder.pushData data
  | none => (builder.pushOpcode Opcode.opPushdata1).pushOpcode Opcode.op0

/-- The arguments of `slp_genesis_output`. -/
structure GenesisOutput where
  ticker : String
  name : String
  tokenDocumentUrl : Option String
  tokenDocumentHash : Option H256
  decimals : UInt8
  mintBatonVout : Option UInt8
  initialTokenMintQuantity : UInt64

def slpGenesisOutput (args : GenesisOutput) : TransactionOutput where
  value := 0
  scriptPubkey :=
    let builder := ((header slpGenesis).pushData (asBytes args.ticker)).pushData
      (asBytes args.name)
    let builder := pushOptional builder (args.tokenDocumentUrl.map asBytes)
    let builder := pushOptional builder (args.tokenDocumentHash.map Subtype.val)
    let builder := builder.pushData [args.decimals]
    let builder := pushOptional builder (args.mintBatonVout.map fun vout => [vout])
    (builder.pushData (toBeBytes args.initialTokenMintQuantity)).intoBytes

/-! ## Reading -/

structure SlpGenesisParams where
  tokenTicker : String
  tokenName : String
  tokenDocumentUrl : String
  tokenDocumentHash : Bytes
  decimals : Bytes
  mintBatonVout : Option UInt8
  initialTokenMintQuantity : UInt64
  deriving DecidableEq

inductive SlpTransaction where
  | genesis (params : SlpGenesisParams)
  | mint (tokenId : H256) (mintBatonVout : Option UInt8) (additionalTokenQuantity : UInt64)
  | send (tokenId : H256) (amounts : List UInt64)
  deriving DecidableEq

structure SlpTxDetails where
  opCode : UInt8
  lokadId : String
  tokenType : Bytes
  transaction : SlpTransaction
  deriving DecidableEq

/-- A `String` takes what is no string with replacements. -/
def text : Reader String := do
  let bytes ← Reader.bytes
  pure (Library.Utf8.decodeLossy bytes)

/-- A `Vec<u8>` -/
def byteList : Reader Bytes := Reader.list Reader.u8

def tokenDocumentUrl : Reader String := do
  let maybePushOpCode ← Reader.u8
  if maybePushOpCode = Opcode.opPushdata1 then text
  else do
    let url ← takeBytes .unexpectedEnd maybePushOpCode.toNat
    match Library.Utf8.decode url with
    | some url => pure url
    | none => throw (.custom (Library.Utf8.errorText url))

def tokenDocumentHash : Reader Bytes := do
  let maybePushOpCode ← Reader.u8
  if maybePushOpCode = Opcode.opPushdata1 then byteList
  else takeBytes .unexpectedEnd maybePushOpCode.toNat

def mintBatonVout : Reader (Option UInt8) := do
  let maybePushOpCode ← Reader.u8
  if maybePushOpCode = Opcode.opPushdata1 then do
    let _zero ← Reader.u8
    pure none
  else do
    let vout ← Reader.u8
    pure (some vout)

/-- An amount of tokens. -/
def quantity : Reader UInt64 := do
  let bytes ← byteList
  if bytes.length ≠ 8 then throw (.custom s!"Expected 8 bytes, got {bytes.length}")
  else pure (fromBeBytes bytes)

def tokenId : Reader H256 := do
  let maybeId ← byteList
  if h : maybeId.length = 32 then pure ⟨maybeId, h⟩
  else throw (.custom s!"Unexpected token id length {maybeId.length}")

def genesisParams : Reader SlpGenesisParams := do
  let tokenTicker ← text
  let tokenName ← text
  let tokenDocumentUrl ← tokenDocumentUrl
  let tokenDocumentHash ← tokenDocumentHash
  let decimals ← byteList
  let mintBatonVout ← mintBatonVout
  let initialTokenMintQuantity ← quantity
  pure { tokenTicker, tokenName, tokenDocumentUrl, tokenDocumentHash, decimals, mintBatonVout,
         initialTokenMintQuantity }

/-- The loop over the amounts, which take a byte each at least. -/
def amountsUpTo : ℕ → Reader (List UInt64)
  | 0 => pure []
  | fuel + 1 => do
    if ← Reader.isFinished then pure []
    else do
      let amount ← quantity
      let amounts ← amountsUpTo fuel
      pure (amount :: amounts)

def amounts : Reader (List UInt64) := fun s => amountsUpTo (s.buffer.length + 1) s

def sendAmounts : Reader (List UInt64) := do
  let amounts ← amounts
  if 19 < amounts.length then
    throw (.custom s!"Expected at most 19 token amounts, got {amounts.length}")
  else pure amounts

/-- `SlpTransaction::deserialize` -/
def transaction : Reader SlpTransaction := do
  let transactionType ← text
  if transactionType = slpGenesis then do
    let params ← genesisParams
    pure (.genesis params)
  else if transactionType = slpMint then do
    let id ← tokenId
    let vout ← mintBatonVout
    let amount ← quantity
    pure (.mint id vout amount)
  else if transactionType = slpSend then do
    let id ← tokenId
    let amounts ← sendAmounts
    pure (.send id amounts)
  else throw (.custom s!"Unsupported transaction type {transactionType}")

def details : Reader SlpTxDetails := do
  let opCode ← Reader.u8
  let lokadId ← text
  let tokenType ← byteList
  let transaction ← transaction
  pure { opCode, lokadId, tokenType, transaction }

/-- `deserialize` -/
def deserialize (script : Script) : Except SerError SlpTxDetails :=
  match details.run ⟨script, .standard, true⟩ with
  | .error e => .error e
  | .ok (result, s) => if s.buffer = [] then .ok result else .error .unreadData

inductive ParseSlpScriptError where
  | notOpReturn
  | unexpectedLokadId (id : String)
  | unexpectedTokenType (tokenType : Bytes)
  | deserializeFailed (e : SerError)
  deriving DecidableEq

def parseSlpScript (script : Script) : Except ParseSlpScriptError SlpTxDetails :=
  match deserialize script with
  | .error e => .error (.deserializeFailed e)
  | .ok details =>
    if Opcode.fromU8 details.opCode ≠ some Opcode.opReturn then .error .notOpReturn
    else if details.lokadId ≠ slpLokadId then .error (.unexpectedLokadId details.lokadId)
    else if details.tokenType.head? ≠ some slpFungible then
      .error (.unexpectedTokenType details.tokenType)
    else .ok details

end DeXFG.Utxo.Slp
