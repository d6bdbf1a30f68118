import DeXFG.Library.Runs
import DeXFG.Spv.HeaderChain

/-!
# The loop that keeps the headers of a chain

Headers are fetched from servers in chunks, checked against those that are stored, and stored. When
a header does not follow the last one that is stored, the loop goes back until one does, and what
was stored after it is dropped. Servers may answer anything, and the storage may fail.
-/
namespace DeXFG.Spv
open Utxo

/-! ## The storage -/

/-- The table of headers, a row of a height and a header for each. -/
abbrev HeaderTable := List (ℕ × BlockHeader)

namespace HeaderTable

variable (crypto : Bitcrypto) (table : HeaderTable)

def getBlockHeader (height : ℕ) : Option BlockHeader :=
  (table.find? fun row => row.1 = height).map Prod.snd

def getLastBlockHeight : Option ℕ := (table.map Prod.fst).max?

def getLastBlockHeaderWithNonMaxBits (maxBits : UInt32) : Option BlockHeader :=
  let rows : HeaderTable := table.filter fun row => row.2.bits.toU32 ≠ maxBits
  rows.getLastBlockHeight.bind rows.getBlockHeader

/-- `INSERT OR REPLACE`; heights and hashes are unique. -/
def insertRow (row : ℕ × BlockHeader) : HeaderTable :=
  row :: table.filter fun other =>
    other.1 ≠ row.1 ∧ other.2.hash crypto ≠ row.2.hash crypto

def addBlockHeaders (registry : List (ℕ × BlockHeader)) : HeaderTable :=
  registry.foldl (insertRow crypto) table

def removeHeaders (fromHeight toHeight : ℕ) : HeaderTable :=
  table.filter fun row => ¬ (fromHeight ≤ row.1 ∧ row.1 ≤ toHeight)

end HeaderTable

/-- The operations of the storage that fail in a turn of the loop. -/
structure StorageFaults where
  getLastBlockHeight : Bool
  getBlockHeader : ℕ → Option BlockHeaderStorageError
  addStartingHeader : Bool
  removeExcessive : Bool
  removeReorganized : ℕ → Bool
  addBlockHeaders : Bool

def StorageFaults.none : StorageFaults where
  getLastBlockHeight := false
  getBlockHeader _ := Option.none
  addStartingHeader := false
  removeExcessive := false
  removeReorganized _ := false
  addBlockHeaders := false

def HeaderTable.ops (table : HeaderTable) (faults : StorageFaults) : BlockHeaderStorageOps where
  getBlockHeader height :=
    match faults.getBlockHeader height with
    | some e => .error e
    | none => .ok (table.getBlockHeader height)
  getLastBlockHeaderWithNonMaxBits maxBits :=
    .ok (table.getLastBlockHeaderWithNonMaxBits maxBits)

/-! ## The servers -/

inductive HeadersError where
  | transport
  | responseTooLarge
  | other
  deriving DecidableEq

inductive TryToRetrieveHeadersUntilSuccessError where
  | networkError (serverAddress : String)
  | permanentError (serverAddress : String)
  deriving DecidableEq

/-- What comes from outside in a turn of the loop. The answers are those of a server to a request
for the headers of some heights, the requests of the turn being numbered. -/
structure Iteration where
  getServersWithLatestBlockCount : Except String (List String × ℕ)
  blockchainBlockHeader : Except String BlockHeader
  index : ℕ
  answers : String → ℕ → ℕ → ℕ → List (Except HeadersError (List BlockHeader))
  faults : StorageFaults

def chunkSizeReducerValue : ℕ := 100

def tryToRetrieveHeadersAttempts : ℕ := 10

/-- `retrieve_headers_from`, of an answer. -/
def retrieveHeadersFrom (fromHeight toHeight : ℕ)
    (answer : Except HeadersError (List BlockHeader)) : Except HeadersError (List BlockHeader) :=
  if fromHeight = 0 ∨ toHeight < fromHeight then .error .other
  else
    match answer with
    | .error e => .error e
    | .ok [] => .error .other
    | .ok headers => .ok headers

/-- The loop of `try_to_retrieve_headers_until_success`, which asks for the same heights again
when the response is too large; and the size of a chunk after it. A server that does not answer
any more fails each attempt that is left. -/
def tryToRetrieveHeaders (server : String) (fromHeight toHeight : ℕ) :
    ℕ → ℕ → List (Except HeadersError (List BlockHeader)) →
      Except TryToRetrieveHeadersUntilSuccessError (List BlockHeader) × ℕ
  | _, chunkSize, [] => (.error (.networkError server), chunkSize)
  | attempts, chunkSize, answer :: answers =>
    match retrieveHeadersFrom fromHeight toHeight answer with
    | .ok headers => (.ok headers, chunkSize)
    | .error .transport =>
      if attempts = 0 then (.error (.networkError server), chunkSize)
      else tryToRetrieveHeaders server fromHeight toHeight (attempts - 1) chunkSize answers
    | .error .responseTooLarge =>
      if chunkSizeReducerValue < chunkSize then
        tryToRetrieveHeaders server fromHeight toHeight attempts
          (chunkSize - chunkSizeReducerValue) answers
      else (.error (.permanentError server), chunkSize)
    | .error .other => (.error (.permanentError server), chunkSize)

/-- The headers with their heights. -/
def blockRegistry (fromHeight : ℕ) (headers : List BlockHeader) : List (ℕ × BlockHeader) :=
  (headers.zipIdx fromHeight).map Prod.swap

/-! ## The loop -/

structure SyncState where
  table : HeaderTable
  chunkSize : ℕ
  /-- The servers that the client is connected to. -/
  servers : List String
  electrumAddresses : List String
  blockCount : ℕ

/-- The loop goes on, or it breaks or panics. -/
inductive Turn where
  | continues (s : SyncState)
  | stops (s : SyncState)

def Turn.state : Turn → SyncState
  | continues s => s
  | stops s => s

/-- The macro that removes a server, and breaks if none is left. -/
def SyncState.removeServer (s : SyncState) (address : String) : Turn :=
  if address ∈ s.servers then
    let s := { s with servers := s.servers.erase address }
    if s.servers = [] then .stops s else .continues s
  else .stops s

inductive PossibleChainReorgError where
  | badStartingHeaderChain
  | validationError (e : SPVError)
  | headersRetrievalError (e : TryToRetrieveHeadersUntilSuccessError)
  deriving DecidableEq

def PossibleChainReorgError.isNetworkError : PossibleChainReorgError → Bool
  | headersRetrievalError (.networkError _) => true
  | _ => false

section Loop

variable (crypto : Bitcrypto) (coin : String) (conf : SPVConf)

def validateAndStoreStartingHeader (table : HeaderTable) (it : Iteration) : Option HeaderTable :=
  match it.blockchainBlockHeader with
  | .error _ => none
  | .ok header =>
    match conf.validateRpcStartingHeader crypto conf.startingBlockHeader.height header with
    | .error _ => none
    | .ok () =>
      if it.faults.addStartingHeader then none
      else some (table.addBlockHeaders crypto [(conf.startingBlockHeader.height, header)])

/-- The height of the last stored header, after the first header has been stored if there was
none. -/
def lastHeightInStorage (s : SyncState) (it : Iteration) : Except Turn (SyncState × ℕ) :=
  if it.faults.getLastBlockHeight then .error (.continues s)
  else
    match s.table.getLastBlockHeight with
    | some height => .ok (s, height)
    | none =>
      match validateAndStoreStartingHeader crypto conf s.table it with
      | none => .error (.stops s)
      | some table => .ok ({ s with table := table }, conf.startingBlockHeader.height)

/-- The servers are asked for their heights if a chunk goes beyond the last that is known. -/
def refreshBlockCount (s : SyncState) (it : Iteration) (retrieveTo : ℕ) : Except Turn SyncState :=
  if s.blockCount < retrieveTo then
    match it.getServersWithLatestBlockCount with
    | .error _ => .error (.continues s)
    | .ok (electrumAddresses, blockCount) =>
      .ok { s with electrumAddresses := electrumAddresses, blockCount := blockCount }
  else .ok s

def removeExcessiveHeaders (s : SyncState) (it : Iteration) (retrieveTo : ℕ) : SyncState :=
  match conf.maxStoredBlockHeaders with
  | none => s
  | some maxAllowedHeaders =>
    if maxAllowedHeaders.val.toNat < retrieveTo ∧ !it.faults.removeExcessive then
      { s with table := s.table.removeHeaders 0 (retrieveTo - maxAllowedHeaders.val.toNat) }
    else s

/-- A request for headers, with the state that it is made in. -/
structure Request where
  state : SyncState
  lastHeight : ℕ
  retrieveTo : ℕ
  server : String

/-- The part of the loop before headers are retrieved. -/
def request (s : SyncState) (it : Iteration) : Except Turn Request := do
  let (s, lastHeight) ← lastHeightInStorage crypto conf s it
  let s ← refreshBlockCount s it (lastHeight + s.chunkSize)
  let retrieveTo := min (lastHeight + s.chunkSize) s.blockCount
  if lastHeight = s.blockCount then throw (.continues s)
  let s := removeExcessiveHeaders conf s it retrieveTo
  -- a random index is drawn below the length, which panics if there is no address
  match s.electrumAddresses[it.index % s.electrumAddresses.length]? with
  | none => throw (.stops s)
  | some server =>
    pure { state := s, lastHeight := lastHeight, retrieveTo := retrieveTo, server := server }

/-- The loop of `resolve_possible_chain_reorg`, which goes back until headers follow those that
are stored. None if the fuel runs out; the result is none if it panics. -/
def resolvePossibleChainReorg (it : Iteration) (server : String) (lastHeight : ℕ) :
    ℕ → ℕ → ℕ → ℕ → SyncState → Option (SyncState × Option (Except PossibleChainReorgError Unit))
  | 0, _, _, _, _ => none
  | fuel + 1, requestNumber, retrieveFrom, retrieveTo, s =>
    let (retrieved, chunkSize) := tryToRetrieveHeaders server retrieveFrom retrieveTo
      tryToRetrieveHeadersAttempts s.chunkSize
      (it.answers server requestNumber retrieveFrom retrieveTo)
    let s := { s with chunkSize := chunkSize }
    match retrieved with
    | .error e => some (s, some (.error (.headersRetrievalError e)))
    | .ok headers =>
      match validateHeaders crypto coin (s.table.ops it.faults) (retrieveFrom - 1) headers conf with
      | none => some (s, none)
      | some (.ok ()) =>
        if it.faults.removeReorganized requestNumber then
          resolvePossibleChainReorg it server lastHeight fuel (requestNumber + 1) retrieveFrom
            retrieveTo s
        else
          some ({ s with table := s.table.removeHeaders retrieveFrom lastHeight }, some (.ok ()))
      | some (.error (.parentHashMismatch _ mismatchedBlockHeight)) =>
        let retrieveTo := mismatchedBlockHeight - 1
        if retrieveTo = conf.startingBlockHeader.height then
          some (s, some (.error .badStartingHeaderChain))
        else
          resolvePossibleChainReorg it server lastHeight fuel (requestNumber + 1)
            (max (retrieveTo - s.chunkSize) (conf.startingBlockHeader.height + 1)) retrieveTo s
      | some (.error e) => some (s, some (.error (.validationError e)))

/-- What the loop does after a reorganization. -/
def afterReorg (server : String) :
    SyncState × Option (Except PossibleChainReorgError Unit) → Turn
  | (s, none) => .stops s
  | (s, some (.ok ())) => .continues s
  | (s, some (.error e)) => if e.isNetworkError then .continues s else s.removeServer server

/-- The part of the loop after headers have been retrieved. -/
def storeHeaders (it : Iteration) (fuel : ℕ) (r : Request) (s : SyncState)
    (headers : List BlockHeader) : Option Turn :=
  match validateHeaders crypto coin (s.table.ops it.faults) r.lastHeight headers conf with
  | none => some (.stops s)
  | some (.ok ()) =>
    if it.faults.addBlockHeaders then some (.continues s)
    else
      some (.continues { s with
        table := s.table.addBlockHeaders crypto (blockRegistry (r.lastHeight + 1) headers) })
  | some (.error (.parentHashMismatch _ mismatchedBlockHeight)) =>
    (resolvePossibleChainReorg crypto coin conf it r.server r.lastHeight fuel 1
      mismatchedBlockHeight (mismatchedBlockHeight + s.chunkSize) s).map (afterReorg r.server)
  | some (.error _) => some (s.removeServer r.server)

/-- A turn of `block_header_utxo_loop`, none if the fuel runs out. -/
def iterate (fuel : ℕ) (s : SyncState) (it : Iteration) : Option Turn :=
  match request crypto conf s it with
  | .error turn => some turn
  | .ok r =>
    let (retrieved, chunkSize) := tryToRetrieveHeaders r.server (r.lastHeight + 1) r.retrieveTo
      tryToRetrieveHeadersAttempts r.state.chunkSize
      (it.answers r.server 0 (r.lastHeight + 1) r.retrieveTo)
    let s := { r.state with chunkSize := chunkSize }
    match retrieved with
    | .error (.networkError _) => some (.continues s)
    | .error (.permanentError _) => some (s.removeServer r.server)
    | .ok headers => storeHeaders crypto coin conf it fuel r s headers

/-- A turn that the loop goes on after. -/
def syncStep (fuel : ℕ) (s : SyncState) (it : Iteration) : Option SyncState :=
  match iterate crypto coin conf fuel s it with
  | some (.continues s) => some s
  | _ => none

end Loop

end DeXFG.Spv
