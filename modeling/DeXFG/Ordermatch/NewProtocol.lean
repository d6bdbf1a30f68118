import DeXFG.Library.FiniteMap
import DeXFG.Ordermatch.Types

/-!
# The ordermatch messages

`new_protocol.rs`: the messages exchanged on the orderbook topics. The compact
uuid and the raw public keys of the wire form are the same values as in the
orders, so both sides share `Uuid`, `H256` and `MatchBy`.
-/
namespace DeXFG.Ordermatch.NewProtocol
open DeXFG.Library.FiniteMap

/-- A pair `base:rel` with the two tickers in alphabetical order. -/
abbrev AlbOrderedOrderbookPair := String

/-- A trie root. -/
abbrev H64 := Fin (2 ^ 64)

instance neZero_h64 : NeZero (2 ^ 64) := ⟨by norm_num⟩

structure MakerOrderCreated where
  uuid : Uuid
  base : String
  rel : String
  price : ℚ
  maxVolume : ℚ
  minVolume : ℚ
  createdAt : UInt64
  confSettings : OrderConfirmationsSettings
  timestamp : UInt64
  pairTrieRoot : H64
  baseProtocolInfo : List UInt8
  relProtocolInfo : List UInt8
  deriving DecidableEq

structure PubkeyKeepAlive where
  trieRoots : HashMap AlbOrderedOrderbookPair H64
  timestamp : UInt64
  deriving DecidableEq

structure MakerOrderCancelled where
  uuid : Uuid
  timestamp : UInt64
  pairTrieRoot : H64
  deriving DecidableEq

structure MakerOrderUpdatedV1 where
  uuid : Uuid
  newPrice : Option ℚ
  newMaxVolume : Option ℚ
  newMinVolume : Option ℚ
  timestamp : UInt64
  pairTrieRoot : H64
  deriving DecidableEq

structure MakerOrderUpdatedV2 where
  uuid : Uuid
  newPrice : Option ℚ
  newMaxVolume : Option ℚ
  newMinVolume : Option ℚ
  timestamp : UInt64
  pairTrieRoot : H64
  confSettings : Option OrderConfirmationsSettings
  deriving DecidableEq

inductive MakerOrderUpdated where
  | v1 (msg : MakerOrderUpdatedV1)
  | v2 (msg : MakerOrderUpdatedV2)
  deriving DecidableEq

namespace MakerOrderUpdated

def new (uuid : Uuid) (timestamp : UInt64) : MakerOrderUpdated :=
  .v2 { uuid, newPrice := none, newMaxVolume := none, newMinVolume := none, timestamp,
        pairTrieRoot := 0, confSettings := none }

def withNewPrice (newPrice : ℚ) : MakerOrderUpdated → MakerOrderUpdated
  | .v1 msg => .v1 { msg with newPrice := some newPrice }
  | .v2 msg => .v2 { msg with newPrice := some newPrice }

def withNewMaxVolume (newMaxVolume : ℚ) : MakerOrderUpdated → MakerOrderUpdated
  | .v1 msg => .v1 { msg with newMaxVolume := some newMaxVolume }
  | .v2 msg => .v2 { msg with newMaxVolume := some newMaxVolume }

def withNewMinVolume (newMinVolume : ℚ) : MakerOrderUpdated → MakerOrderUpdated
  | .v1 msg => .v1 { msg with newMinVolume := some newMinVolume }
  | .v2 msg => .v2 { msg with newMinVolume := some newMinVolume }

/-- The old message has no settings field, so there the settings are dropped. -/
def withNewConfSettings (confSettings : OrderConfirmationsSettings) :
    MakerOrderUpdated → MakerOrderUpdated
  | .v1 msg => .v1 msg
  | .v2 msg => .v2 { msg with confSettings := some confSettings }

def uuid : MakerOrderUpdated → Uuid
  | .v1 msg => msg.uuid
  | .v2 msg => msg.uuid

def newPrice : MakerOrderUpdated → Option MmNumber
  | .v1 msg => msg.newPrice
  | .v2 msg => msg.newPrice

def newMaxVolume : MakerOrderUpdated → Option MmNumber
  | .v1 msg => msg.newMaxVolume
  | .v2 msg => msg.newMaxVolume

def newMinVolume : MakerOrderUpdated → Option MmNumber
  | .v1 msg => msg.newMinVolume
  | .v2 msg => msg.newMinVolume

def newConfSettings : MakerOrderUpdated → Option OrderConfirmationsSettings
  | .v1 _ => none
  | .v2 msg => msg.confSettings

section Fields

variable (m : MakerOrderUpdated) (x : ℚ) (s : OrderConfirmationsSettings) (u : Uuid) (t : UInt64)

@[simp] theorem newPrice_new : (new u t).newPrice = none := rfl
@[simp] theorem newMaxVolume_new : (new u t).newMaxVolume = none := rfl
@[simp] theorem newPrice_withNewPrice : (m.withNewPrice x).newPrice = some x := by cases m <;> rfl
@[simp] theorem newPrice_withNewMaxVolume : (m.withNewMaxVolume x).newPrice = m.newPrice := by
  cases m <;> rfl
@[simp] theorem newPrice_withNewMinVolume : (m.withNewMinVolume x).newPrice = m.newPrice := by
  cases m <;> rfl
@[simp] theorem newPrice_withNewConfSettings : (m.withNewConfSettings s).newPrice = m.newPrice := by
  cases m <;> rfl
@[simp] theorem newMaxVolume_withNewPrice : (m.withNewPrice x).newMaxVolume = m.newMaxVolume := by
  cases m <;> rfl
@[simp] theorem newMaxVolume_withNewMaxVolume : (m.withNewMaxVolume x).newMaxVolume = some x := by
  cases m <;> rfl
@[simp] theorem newMaxVolume_withNewMinVolume :
    (m.withNewMinVolume x).newMaxVolume = m.newMaxVolume := by cases m <;> rfl
@[simp] theorem newMaxVolume_withNewConfSettings :
    (m.withNewConfSettings s).newMaxVolume = m.newMaxVolume := by cases m <;> rfl
@[simp] theorem newMinVolume_new : (new u t).newMinVolume = none := rfl
@[simp] theorem newMinVolume_withNewPrice : (m.withNewPrice x).newMinVolume = m.newMinVolume := by
  cases m <;> rfl
@[simp] theorem newMinVolume_withNewMaxVolume :
    (m.withNewMaxVolume x).newMinVolume = m.newMinVolume := by cases m <;> rfl
@[simp] theorem newMinVolume_withNewMinVolume : (m.withNewMinVolume x).newMinVolume = some x := by
  cases m <;> rfl
@[simp] theorem newMinVolume_withNewConfSettings :
    (m.withNewConfSettings s).newMinVolume = m.newMinVolume := by cases m <;> rfl
@[simp] theorem newConfSettings_withNewPrice :
    (m.withNewPrice x).newConfSettings = m.newConfSettings := by cases m <;> rfl
@[simp] theorem newConfSettings_withNewMaxVolume :
    (m.withNewMaxVolume x).newConfSettings = m.newConfSettings := by cases m <;> rfl
@[simp] theorem newConfSettings_withNewMinVolume :
    (m.withNewMinVolume x).newConfSettings = m.newConfSettings := by cases m <;> rfl
@[simp] theorem newConfSettings_new_withNewConfSettings :
    ((new u t).withNewConfSettings s).newConfSettings = some s := rfl

end Fields

end MakerOrderUpdated

structure TakerRequest where
  base : String
  rel : String
  baseAmount : ℚ
  relAmount : ℚ
  action : TakerAction
  uuid : Uuid
  matchBy : MatchBy
  confSettings : OrderConfirmationsSettings
  baseProtocolInfo : Option (List UInt8)
  relProtocolInfo : Option (List UInt8)
  swapVersion : SwapVersion
  swapMethod : String
  deriving DecidableEq

structure MakerReserved where
  base : String
  rel : String
  baseAmount : ℚ
  relAmount : ℚ
  takerOrderUuid : Uuid
  makerOrderUuid : Uuid
  confSettings : OrderConfirmationsSettings
  baseProtocolInfo : Option (List UInt8)
  relProtocolInfo : Option (List UInt8)
  swapVersion : SwapVersion
  deriving DecidableEq

structure TakerConnect where
  takerOrderUuid : Uuid
  makerOrderUuid : Uuid
  deriving DecidableEq

structure MakerConnected where
  takerOrderUuid : Uuid
  makerOrderUuid : Uuid
  deriving DecidableEq

inductive OrdermatchMessage where
  | makerOrderCreated (msg : MakerOrderCreated)
  | makerOrderUpdated (msg : MakerOrderUpdated)
  | pubkeyKeepAlive (msg : PubkeyKeepAlive)
  | makerOrderCancelled (msg : MakerOrderCancelled)
  | takerRequest (msg : TakerRequest)
  | makerReserved (msg : MakerReserved)
  | takerConnect (msg : TakerConnect)
  | makerConnected (msg : MakerConnected)
  deriving DecidableEq

end DeXFG.Ordermatch.NewProtocol
