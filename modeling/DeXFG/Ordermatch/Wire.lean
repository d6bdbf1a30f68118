import DeXFG.Library.Serde
import DeXFG.Ordermatch.Handlers

/-!
# Wire form of the ordermatch messages

`encode_message` and `decode_message` on the messages of `new_protocol.rs`, as
the values that the compact MessagePack encoding writes and reads. Hash sets
and maps are written in the order in which they happen to be iterated.
-/
namespace DeXFG.Ordermatch.NewProtocol
open DeXFG.Library.FiniteMap DeXFG.Library.Serde

/-- The iteration orders of the hash sets and maps inside the messages. -/
structure HashIteration where
  uuids : Finset Uuid → List Uuid
  uuids_toFinset : ∀ s, (uuids s).toFinset = s
  pubkeys : Finset H256 → List H256
  pubkeys_toFinset : ∀ s, (pubkeys s).toFinset = s
  roots : HashMap String H64 → List (String × H64)
  roots_toMap : ∀ m, insertAll ∅ (roots m) = m

/-! ## Fields -/

def compactUuid : Codec Uuid := .binary 16

def h64 : Codec H64 := .byteArray 8

def h256 : Codec H256 := .byteArray 32

def protocolInfo : Codec (List UInt8) := .list .u8

def optProtocolInfo : Codec (Option (List UInt8)) :=
  protocolInfo.option fun _ => Value.noConfusion

def optRational : Codec (Option ℚ) := Codec.bigRational.option fun _ => Value.noConfusion

def confSettings : Codec OrderConfirmationsSettings where
  ser s := .array [Codec.u64.ser s.baseConfs, Codec.bool.ser s.baseNota,
    Codec.u64.ser s.relConfs, Codec.bool.ser s.relNota]
  de := readStruct do
    let baseConfs ← next Codec.u64.de
    let baseNota ← next Codec.bool.de
    let relConfs ← next Codec.u64.de
    let relNota ← next Codec.bool.de
    return { baseConfs, baseNota, relConfs, relNota }
  de_ser s := by simp only [readStruct, run_next_bind, run_return, Option.map_some]

def optConfSettings : Codec (Option OrderConfirmationsSettings) :=
  confSettings.option fun _ => Value.noConfusion

def swapVersion : Codec SwapVersion where
  ser v := .array [Codec.u8.ser v.version]
  de := readStruct do
    let version ← next Codec.u8.de
    return ⟨version⟩
  de_ser v := by simp only [readStruct, run_next_bind, run_return, Option.map_some]

def takerAction : Codec TakerAction where
  ser
    | .buy => variant 0 .nil
    | .sell => variant 1 .nil
  de
    | .map [(.int 0, .nil)] => some .buy
    | .map [(.int 1, .nil)] => some .sell
    | _ => none
  de_ser a := by cases a <;> rfl

def matchBy (it : HashIteration) : Codec MatchBy where
  ser
    | .any => variant 0 .nil
    | .orders uuids => variant 1 ((Codec.list compactUuid).ser (it.uuids uuids))
    | .pubkeys pubkeys => variant 2 ((Codec.list h256).ser (it.pubkeys pubkeys))
  de
    | .map [(.int 0, .nil)] => some .any
    | .map [(.int 1, v)] => ((Codec.list compactUuid).de v).map fun l => .orders l.toFinset
    | .map [(.int 2, v)] => ((Codec.list h256).de v).map fun l => .pubkeys l.toFinset
    | _ => none
  de_ser m := by
    cases m with
    | any => rfl
    | orders uuids =>
      change ((Codec.list compactUuid).de ((Codec.list compactUuid).ser (it.uuids uuids))).map _ = _
      rw [Codec.de_ser, Option.map_some, it.uuids_toFinset]
    | pubkeys pubkeys =>
      change ((Codec.list h256).de ((Codec.list h256).ser (it.pubkeys pubkeys))).map _ = _
      rw [Codec.de_ser, Option.map_some, it.pubkeys_toFinset]

def trieRoots (it : HashIteration) : Codec (HashMap String H64) :=
  .hashMap .string h64 it.roots (insertAll ∅) it.roots_toMap

/-! ## Messages that are read back -/

def makerOrderCreated : Codec MakerOrderCreated where
  ser m := .array [compactUuid.ser m.uuid, Codec.string.ser m.base, Codec.string.ser m.rel,
    Codec.bigRational.ser m.price, Codec.bigRational.ser m.maxVolume,
    Codec.bigRational.ser m.minVolume, Codec.u64.ser m.createdAt, confSettings.ser m.confSettings,
    Codec.u64.ser m.timestamp, h64.ser m.pairTrieRoot, protocolInfo.ser m.baseProtocolInfo,
    protocolInfo.ser m.relProtocolInfo]
  de := readStruct do
    let uuid ← next compactUuid.de
    let base ← next Codec.string.de
    let rel ← next Codec.string.de
    let price ← next Codec.bigRational.de
    let maxVolume ← next Codec.bigRational.de
    let minVolume ← next Codec.bigRational.de
    let createdAt ← next Codec.u64.de
    let confSettings ← next confSettings.de
    let timestamp ← next Codec.u64.de
    let pairTrieRoot ← next h64.de
    let baseProtocolInfo ← nextOr [] protocolInfo.de
    let relProtocolInfo ← nextOr [] protocolInfo.de
    return { uuid, base, rel, price, maxVolume, minVolume, createdAt, confSettings, timestamp,
             pairTrieRoot, baseProtocolInfo, relProtocolInfo }
  de_ser m := by
    simp only [readStruct, run_next_bind, run_nextOr_bind, run_return, Option.map_some]

def pubkeyKeepAlive (it : HashIteration) : Codec PubkeyKeepAlive where
  ser m := .array [(trieRoots it).ser m.trieRoots, Codec.u64.ser m.timestamp]
  de := readStruct do
    let trieRoots ← next (trieRoots it).de
    let timestamp ← next Codec.u64.de
    return { trieRoots, timestamp }
  de_ser m := by
    simp only [readStruct, run_next_bind, run_return, Option.map_some]

def makerOrderCancelled : Codec MakerOrderCancelled where
  ser m := .array [compactUuid.ser m.uuid, Codec.u64.ser m.timestamp, h64.ser m.pairTrieRoot]
  de := readStruct do
    let uuid ← next compactUuid.de
    let timestamp ← next Codec.u64.de
    let pairTrieRoot ← next h64.de
    return { uuid, timestamp, pairTrieRoot }
  de_ser m := by
    simp only [readStruct, run_next_bind, run_return, Option.map_some]

/-- The six fields shared by both versions of an update. -/
def updatedFields (uuid : Uuid) (newPrice newMaxVolume newMinVolume : Option ℚ)
    (timestamp : UInt64) (pairTrieRoot : H64) : List Value :=
  [compactUuid.ser uuid, optRational.ser newPrice, optRational.ser newMaxVolume,
    optRational.ser newMinVolume, Codec.u64.ser timestamp, h64.ser pairTrieRoot]

def readUpdatedV1 : SeqReader MakerOrderUpdatedV1 := do
  let uuid ← next compactUuid.de
  let newPrice ← next optRational.de
  let newMaxVolume ← next optRational.de
  let newMinVolume ← next optRational.de
  let timestamp ← next Codec.u64.de
  let pairTrieRoot ← next h64.de
  return { uuid, newPrice, newMaxVolume, newMinVolume, timestamp, pairTrieRoot }

def readUpdatedV2 : SeqReader MakerOrderUpdatedV2 := do
  let uuid ← next compactUuid.de
  let newPrice ← next optRational.de
  let newMaxVolume ← next optRational.de
  let newMinVolume ← next optRational.de
  let timestamp ← next Codec.u64.de
  let pairTrieRoot ← next h64.de
  let confSettings ← next optConfSettings.de
  return { uuid, newPrice, newMaxVolume, newMinVolume, timestamp, pairTrieRoot, confSettings }

theorem run_readUpdatedV1 (uuid : Uuid) (newPrice newMaxVolume newMinVolume : Option ℚ)
    (timestamp : UInt64) (pairTrieRoot : H64) (vs : List Value) :
    readUpdatedV1.run (updatedFields uuid newPrice newMaxVolume newMinVolume timestamp
        pairTrieRoot ++ vs) =
      some (⟨uuid, newPrice, newMaxVolume, newMinVolume, timestamp, pairTrieRoot⟩, vs) := by
  simp only [readUpdatedV1, updatedFields, List.cons_append, List.nil_append, run_next_bind,
    run_return]

/-- The enum is untagged: the value is buffered and each variant is tried in turn. A seventh
field makes the first one fail. -/
def makerOrderUpdated : Codec MakerOrderUpdated where
  ser
    | .v1 m => .array (updatedFields m.uuid m.newPrice m.newMaxVolume m.newMinVolume m.timestamp
        m.pairTrieRoot)
    | .v2 m => .array (updatedFields m.uuid m.newPrice m.newMaxVolume m.newMinVolume m.timestamp
        m.pairTrieRoot ++ [optConfSettings.ser m.confSettings])
  de v := ((readStructExact readUpdatedV1 v).map .v1).or ((readStructExact readUpdatedV2 v).map .v2)
  de_ser m := by
    cases m with
    | v1 m =>
      have hv1 := run_readUpdatedV1 m.uuid m.newPrice m.newMaxVolume m.newMinVolume m.timestamp
        m.pairTrieRoot []
      rw [List.append_nil] at hv1
      simp [readStructExact, hv1]
    | v2 m =>
      have hv1 := run_readUpdatedV1 m.uuid m.newPrice m.newMaxVolume m.newMinVolume m.timestamp
        m.pairTrieRoot [optConfSettings.ser m.confSettings]
      have hv2 : readUpdatedV2.run (updatedFields m.uuid m.newPrice m.newMaxVolume m.newMinVolume
          m.timestamp m.pairTrieRoot ++ [optConfSettings.ser m.confSettings]) = some (m, []) := by
        simp only [readUpdatedV2, updatedFields, List.cons_append, List.nil_append, run_next_bind,
          run_return]
      simp [readStructExact, hv1, hv2]

def takerConnect : Codec TakerConnect where
  ser m := .array [compactUuid.ser m.takerOrderUuid, compactUuid.ser m.makerOrderUuid]
  de := readStruct do
    let takerOrderUuid ← next compactUuid.de
    let makerOrderUuid ← next compactUuid.de
    return { takerOrderUuid, makerOrderUuid }
  de_ser m := by
    simp only [readStruct, run_next_bind, run_return, Option.map_some]

def makerConnected : Codec MakerConnected where
  ser m := .array [compactUuid.ser m.takerOrderUuid, compactUuid.ser m.makerOrderUuid]
  de := readStruct do
    let takerOrderUuid ← next compactUuid.de
    let makerOrderUuid ← next compactUuid.de
    return { takerOrderUuid, makerOrderUuid }
  de_ser m := by
    simp only [readStruct, run_next_bind, run_return, Option.map_some]

/-! ## Messages with skipped fields -/

/-- A version that is the default is left out. -/
def skipLegacy (v : SwapVersion) : List Value :=
  if v.isLegacy then [] else [swapVersion.ser v]

theorem skipLegacy_of_isLegacy {v : SwapVersion} (h : v.isLegacy = true) : skipLegacy v = [] := by
  rw [skipLegacy, if_pos h]

theorem skipLegacy_of_not_isLegacy {v : SwapVersion} (h : v.isLegacy = false) :
    skipLegacy v = [swapVersion.ser v] := by
  rw [skipLegacy, if_neg (by simp [h])]

namespace TakerRequest

def ser (it : HashIteration) (m : TakerRequest) : Value :=
  .array ([Codec.string.ser m.base, Codec.string.ser m.rel, Codec.bigRational.ser m.baseAmount,
    Codec.bigRational.ser m.relAmount, takerAction.ser m.action, compactUuid.ser m.uuid,
    (NewProtocol.matchBy it).ser m.matchBy, NewProtocol.confSettings.ser m.confSettings] ++
      (skipNone protocolInfo m.baseProtocolInfo ++ (skipNone protocolInfo m.relProtocolInfo ++
        (skipLegacy m.swapVersion ++ [Codec.string.ser m.swapMethod]))))

/-- The fields with a default, after the eight that are always there. -/
def readTail (base rel : String) (baseAmount relAmount : ℚ) (action : TakerAction) (uuid : Uuid)
    (matchBy : MatchBy) (confSettings : OrderConfirmationsSettings) : SeqReader TakerRequest := do
  let baseProtocolInfo ← nextOr none optProtocolInfo.de
  let relProtocolInfo ← nextOr none optProtocolInfo.de
  let swapVersion ← nextOr SwapVersion.default NewProtocol.swapVersion.de
  let swapMethod ← nextOr defaultSwapMethod Codec.string.de
  return { base, rel, baseAmount, relAmount, action, uuid, matchBy, confSettings,
           baseProtocolInfo, relProtocolInfo, swapVersion, swapMethod }

def de (it : HashIteration) : Value → Option TakerRequest :=
  readStruct do
    let base ← next Codec.string.de
    let rel ← next Codec.string.de
    let baseAmount ← next Codec.bigRational.de
    let relAmount ← next Codec.bigRational.de
    let action ← next takerAction.de
    let uuid ← next compactUuid.de
    let matchBy ← next (NewProtocol.matchBy it).de
    let confSettings ← next NewProtocol.confSettings.de
    readTail base rel baseAmount relAmount action uuid matchBy confSettings

end TakerRequest

namespace MakerReserved

def ser (m : MakerReserved) : Value :=
  .array ([Codec.string.ser m.base, Codec.string.ser m.rel, Codec.bigRational.ser m.baseAmount,
    Codec.bigRational.ser m.relAmount, compactUuid.ser m.takerOrderUuid,
    compactUuid.ser m.makerOrderUuid, NewProtocol.confSettings.ser m.confSettings] ++
      (skipNone protocolInfo m.baseProtocolInfo ++ (skipNone protocolInfo m.relProtocolInfo ++
        skipLegacy m.swapVersion)))

/-- The fields with a default, after the seven that are always there. -/
def readTail (base rel : String) (baseAmount relAmount : ℚ) (takerOrderUuid makerOrderUuid : Uuid)
    (confSettings : OrderConfirmationsSettings) : SeqReader MakerReserved := do
  let baseProtocolInfo ← nextOr none optProtocolInfo.de
  let relProtocolInfo ← nextOr none optProtocolInfo.de
  let swapVersion ← nextOr SwapVersion.default NewProtocol.swapVersion.de
  return { base, rel, baseAmount, relAmount, takerOrderUuid, makerOrderUuid, confSettings,
           baseProtocolInfo, relProtocolInfo, swapVersion }

def de : Value → Option MakerReserved :=
  readStruct do
    let base ← next Codec.string.de
    let rel ← next Codec.string.de
    let baseAmount ← next Codec.bigRational.de
    let relAmount ← next Codec.bigRational.de
    let takerOrderUuid ← next compactUuid.de
    let makerOrderUuid ← next compactUuid.de
    let confSettings ← next NewProtocol.confSettings.de
    readTail base rel baseAmount relAmount takerOrderUuid makerOrderUuid confSettings

end MakerReserved

/-! ### Which values the skippable fields accept -/

/-- A skipped field that is present is written like an optional one. -/
theorem skipNone_some (info : List UInt8) :
    skipNone protocolInfo (some info) = [optProtocolInfo.ser (some info)] := rfl

theorem skipNone_none : skipNone protocolInfo none = [] := rfl

theorem optProtocolInfo_de_string (s : String) :
    optProtocolInfo.de (Codec.string.ser s) = none := rfl

theorem swapVersion_de_string (s : String) : swapVersion.de (Codec.string.ser s) = none := rfl

/-- A version is written like protocol info of one byte. -/
theorem swapVersion_ser_eq (v : SwapVersion) :
    swapVersion.ser v = optProtocolInfo.ser (some [v.version]) := rfl

namespace TakerRequest

variable (it : HashIteration) (m : TakerRequest)

/-- The items of the skippable fields. -/
def tailItems : List Value :=
  skipNone protocolInfo m.baseProtocolInfo ++ (skipNone protocolInfo m.relProtocolInfo ++
    (skipLegacy m.swapVersion ++ [Codec.string.ser m.swapMethod]))

theorem de_ser_eq :
    TakerRequest.de it (m.ser it) =
      ((readTail m.base m.rel m.baseAmount m.relAmount m.action m.uuid m.matchBy
        m.confSettings).run m.tailItems).map Prod.fst := by
  simp only [TakerRequest.de, ser, readStruct, List.cons_append, List.nil_append, run_next_bind,
    tailItems]

/-- With every field present the request is read back. -/
theorem de_ser_of_present (hbase : m.baseProtocolInfo.isSome) (hrel : m.relProtocolInfo.isSome)
    (hversion : m.swapVersion.isLegacy = false) : TakerRequest.de it (m.ser it) = some m := by
  obtain ⟨base, hbase⟩ := Option.isSome_iff_exists.mp hbase
  obtain ⟨rel, hrel⟩ := Option.isSome_iff_exists.mp hrel
  rw [de_ser_eq, tailItems, readTail, hbase, hrel, skipNone_some, skipNone_some,
    skipLegacy_of_not_isLegacy hversion]
  simp only [List.cons_append, List.nil_append, run_nextOr_bind, run_return, Option.map_some]
  rw [← hbase, ← hrel]

/-- The fields in front of the swap method that are present, as protocol info. -/
def infos : List (Option (List UInt8)) :=
  (m.baseProtocolInfo.map some).toList ++ ((m.relProtocolInfo.map some).toList ++
    if m.swapVersion.isLegacy then [] else [some [m.swapVersion.version]])

theorem tailItems_eq :
    m.tailItems = m.infos.map optProtocolInfo.ser ++ [Codec.string.ser m.swapMethod] := by
  rw [tailItems, infos]
  cases hversion : m.swapVersion.isLegacy with
  | true =>
    rw [skipLegacy_of_isLegacy hversion]
    cases m.baseProtocolInfo <;> cases m.relProtocolInfo <;> rfl
  | false =>
    rw [skipLegacy_of_not_isLegacy hversion, swapVersion_ser_eq]
    cases m.baseProtocolInfo <;> cases m.relProtocolInfo <;> rfl

/-- A skipped field leaves at most two items in front of the swap method. -/
theorem length_infos_le (h : ¬ (m.baseProtocolInfo.isSome ∧ m.relProtocolInfo.isSome ∧
    m.swapVersion.isLegacy = false)) : m.infos.length ≤ 2 := by
  revert h
  rw [infos]
  cases m.baseProtocolInfo <;> cases m.relProtocolInfo <;> cases m.swapVersion.isLegacy <;> simp

/-- The swap method is a string, and none of the first three places takes a string. -/
theorem run_readTail_string (infos : List (Option (List UInt8))) (hlength : infos.length ≤ 2)
    (method : String) :
    (readTail m.base m.rel m.baseAmount m.relAmount m.action m.uuid m.matchBy
      m.confSettings).run (infos.map optProtocolInfo.ser ++ [Codec.string.ser method]) = none := by
  rw [readTail]
  match infos with
  | [] => simp only [List.map_nil, List.nil_append,
      run_nextOr_bind_none _ _ _ (optProtocolInfo_de_string method)]
  | [_] => simp only [List.map_cons, List.map_nil, List.cons_append, List.nil_append,
      run_nextOr_bind, run_nextOr_bind_none _ _ _ (optProtocolInfo_de_string method)]
  | [_, _] => simp only [List.map_cons, List.map_nil, List.cons_append, List.nil_append,
      run_nextOr_bind, run_nextOr_bind_none _ _ _ (swapVersion_de_string method)]
  | _ :: _ :: _ :: _ => simp at hlength

/-- When a field is skipped the swap method shifts into a place where no string is read. -/
theorem de_ser_of_skipped (h : ¬ (m.baseProtocolInfo.isSome ∧ m.relProtocolInfo.isSome ∧
    m.swapVersion.isLegacy = false)) : TakerRequest.de it (m.ser it) = none := by
  rw [de_ser_eq, tailItems_eq, run_readTail_string m _ (length_infos_le m h), Option.map_none]

theorem de_ser_iff : TakerRequest.de it (m.ser it) = some m ↔
    m.baseProtocolInfo.isSome ∧ m.relProtocolInfo.isSome ∧ m.swapVersion.isLegacy = false := by
  constructor
  · intro h
    by_contra hskip
    rw [de_ser_of_skipped it m hskip] at h
    simp at h
  · rintro ⟨hbase, hrel, hversion⟩
    exact de_ser_of_present it m hbase hrel hversion

end TakerRequest

namespace MakerReserved

variable (m : MakerReserved)

def tailItems : List Value :=
  skipNone protocolInfo m.baseProtocolInfo ++ (skipNone protocolInfo m.relProtocolInfo ++
    skipLegacy m.swapVersion)

/-- What the reader makes of the skippable fields. -/
def withTail (base rel : Option (List UInt8)) (version : SwapVersion) : MakerReserved :=
  { m with baseProtocolInfo := base, relProtocolInfo := rel, swapVersion := version }

theorem de_ser_eq :
    MakerReserved.de m.ser =
      ((readTail m.base m.rel m.baseAmount m.relAmount m.takerOrderUuid m.makerOrderUuid
        m.confSettings).run m.tailItems).map Prod.fst := by
  simp only [MakerReserved.de, ser, readStruct, List.cons_append, List.nil_append, run_next_bind,
    tailItems]

/-- The fields that are present move to the front. -/
theorem de_ser_cases :
    MakerReserved.de m.ser = some
      (match m.baseProtocolInfo, m.relProtocolInfo, m.swapVersion.isLegacy with
      | some base, some rel, _ => m.withTail (some base) (some rel) m.swapVersion
      | some base, none, true => m.withTail (some base) none .default
      | some base, none, false => m.withTail (some base) (some [m.swapVersion.version]) .default
      | none, some rel, true => m.withTail (some rel) none .default
      | none, some rel, false => m.withTail (some rel) (some [m.swapVersion.version]) .default
      | none, none, true => m.withTail none none .default
      | none, none, false => m.withTail (some [m.swapVersion.version]) none .default) := by
  rw [de_ser_eq, tailItems, readTail]
  cases hversion : m.swapVersion.isLegacy with
  | true =>
    rw [skipLegacy_of_isLegacy hversion]
    have hdefault := (SwapVersion.isLegacy_iff _).mp hversion
    cases m.baseProtocolInfo <;> cases m.relProtocolInfo <;>
      simp only [skipNone_some, skipNone_none, List.nil_append, List.cons_append, run_nextOr_bind,
        run_nextOr_bind_nil, run_return, Option.map_some, withTail, hdefault]
  | false =>
    rw [skipLegacy_of_not_isLegacy hversion]
    cases m.baseProtocolInfo <;> cases m.relProtocolInfo
    case some.some =>
      simp only [skipNone_some, List.nil_append, List.cons_append, run_nextOr_bind, run_return,
        Option.map_some, withTail]
    all_goals
      rw [swapVersion_ser_eq]
      simp only [skipNone_some, skipNone_none, List.nil_append, List.cons_append, run_nextOr_bind,
        run_nextOr_bind_nil, run_return, Option.map_some, withTail]

theorem de_ser_iff : MakerReserved.de m.ser = some m ↔
    (m.baseProtocolInfo.isSome ∧ m.relProtocolInfo.isSome) ∨
      (m.relProtocolInfo = none ∧ m.swapVersion.isLegacy = true) := by
  rw [de_ser_cases]
  obtain ⟨base, rel, baseAmount, relAmount, takerUuid, makerUuid, conf, info, relInfo, version⟩ := m
  have hdefault := SwapVersion.isLegacy_iff version
  cases info <;> cases relInfo <;> cases hversion : version.isLegacy <;> simp_all [withTail]

end MakerReserved

/-! ## Whole messages -/

def encodeMessage (it : HashIteration) : OrdermatchMessage → Value
  | .makerOrderCreated m => variant 0 (makerOrderCreated.ser m)
  | .makerOrderUpdated m => variant 1 (makerOrderUpdated.ser m)
  | .pubkeyKeepAlive m => variant 2 ((pubkeyKeepAlive it).ser m)
  | .makerOrderCancelled m => variant 3 (makerOrderCancelled.ser m)
  | .takerRequest m => variant 4 (m.ser it)
  | .makerReserved m => variant 5 m.ser
  | .takerConnect m => variant 6 (takerConnect.ser m)
  | .makerConnected m => variant 7 (makerConnected.ser m)

def decodeMessage (it : HashIteration) : Value → Option OrdermatchMessage
  | .map [(.int 0, v)] => (makerOrderCreated.de v).map .makerOrderCreated
  | .map [(.int 1, v)] => (makerOrderUpdated.de v).map .makerOrderUpdated
  | .map [(.int 2, v)] => ((pubkeyKeepAlive it).de v).map .pubkeyKeepAlive
  | .map [(.int 3, v)] => (makerOrderCancelled.de v).map .makerOrderCancelled
  | .map [(.int 4, v)] => (TakerRequest.de it v).map .takerRequest
  | .map [(.int 5, v)] => (MakerReserved.de v).map .makerReserved
  | .map [(.int 6, v)] => (takerConnect.de v).map .takerConnect
  | .map [(.int 7, v)] => (makerConnected.de v).map .makerConnected
  | _ => none

/-- No field is skipped in front of one that is written. -/
def SkipsAtEnd : OrdermatchMessage → Prop
  | .takerRequest m =>
    m.baseProtocolInfo.isSome ∧ m.relProtocolInfo.isSome ∧ m.swapVersion.isLegacy = false
  | .makerReserved m =>
    (m.baseProtocolInfo.isSome ∧ m.relProtocolInfo.isSome) ∨
      (m.relProtocolInfo = none ∧ m.swapVersion.isLegacy = true)
  | _ => True

/-- A message is decoded to itself exactly when it skips no field in front of a written one. -/
theorem decodeMessage_encodeMessage_iff (it : HashIteration) (m : OrdermatchMessage) :
    decodeMessage it (encodeMessage it m) = some m ↔ SkipsAtEnd m := by
  have hmap {α : Type} {o : Option α} {a : α} {f : α → OrdermatchMessage}
      (hf : Function.Injective f) : o.map f = some (f a) ↔ o = some a := by
    rw [← Option.map_some, (Option.map_injective hf).eq_iff]
  cases m with
  | takerRequest m =>
    change (TakerRequest.de it (m.ser it)).map OrdermatchMessage.takerRequest =
      some (OrdermatchMessage.takerRequest m) ↔ _
    rw [hmap fun _ _ => OrdermatchMessage.takerRequest.inj, TakerRequest.de_ser_iff, SkipsAtEnd]
  | makerReserved m =>
    change (MakerReserved.de m.ser).map OrdermatchMessage.makerReserved =
      some (OrdermatchMessage.makerReserved m) ↔ _
    rw [hmap fun _ _ => OrdermatchMessage.makerReserved.inj, MakerReserved.de_ser_iff, SkipsAtEnd]
  | makerOrderCreated | makerOrderUpdated | pubkeyKeepAlive | makerOrderCancelled | takerConnect
  | makerConnected =>
    simp [encodeMessage, decodeMessage, variant, SkipsAtEnd]

/-- Some iteration order. -/
noncomputable def someIteration : HashIteration where
  uuids := Finset.toList
  uuids_toFinset := Finset.toList_toFinset
  pubkeys := Finset.toList
  pubkeys_toFinset := Finset.toList_toFinset
  roots := toList
  roots_toMap := insertAll_toList

/-! ## The messages the node builds -/

/-- A taker order that passed the builder is broadcast so that it can be decoded exactly when it
does not use the legacy swap. -/
theorem decodeMessage_takerOrder_iff (it : HashIteration) {b : TakerOrderBuilder} {env : BuildEnv}
    {t : TakerOrder} {msg : TakerRequest} (hbuild : b.build env = some (.ok t))
    (hmsg : t.toNewProto = some msg) :
    decodeMessage it (encodeMessage it (.takerRequest msg)) = some (.takerRequest msg) ↔
      b.swapVersion ≠ legacySwapVersion := by
  obtain ⟨minVolume, rfl, -⟩ := TakerOrderBuilder.build_eq_ok hbuild
  obtain ⟨conf, -, rfl⟩ := Option.map_eq_some_iff.mp hmsg
  change (TakerRequest.de it (TakerRequest.ser it _)).map OrdermatchMessage.takerRequest = _ ↔ _
  constructor
  · intro h hlegacy
    rw [TakerRequest.de_ser_of_skipped] at h
    · simp at h
    · rintro ⟨-, -, hversion⟩
      simp [TakerOrder.message, TakerOrderBuilder.assemble, SwapVersion.isLegacy, hlegacy]
        at hversion
  · intro hversion
    rw [TakerRequest.de_ser_of_present it _ rfl rfl]
    · rfl
    · simpa [TakerOrder.message, TakerOrderBuilder.assemble, SwapVersion.isLegacy] using hversion

/-- The reservation made for a request is always decoded to itself. -/
theorem decodeMessage_makerReserved (it : HashIteration) {o o' : MakerOrder}
    {env : MakerOrder.RequestEnv} {fromPubkey : H256} {request : Ordermatch.TakerRequest}
    {reserved : Ordermatch.MakerReserved} {msg : MakerReserved}
    (hanswer : o.processTakerRequest env fromPubkey request = some (o', some reserved))
    (hmsg : reserved.toNewProto = some msg) :
    decodeMessage it (encodeMessage it (.makerReserved msg)) = some (.makerReserved msg) := by
  rcases MakerOrder.processTakerRequest_cases hanswer with ⟨-, hnone⟩ |
    ⟨b, r, baseCoin, relCoin, -, -, -, -, -, hreserved, -⟩
  · simp at hnone
  obtain rfl := Option.some.inj hreserved
  obtain ⟨conf, -, rfl⟩ := Option.map_eq_some_iff.mp hmsg
  change (MakerReserved.de (MakerReserved.ser _)).map OrdermatchMessage.makerReserved = _
  rw [(MakerReserved.de_ser_iff _).mpr (.inl ⟨rfl, rfl⟩)]
  rfl

/-- A request of a node that has not turned the V2 protocol on. -/
def legacyRequest : TakerRequest :=
  ({ testTakerBuilder (testCoin "RICK" .utxoCoin false) (testCoin "MORTY" .utxoCoin false) with
    swapVersion := legacySwapVersion }.assemble testBuildEnv (777 / 100000)).message
      testConfSettings

/-- The version is skipped, and the swap method is read in its place. -/
theorem not_decodeMessage_legacyRequest :
    decodeMessage someIteration (encodeMessage someIteration (.takerRequest legacyRequest)) =
      none := by
  have hskipped : TakerRequest.de someIteration (legacyRequest.ser someIteration) = none :=
    TakerRequest.de_ser_of_skipped _ _ fun h => absurd h.2.2 (by decide)
  change (TakerRequest.de someIteration (legacyRequest.ser someIteration)).map
    OrdermatchMessage.takerRequest = none
  rw [hskipped, Option.map_none]

end DeXFG.Ordermatch.NewProtocol
