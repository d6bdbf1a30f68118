import DeXFG.Library.Paging
import DeXFG.Ordermatch.Types

/-!
# The listing of own swaps

A table of swaps that is filtered and listed in pages, once by an SQL query and once over a
cursor of a browser's database.
-/
namespace DeXFG.Trading.MySwaps
open Library.Paging
open Ordermatch (Uuid)

/-! ## Tables, filters and pages -/

structure MySwap where
  uuid : Uuid
  myCoin : String
  otherCoin : String
  startedAt : ℕ
  swapType : UInt8
  deriving DecidableEq

/-- Every swap is there once, times fit an `INTEGER`, and the rows fit the memory of a browser. -/
structure MySwapsTable where
  swaps : List MySwap
  nodup_uuids : (swaps.map MySwap.uuid).Nodup
  startedAt_lt : ∀ swap ∈ swaps, swap.startedAt < 2 ^ 63
  length_lt : swaps.length < 2 ^ 32

structure MySwapsFilter where
  myCoin : Option String
  otherCoin : Option String
  fromTimestamp : Option UInt64
  toTimestamp : Option UInt64

/-- The numbers fit a `usize` of either platform. -/
structure PagingOptions where
  limit : ℕ
  pageNumber : ℕ
  fromUuid : Option Uuid
  limit_lt : limit < 2 ^ 32
  pageNumber_pos : 0 < pageNumber
  pageNumber_lt : pageNumber < 2 ^ 32

structure MyRecentSwapsUuids where
  uuidsAndTypes : List (Uuid × UInt8)
  totalCount : ℕ
  skipped : ℕ
  deriving DecidableEq

def MyRecentSwapsUuids.uuids (r : MyRecentSwapsUuids) : List Uuid := r.uuidsAndTypes.map Prod.fst

inductive MySwapsError where
  | invalidTimestampRange
  | fromUuidNotFound (uuid : Uuid)
  | unknownSqlError (e : String)
  deriving DecidableEq

abbrev MySwapsResult := Except MySwapsError MyRecentSwapsUuids

namespace MySwapsFilter

variable (filter : MySwapsFilter) (swap : MySwap)

/-- The coins are as the filter has them. -/
def coins : Bool :=
  filter.myCoin.all (swap.myCoin = ·) && filter.otherCoin.all (swap.otherCoin = ·)

/-! ## The SQL query -/

/-- `apply_my_swaps_filter` -/
def selects : Bool :=
  filter.coins swap && filter.fromTimestamp.all (fun t => t.toNat ≤ swap.startedAt) &&
    filter.toTimestamp.all (fun t => swap.startedAt < t.toNat)

end MySwapsFilter

/-- How a query may order its rows: swaps that started at one time in any order. -/
structure IsRows (table : MySwapsTable) (filter : MySwapsFilter) (rows : List MySwap) : Prop where
  perm : rows.Perm (table.swaps.filter filter.selects)
  sorted : rows.Pairwise fun a b => b.startedAt ≤ a.startedAt

/-- The rows that the numbering and the query itself see. -/
structure Rows (table : MySwapsTable) (filter : MySwapsFilter) where
  numbered : List MySwap
  selected : List MySwap
  isRows_numbered : IsRows table filter numbered
  isRows_selected : IsRows table filter selected

/-- The row number of a swap. -/
def offsetByUuid (numbered : List MySwap) (uuid : Uuid) : Except MySwapsError ℕ :=
  match numbered.findIdx? fun swap => swap.uuid = uuid with
  | some index => .ok (index + 1)
  | none => .error (.unknownSqlError "Query returned no rows")

def uuidsAndTypes (rows : List MySwap) : List (Uuid × UInt8) :=
  rows.map fun swap => (swap.uuid, swap.swapType)

def selectUuidsByMySwapsFilter {table : MySwapsTable} {filter : MySwapsFilter}
    (rows : Rows table filter) (pagingOptions : Option PagingOptions) : MySwapsResult :=
  let totalCount := (table.swaps.filter filter.selects).length
  if totalCount = 0 then .ok { uuidsAndTypes := [], totalCount := 0, skipped := 0 }
  else
    match pagingOptions with
    | none =>
      .ok { uuidsAndTypes := uuidsAndTypes rows.selected, totalCount, skipped := 0 }
    | some paging =>
      let offset : Except MySwapsError ℕ := match paging.fromUuid with
        | some uuid => offsetByUuid rows.numbered uuid
        | none => .ok ((paging.pageNumber - 1) * paging.limit % 2 ^ 64)
      match offset with
      | .error e => .error e
      | .ok offset =>
        -- an offset is a signed number
        if 2 ^ 63 ≤ offset then .error (.unknownSqlError "datatype mismatch")
        else .ok {
          uuidsAndTypes := page (uuidsAndTypes rows.selected) paging.limit offset
          totalCount
          skipped := offset }

/-! ## The cursor -/

/-- A swap identifier is ordered first by `started_at` and then by `uuid`. -/
structure OrderedUuid where
  startedAt : ℕ
  uuid : Uuid
  swapType : UInt8
  deriving DecidableEq

def OrderedUuid.key (ordered : OrderedUuid) : ℕ ×ₗ ℕ ×ₗ ℕ :=
  toLex (ordered.startedAt, toLex (ordered.uuid.val, ordered.swapType.toNat))

/-- The item of a swap has its time as an `u32`. -/
def OrderedUuid.ofItem (swap : MySwap) : OrderedUuid where
  startedAt := swap.startedAt % 2 ^ 32
  uuid := swap.uuid
  swapType := swap.swapType

namespace MySwapsFilter

variable (filter : MySwapsFilter)

def fromTimestamp32 : ℕ := (filter.fromTimestamp.map fun t => t.toNat % 2 ^ 32).getD 0

def toTimestamp32 : ℕ := (filter.toTimestamp.map fun t => t.toNat % 2 ^ 32).getD (2 ^ 32 - 1)

/-- The cursor has its bounds included. -/
def bounds (swap : MySwap) : Bool :=
  filter.coins swap && filter.fromTimestamp32 ≤ swap.startedAt % 2 ^ 32 &&
    swap.startedAt % 2 ^ 32 ≤ filter.toTimestamp32

end MySwapsFilter

/-- The set of the items, in order. -/
def orderedUuids (items : List MySwap) : List OrderedUuid :=
  (items.map OrderedUuid.ofItem).dedup.insertionSort fun a b => a.key ≤ b.key

/-- The number of items up to an uuid and with it. -/
def skipUuid (uuids : List OrderedUuid) (expectedUuid : Uuid) : Except MySwapsError ℕ :=
  match uuids.findIdx? fun ordered => ordered.uuid = expectedUuid with
  | some index => .ok (index + 1)
  | none => .error (.fromUuidNotFound expectedUuid)

def takeAccordingToPagingOpts (uuids : List OrderedUuid) (paging : PagingOptions) :
    MySwapsResult :=
  let totalCount := uuids.length
  let skip : Except MySwapsError ℕ := match paging.fromUuid with
    | some expectedUuid => skipUuid uuids expectedUuid
    | none => .ok ((paging.pageNumber - 1) * paging.limit % 2 ^ 32)
  match skip with
  | .error e => .error e
  | .ok skip =>
    .ok {
      uuidsAndTypes :=
        page (uuids.map fun ordered => (ordered.uuid, ordered.swapType)) paging.limit skip
      totalCount
      skipped := skip }

def myRecentSwapsWithFilters (table : MySwapsTable) (filter : MySwapsFilter)
    (pagingOptions : Option PagingOptions) : MySwapsResult :=
  if filter.toTimestamp32 < filter.fromTimestamp32 then .error .invalidTimestampRange
  else
    let uuids := orderedUuids (table.swaps.filter filter.bounds)
    match pagingOptions with
    | some paging => takeAccordingToPagingOpts uuids paging
    | none =>
      .ok {
        uuidsAndTypes := uuids.map fun ordered => (ordered.uuid, ordered.swapType)
        totalCount := uuids.length
        skipped := 0 }

/-! ## Agreement -/

/-- Both fail, or both list the same. -/
def SameOutcome : MySwapsResult → MySwapsResult → Prop
  | .ok r, .ok r' => r.uuids = r'.uuids ∧ r.totalCount = r'.totalCount ∧ r.skipped = r'.skipped
  | .error _, .error _ => True
  | _, _ => False

/-- Page numbers do not lead past what a `usize` of a browser can hold. -/
def PagingOptions.Fits (paging : PagingOptions) : Prop :=
  paging.fromUuid = none → (paging.pageNumber - 1) * paging.limit < 2 ^ 32

/-- A page after a swap, or the first one. -/
def pageAfter (limit : ℕ) (hlimit : limit < 2 ^ 32) (after : Option Uuid) : PagingOptions where
  limit := limit
  pageNumber := 1
  fromUuid := after
  limit_lt := hlimit
  pageNumber_pos := Nat.one_pos
  pageNumber_lt := by norm_num

/-- A page by its number, counted from zero. -/
def pageNumbered (limit : ℕ) (hlimit : limit < 2 ^ 32) (k : ℕ) (hk : k + 1 < 2 ^ 32) :
    PagingOptions where
  limit := limit
  pageNumber := k + 1
  fromUuid := none
  limit_lt := hlimit
  pageNumber_pos := Nat.succ_pos k
  pageNumber_lt := hk

variable (table : MySwapsTable) (filter : MySwapsFilter)

/-- The uuids of the swaps that match. -/
def matching (selects : MySwap → Bool) : List Uuid := (table.swaps.filter selects).map MySwap.uuid

/-- A walk by its result: it ends, and every swap is there once. -/
def ListsOnce {ε : Type} (walk : Except ε (List Uuid)) (uuids : List Uuid) : Prop :=
  ∃ listed, walk = .ok listed ∧ listed.Perm uuids

/-- The pages that hold so many swaps. -/
def pageCount (totalCount limit : ℕ) : ℕ := (totalCount + limit - 1) / limit

/-- The walk over the pages after the last swap of the one before. -/
def walkByUuid (list : ℕ → Option PagingOptions → MySwapsResult) (limit : ℕ)
    (hlimit : limit < 2 ^ 32) (fuel : ℕ) : Except MySwapsError (List Uuid) :=
  walk (fun i after => (list i (some (pageAfter limit hlimit after))).map
    MyRecentSwapsUuids.uuids) fuel 0 none

/-- The walk over so many pages by their numbers. -/
def walkByNumber (list : ℕ → Option PagingOptions → MySwapsResult) (limit : ℕ)
    (hlimit : limit < 2 ^ 32) (count : ℕ) : Except MySwapsError (List Uuid) :=
  walkPages (fun k =>
    if hk : k + 1 < 2 ^ 32 then
      (list k (some (pageNumbered limit hlimit k hk))).map MyRecentSwapsUuids.uuids
    else .ok []) count

/-- Both walks list every swap once, for every size of a page. -/
def WalksRight (list : ℕ → Option PagingOptions → MySwapsResult) (uuids : List Uuid) : Prop :=
  ∀ limit (hlimit : limit < 2 ^ 32), 0 < limit →
    (∀ fuel, uuids.length < fuel → ListsOnce (walkByUuid list limit hlimit fuel) uuids) ∧
      ListsOnce (walkByNumber list limit hlimit (pageCount uuids.length limit)) uuids

/-- What is asked of the two listings, whatever rows the queries see. -/
structure ListingAgrees : Prop where
  same : ∀ (rows : Rows table filter) (paging : Option PagingOptions),
    (∀ p ∈ paging, p.Fits) →
    SameOutcome (selectUuidsByMySwapsFilter rows paging)
      (myRecentSwapsWithFilters table filter paging)
  native : ∀ rows : ℕ → Rows table filter,
    WalksRight (fun i => selectUuidsByMySwapsFilter (rows i)) (matching table filter.selects)
  browser : WalksRight (fun _ => myRecentSwapsWithFilters table filter)
    (matching table filter.bounds)

/-- The order of the cursor. -/
def key32 (swap : MySwap) : ℕ ×ₗ ℕ ×ₗ ℕ := (OrderedUuid.ofItem swap).key

/-- A swap matches, cutting the times off and including the last one changes nothing, and the
later of two swaps has the smaller key. -/
structure PlainListing : Prop where
  some : ∃ swap ∈ table.swaps, filter.selects swap
  range : filter.fromTimestamp32 ≤ filter.toTimestamp32
  same : ∀ swap ∈ table.swaps, filter.selects swap = filter.bounds swap
  opposite : ∀ a ∈ table.swaps, filter.selects a → ∀ b ∈ table.swaps, filter.selects b →
    a ≠ b → (b.startedAt < a.startedAt ↔ key32 a < key32 b)

variable {table filter}

/-! ## Orders -/

theorem eq_of_uuid {a b : MySwap} (ha : a ∈ table.swaps) (hb : b ∈ table.swaps)
    (h : a.uuid = b.uuid) : a = b :=
  List.inj_on_of_nodup_map table.nodup_uuids ha hb h

theorem eq_of_uuids {rows rows' : List MySwap} (hrows : ∀ swap ∈ rows, swap ∈ table.swaps)
    (hrows' : ∀ swap ∈ rows', swap ∈ table.swaps)
    (h : rows.map MySwap.uuid = rows'.map MySwap.uuid) : rows = rows' := by
  induction rows generalizing rows' with
  | nil => exact (List.map_eq_nil_iff.mp h.symm).symm
  | cons a rows ih =>
    cases rows' with
    | nil => exact absurd h (by simp)
    | cons b rows' =>
      obtain ⟨huuid, htail⟩ := List.cons.inj h
      rw [eq_of_uuid (hrows a List.mem_cons_self) (hrows' b List.mem_cons_self) huuid,
        ih (fun swap hswap => hrows swap (List.mem_cons_of_mem a hswap))
          (fun swap hswap => hrows' swap (List.mem_cons_of_mem b hswap)) htail]

theorem key_injective : Function.Injective OrderedUuid.key := by
  intro a b h
  simp only [OrderedUuid.key, EmbeddingLike.apply_eq_iff_eq, Prod.mk.injEq] at h
  obtain ⟨hstarted, huuid, htype⟩ := h
  cases a
  cases b
  simp only [OrderedUuid.mk.injEq]
  exact ⟨hstarted, Fin.ext huuid, UInt8.toNat_inj.mp htype⟩

theorem eq_of_key32 {a b : MySwap} (ha : a ∈ table.swaps) (hb : b ∈ table.swaps)
    (h : key32 a = key32 b) : a = b :=
  eq_of_uuid ha hb (congrArg OrderedUuid.uuid (key_injective h))

/-- The swaps in the order of the cursor. -/
def browserRows (table : MySwapsTable) (filter : MySwapsFilter) : List MySwap :=
  (table.swaps.filter filter.bounds).insertionSort fun a b => key32 a ≤ key32 b

theorem browserRows_perm : (browserRows table filter).Perm (table.swaps.filter filter.bounds) :=
  List.perm_insertionSort _ _

theorem nodup_filter (selects : MySwap → Bool) : (table.swaps.filter selects).Nodup :=
  (List.Nodup.of_map _ table.nodup_uuids).filter _

theorem orderedUuids_eq :
    orderedUuids (table.swaps.filter filter.bounds) =
      (browserRows table filter).map OrderedUuid.ofItem := by
  have hnodup : ((table.swaps.filter filter.bounds).map OrderedUuid.ofItem).Nodup := by
    apply (nodup_filter filter.bounds).map_on
    intro a ha b hb h
    exact eq_of_uuid (List.mem_of_mem_filter ha) (List.mem_of_mem_filter hb)
      (congrArg OrderedUuid.uuid h)
  rw [orderedUuids, hnodup.dedup, browserRows]
  symm
  apply List.map_insertionSort
  intro a _ b _
  rfl

theorem browserRows_sorted :
    (browserRows table filter).Pairwise fun a b => key32 a ≤ key32 b :=
  List.pairwise_insertionSort _ _

/-- A list of rows is the list of the browser when it has its order. -/
theorem eq_browserRows {rows : List MySwap}
    (hperm : rows.Perm (table.swaps.filter filter.bounds))
    (hsorted : rows.Pairwise fun a b => key32 a ≤ key32 b) : rows = browserRows table filter := by
  apply List.Perm.eq_of_pairwise _ hsorted browserRows_sorted (hperm.trans browserRows_perm.symm)
  intro a b ha hb hab hba
  have ha := List.mem_of_mem_filter (hperm.mem_iff.mp ha)
  have hb := List.mem_of_mem_filter (browserRows_perm.mem_iff.mp hb)
  exact eq_of_key32 ha hb (le_antisymm hab hba)

theorem mem_browserRows {swap : MySwap} :
    swap ∈ browserRows table filter ↔ swap ∈ table.swaps ∧ filter.bounds swap := by
  rw [browserRows_perm.mem_iff, List.mem_filter]

theorem browserRows_nodup : (browserRows table filter).Nodup :=
  browserRows_perm.nodup_iff.mpr (nodup_filter filter.bounds)

theorem browserRows_uuids_nodup : ((browserRows table filter).map MySwap.uuid).Nodup := by
  apply browserRows_nodup.map_on
  intro a ha b hb h
  exact eq_of_uuid (mem_browserRows.mp ha).1 (mem_browserRows.mp hb).1 h

theorem browserRows_length_lt : (browserRows table filter).length < 2 ^ 32 := by
  rw [browserRows_perm.length_eq]
  exact (List.length_filter_le _ _).trans_lt table.length_lt

theorem IsRows.eq_browserRows {rows : List MySwap} (h : IsRows table filter rows)
    (plain : PlainListing table filter) : rows = browserRows table filter := by
  have hfilter : table.swaps.filter filter.selects = table.swaps.filter filter.bounds :=
    List.filter_congr plain.same
  have hnodup : rows.Nodup := h.perm.nodup_iff.mpr (nodup_filter filter.selects)
  apply MySwaps.eq_browserRows (hfilter ▸ h.perm)
  apply (h.sorted.and hnodup).imp_of_mem
  intro a b ha hb hab
  obtain ⟨ha, hselectsA⟩ := List.mem_filter.mp (h.perm.mem_iff.mp ha)
  obtain ⟨hb, hselectsB⟩ := List.mem_filter.mp (h.perm.mem_iff.mp hb)
  have hopposite := plain.opposite b hb hselectsB a ha hselectsA (Ne.symm hab.2)
  apply le_of_not_gt
  intro hlt
  exact absurd (hopposite.mpr hlt) (not_lt.mpr hab.1)

/-! ## The pages of the two -/

/-- Where a page starts in a list of uuids. -/
def offsetOf (uuids : List Uuid) (paging : PagingOptions) : Option ℕ :=
  match paging.fromUuid with
  | some uuid => (uuids.findIdx? (· = uuid)).map (· + 1)
  | none => some ((paging.pageNumber - 1) * paging.limit)

/-- The part of a list of rows that a page has. -/
def listed (rows : List MySwap) (limit offset : ℕ) : MyRecentSwapsUuids where
  uuidsAndTypes := page (uuidsAndTypes rows) limit offset
  totalCount := rows.length
  skipped := offset

theorem listed_uuids (rows : List MySwap) (limit offset : ℕ) :
    (listed rows limit offset).uuids = page (rows.map MySwap.uuid) limit offset := by
  simp [listed, MyRecentSwapsUuids.uuids, page, uuidsAndTypes, List.map_take, List.map_drop,
    Function.comp_def]

/-- An answer that is the page of the rows, or a failure where the page starts nowhere. -/
def IsPageOf (rows : List MySwap) (paging : PagingOptions) (result : MySwapsResult) : Prop :=
  match offsetOf (rows.map MySwap.uuid) paging with
  | some offset => result = .ok (listed rows paging.limit offset)
  | none => ∃ e, result = .error e

theorem offsetOf_le {rows : List MySwap} {paging : PagingOptions} {offset : ℕ}
    (hrows : rows.length < 2 ^ 32) (hfits : paging.Fits)
    (h : offsetOf (rows.map MySwap.uuid) paging = some offset) : offset ≤ 2 ^ 32 := by
  rw [offsetOf] at h
  cases hfrom : paging.fromUuid with
  | none =>
    rw [hfrom] at h
    have := hfits hfrom
    simp only [Option.some.injEq] at h
    omega
  | some uuid =>
    simp only [hfrom, List.findIdx?_map, Option.map_eq_some_iff] at h
    obtain ⟨index, hindex, rfl⟩ := h
    have := (List.findIdx?_eq_some_iff_getElem.mp hindex).1
    omega

theorem skipUuid_map (rows : List MySwap) (uuid : Uuid) :
    skipUuid (rows.map OrderedUuid.ofItem) uuid =
      match (rows.map MySwap.uuid).findIdx? (· = uuid) with
      | some index => .ok (index + 1)
      | none => .error (.fromUuidNotFound uuid) := by
  rw [skipUuid, List.findIdx?_map, List.findIdx?_map]
  rfl

theorem offsetByUuid_map (rows : List MySwap) (uuid : Uuid) :
    offsetByUuid rows uuid =
      match (rows.map MySwap.uuid).findIdx? (· = uuid) with
      | some index => .ok (index + 1)
      | none => .error (.unknownSqlError "Query returned no rows") := by
  rw [offsetByUuid, List.findIdx?_map]
  rfl

theorem browser_isPageOf (hrange : filter.fromTimestamp32 ≤ filter.toTimestamp32)
    {paging : PagingOptions} (hfits : paging.Fits) :
    IsPageOf (browserRows table filter) paging
      (myRecentSwapsWithFilters table filter (some paging)) := by
  rw [myRecentSwapsWithFilters, if_neg (not_lt.mpr hrange), orderedUuids_eq]
  simp only [takeAccordingToPagingOpts, skipUuid_map, IsPageOf, offsetOf]
  cases hfrom : paging.fromUuid with
  | none =>
    simp only [Nat.mod_eq_of_lt (hfits hfrom)]
    simp [listed, uuidsAndTypes, OrderedUuid.ofItem, Function.comp_def]
  | some uuid =>
    cases hindex : ((browserRows table filter).map MySwap.uuid).findIdx? (· = uuid) with
    | none =>
      simp only [hindex]
      exact ⟨_, rfl⟩
    | some index =>
      simp only [hindex]
      simp [listed, uuidsAndTypes, OrderedUuid.ofItem, Function.comp_def]

theorem native_isPageOf (plain : PlainListing table filter) (rows : Rows table filter)
    {paging : PagingOptions} (hfits : paging.Fits) :
    IsPageOf (browserRows table filter) paging
      (selectUuidsByMySwapsFilter rows (some paging)) := by
  have hlength : (table.swaps.filter filter.selects).length = (browserRows table filter).length :=
    rows.isRows_numbered.eq_browserRows plain ▸ rows.isRows_numbered.perm.length_eq.symm
  have hne : (browserRows table filter).length ≠ 0 := by
    obtain ⟨swap, hswap, hselects⟩ := plain.some
    have hmem : swap ∈ table.swaps.filter filter.selects := List.mem_filter.mpr ⟨hswap, hselects⟩
    have := List.length_pos_of_mem hmem
    omega
  rw [selectUuidsByMySwapsFilter, hlength, rows.isRows_numbered.eq_browserRows plain,
    rows.isRows_selected.eq_browserRows plain]
  simp only [if_neg hne, IsPageOf, offsetByUuid_map]
  cases hoffset : offsetOf ((browserRows table filter).map MySwap.uuid) paging with
  | none =>
    rw [offsetOf] at hoffset
    cases hfrom : paging.fromUuid with
    | none => simp [hfrom] at hoffset
    | some uuid =>
      simp only [hfrom, Option.map_eq_none_iff] at hoffset
      simp only [hoffset]
      exact ⟨_, rfl⟩
  | some offset =>
    have hle := offsetOf_le browserRows_length_lt hfits hoffset
    have hsigned : ¬ 2 ^ 63 ≤ offset := by omega
    rw [offsetOf] at hoffset
    cases hfrom : paging.fromUuid with
    | none =>
      simp only [hfrom, Option.some.injEq] at hoffset
      have hmod : offset % 2 ^ 64 = offset := Nat.mod_eq_of_lt (by omega)
      simp only [hoffset, hmod, if_neg hsigned]
      rfl
    | some uuid =>
      simp only [hfrom, Option.map_eq_some_iff] at hoffset
      obtain ⟨index, hindex, rfl⟩ := hoffset
      simp only [hindex, if_neg hsigned]
      rfl

/-! ## Walks -/

theorem findIdx?_getElem {uuids : List Uuid} (hnodup : uuids.Nodup) {k : ℕ}
    (hk : k < uuids.length) : uuids.findIdx? (· = uuids[k]) = some k := by
  rw [List.findIdx?_eq_some_iff_getElem]
  refine ⟨hk, decide_eq_true rfl, fun j hj => ?_⟩
  rw [decide_eq_true_eq, hnodup.getElem_inj_iff]
  omega

theorem offsetOf_pageAfter {uuids : List Uuid} (hnodup : uuids.Nodup) {limit : ℕ}
    (hlimit : limit < 2 ^ 32) {k : ℕ} (hk : k ≤ uuids.length) :
    offsetOf uuids (pageAfter limit hlimit (before uuids k)) = some k := by
  cases k with
  | zero => simp [offsetOf, pageAfter, before]
  | succ k =>
    have hentry : before uuids (k + 1) = some uuids[k] := List.getElem?_eq_getElem hk
    simp only [offsetOf, pageAfter, hentry, findIdx?_getElem hnodup hk, Option.map_some]

theorem lt_of_lt_pageCount {length limit k : ℕ} (hlimit : 0 < limit)
    (hk : k < pageCount length limit) : k * limit < length := by
  have h : (k + 1) * limit ≤ length + limit - 1 := (Nat.le_div_iff_mul_le hlimit).mp hk
  rw [Nat.succ_mul] at h
  omega

theorem le_pageCount_mul {length limit : ℕ} (hlimit : 0 < limit) :
    length ≤ pageCount length limit * limit := by
  have hdiv := Nat.div_add_mod (length + limit - 1) limit
  have hmod := Nat.mod_lt (length + limit - 1) hlimit
  rw [pageCount, Nat.mul_comm]
  omega

variable {rows : List MySwap} {list : ℕ → Option PagingOptions → MySwapsResult}

/-- A page that starts in the rows is a part of their uuids. -/
theorem uuids_of_isPageOf {paging : PagingOptions} {result : MySwapsResult} {offset : ℕ}
    (hpage : IsPageOf rows paging result)
    (hoffset : offsetOf (rows.map MySwap.uuid) paging = some offset) :
    result.map MyRecentSwapsUuids.uuids =
      .ok (page (rows.map MySwap.uuid) paging.limit offset) := by
  simp only [IsPageOf, hoffset] at hpage
  rw [hpage, ← listed_uuids]
  rfl

theorem walkByUuid_eq
    (hlist : ∀ i paging, paging.Fits → IsPageOf rows paging (list i (some paging)))
    (hnodup : (rows.map MySwap.uuid).Nodup) {limit : ℕ} (hlimit : limit < 2 ^ 32)
    (hpos : 0 < limit) {fuel : ℕ} (hfuel : rows.length < fuel) :
    walkByUuid list limit hlimit fuel = .ok (rows.map MySwap.uuid) := by
  apply walk_eq hpos
  · intro i k hk
    apply uuids_of_isPageOf (hlist i _ _) (offsetOf_pageAfter hnodup hlimit hk)
    intro _
    simp [pageAfter]
  · rwa [List.length_map]

theorem walkByNumber_eq
    (hlist : ∀ i paging, paging.Fits → IsPageOf rows paging (list i (some paging)))
    (hlength : rows.length < 2 ^ 32) {limit : ℕ} (hlimit : limit < 2 ^ 32) (hpos : 0 < limit) :
    walkByNumber list limit hlimit (pageCount rows.length limit) =
      .ok (rows.map MySwap.uuid) := by
  have hall : (rows.map MySwap.uuid).take (pageCount rows.length limit * limit) =
      rows.map MySwap.uuid := by
    apply List.take_of_length_le
    rw [List.length_map]
    exact le_pageCount_mul hpos
  rw [← hall]
  apply walkPages_eq
  intro k hk
  have hlt := lt_of_lt_pageCount hpos hk
  have hle : k ≤ k * limit := Nat.le_mul_of_pos_right k hpos
  rw [dif_pos (by omega)]
  apply uuids_of_isPageOf (hlist k _ _)
  · simp [offsetOf, pageNumbered]
  · intro _
    change (k + 1 - 1) * limit < 2 ^ 32
    rw [Nat.add_sub_cancel]
    omega

theorem walksRight_of_pages
    (hlist : ∀ i paging, paging.Fits → IsPageOf rows paging (list i (some paging)))
    (hnodup : (rows.map MySwap.uuid).Nodup) (hlength : rows.length < 2 ^ 32) {uuids : List Uuid}
    (hperm : (rows.map MySwap.uuid).Perm uuids) : WalksRight list uuids := by
  have hsize : uuids.length = rows.length := by rw [← hperm.length_eq, List.length_map]
  intro limit hlimit hpos
  constructor
  · intro fuel hfuel
    exact ⟨_, walkByUuid_eq hlist hnodup hlimit hpos (hsize ▸ hfuel), hperm⟩
  · rw [hsize]
    exact ⟨_, walkByNumber_eq hlist hlength hlimit hpos, hperm⟩

theorem browserRows_uuids :
    ((browserRows table filter).map MySwap.uuid).Perm (matching table filter.bounds) :=
  browserRows_perm.map MySwap.uuid

/-- The browser's walks need only a range. -/
theorem browser_walksRight (hrange : filter.fromTimestamp32 ≤ filter.toTimestamp32) :
    WalksRight (fun _ => myRecentSwapsWithFilters table filter)
      (matching table filter.bounds) :=
  walksRight_of_pages (fun _ _ hfits => browser_isPageOf hrange hfits) browserRows_uuids_nodup
    browserRows_length_lt browserRows_uuids

theorem native_walksRight (plain : PlainListing table filter) (rows : ℕ → Rows table filter) :
    WalksRight (fun i => selectUuidsByMySwapsFilter (rows i))
      (matching table filter.selects) := by
  have hmatching : matching table filter.selects = matching table filter.bounds := by
    rw [matching, matching, List.filter_congr plain.same]
  rw [hmatching]
  exact walksRight_of_pages (fun i _ hfits => native_isPageOf plain (rows i) hfits)
    browserRows_uuids_nodup browserRows_length_lt browserRows_uuids

/-! ## The two answers -/

theorem SameOutcome.of_isPageOf {paging : PagingOptions} {result result' : MySwapsResult}
    (h : IsPageOf rows paging result) (h' : IsPageOf rows paging result') :
    SameOutcome result result' := by
  rw [IsPageOf] at h h'
  cases hoffset : offsetOf (rows.map MySwap.uuid) paging with
  | some offset =>
    simp only [hoffset] at h h'
    rw [h, h']
    exact ⟨rfl, rfl, rfl⟩
  | none =>
    simp only [hoffset] at h h'
    obtain ⟨e, rfl⟩ := h
    obtain ⟨e', rfl⟩ := h'
    trivial

/-- A browser's whole list. -/
theorem browser_none (hrange : filter.fromTimestamp32 ≤ filter.toTimestamp32) :
    myRecentSwapsWithFilters table filter none = .ok {
      uuidsAndTypes := uuidsAndTypes (browserRows table filter)
      totalCount := (browserRows table filter).length
      skipped := 0 } := by
  rw [myRecentSwapsWithFilters, if_neg (not_lt.mpr hrange), orderedUuids_eq]
  simp [uuidsAndTypes, OrderedUuid.ofItem, Function.comp_def]

theorem native_none (hsome : ∃ swap ∈ table.swaps, filter.selects swap)
    (rows : Rows table filter) :
    selectUuidsByMySwapsFilter rows none = .ok {
      uuidsAndTypes := uuidsAndTypes rows.selected
      totalCount := (table.swaps.filter filter.selects).length
      skipped := 0 } := by
  obtain ⟨swap, hswap, hselects⟩ := hsome
  have hmem : swap ∈ table.swaps.filter filter.selects := List.mem_filter.mpr ⟨hswap, hselects⟩
  rw [selectUuidsByMySwapsFilter, if_neg (List.length_pos_of_mem hmem).ne']

theorem listingAgrees_of_plain (plain : PlainListing table filter) :
    ListingAgrees table filter where
  same rows paging hfits := by
    cases paging with
    | none =>
      rw [native_none plain.some, browser_none plain.range,
        rows.isRows_selected.eq_browserRows plain, List.filter_congr plain.same,
        ← browserRows_perm.length_eq]
      exact ⟨rfl, rfl, rfl⟩
    | some paging =>
      have hfits : paging.Fits := hfits paging rfl
      exact .of_isPageOf (native_isPageOf plain rows hfits) (browser_isPageOf plain.range hfits)
  native := native_walksRight plain
  browser := browser_walksRight plain.range

/-- A page number that leads too far skips more on one side. -/
theorem not_same_of_not_fits (plain : PlainListing table filter) {paging : PagingOptions}
    (hfits : ¬ paging.Fits) (rows : Rows table filter) :
    ¬ SameOutcome (selectUuidsByMySwapsFilter rows (some paging))
      (myRecentSwapsWithFilters table filter (some paging)) := by
  rw [PagingOptions.Fits, Classical.not_imp] at hfits
  obtain ⟨hfrom, hproduct⟩ := hfits
  obtain ⟨swap, hswap, hselects⟩ := plain.some
  have hmem : swap ∈ table.swaps.filter filter.selects := List.mem_filter.mpr ⟨hswap, hselects⟩
  have hproductLt : (paging.pageNumber - 1) * paging.limit < 2 ^ 64 := by
    have hnumber : paging.pageNumber - 1 < 2 ^ 32 := by have := paging.pageNumber_lt; omega
    calc (paging.pageNumber - 1) * paging.limit
        < 2 ^ 32 * 2 ^ 32 := Nat.mul_lt_mul'' hnumber paging.limit_lt
      _ = 2 ^ 64 := by norm_num
  rw [selectUuidsByMySwapsFilter, if_neg (List.length_pos_of_mem hmem).ne',
    myRecentSwapsWithFilters, if_neg (not_lt.mpr plain.range)]
  simp only [takeAccordingToPagingOpts, hfrom, Nat.mod_eq_of_lt hproductLt]
  by_cases hsigned : 2 ^ 63 ≤ (paging.pageNumber - 1) * paging.limit
  · rw [if_pos hsigned]
    exact id
  · rw [if_neg hsigned]
    rintro ⟨-, -, hskipped⟩
    change (paging.pageNumber - 1) * paging.limit =
      (paging.pageNumber - 1) * paging.limit % 2 ^ 32 at hskipped
    have := Nat.mod_lt ((paging.pageNumber - 1) * paging.limit) (show 0 < 2 ^ 32 by norm_num)
    omega

/-! ## What agreement asks for -/

/-- Rows that started at one time against the order of the cursor. -/
def againstCursor (table : MySwapsTable) (filter : MySwapsFilter) : List MySwap :=
  (table.swaps.filter filter.selects).insertionSort fun a b =>
    toLex (a.startedAt, key32 a) ≥ toLex (b.startedAt, key32 b)

theorem againstCursor_sorted :
    (againstCursor table filter).Pairwise fun a b =>
      b.startedAt < a.startedAt ∨ b.startedAt = a.startedAt ∧ key32 b ≤ key32 a := by
  have hsorted : (againstCursor table filter).Pairwise fun a b =>
      toLex (a.startedAt, key32 a) ≥ toLex (b.startedAt, key32 b) :=
    List.pairwise_insertionSort _ _
  apply hsorted.imp
  intro a b hab
  exact Prod.Lex.toLex_le_toLex.mp hab

theorem againstCursor_isRows : IsRows table filter (againstCursor table filter) where
  perm := List.perm_insertionSort _ _
  sorted := by
    apply againstCursor_sorted.imp
    omega

/-- One list of rows for both queries. -/
def rowsOf {rows : List MySwap} (h : IsRows table filter rows) : Rows table filter where
  numbered := rows
  selected := rows
  isRows_numbered := h
  isRows_selected := h

namespace ListingAgrees

variable (agrees : ListingAgrees table filter)
include agrees

theorem range : filter.fromTimestamp32 ≤ filter.toTimestamp32 := by
  by_contra hrange
  have h := agrees.same (rowsOf againstCursor_isRows) none (by simp)
  rw [myRecentSwapsWithFilters, if_pos (not_le.mp hrange), selectUuidsByMySwapsFilter] at h
  by_cases hcount : (table.swaps.filter filter.selects).length = 0
  · simp [hcount, SameOutcome] at h
  · simp [hcount, SameOutcome] at h

/-- Where nothing matches, the second page skips nothing on one side. -/
theorem some : ∃ swap ∈ table.swaps, filter.selects swap := by
  by_contra hnone
  have hcount : (table.swaps.filter filter.selects).length = 0 := by
    rw [List.length_eq_zero_iff, List.filter_eq_nil_iff]
    intro swap hswap hselects
    exact hnone ⟨swap, hswap, hselects⟩
  have hfits : (pageNumbered 1 (by norm_num) 1 (by norm_num)).Fits := by
    intro _
    simp [pageNumbered]
  have h := agrees.same (rowsOf againstCursor_isRows)
    (Option.some (pageNumbered 1 (by norm_num) 1 (by norm_num))) (by simpa using hfits)
  have hbrowser : IsPageOf (browserRows table filter) _ _ := browser_isPageOf agrees.range hfits
  rw [selectUuidsByMySwapsFilter, if_pos hcount] at h
  simp only [IsPageOf, offsetOf, pageNumbered] at hbrowser
  rw [pageNumbered, hbrowser] at h
  exact absurd h.2.2 (by simp [listed])

/-- Whatever the rows of a query, they are those of the cursor. -/
theorem rows_eq {rows : List MySwap} (h : IsRows table filter rows) :
    rows = browserRows table filter := by
  have hsame := agrees.same (rowsOf h) none (by simp)
  rw [native_none agrees.some, browser_none agrees.range] at hsame
  have huuids : rows.map MySwap.uuid = (browserRows table filter).map MySwap.uuid := by
    simpa [MyRecentSwapsUuids.uuids, uuidsAndTypes, rowsOf, Function.comp_def] using hsame.1
  have hrows : ∀ swap ∈ rows, swap ∈ table.swaps := fun swap hswap =>
    List.mem_of_mem_filter (h.perm.mem_iff.mp hswap)
  have hbrowser : ∀ swap ∈ browserRows table filter, swap ∈ table.swaps := fun swap hswap =>
    (mem_browserRows.mp hswap).1
  exact eq_of_uuids hrows hbrowser huuids

theorem selects_eq_bounds : ∀ swap ∈ table.swaps, filter.selects swap = filter.bounds swap := by
  intro swap hswap
  have hrows := agrees.rows_eq againstCursor_isRows
  rw [Bool.eq_iff_iff]
  calc filter.selects swap = true
      ↔ swap ∈ againstCursor table filter := by
        rw [againstCursor_isRows.perm.mem_iff, List.mem_filter, and_iff_right hswap]
    _ ↔ swap ∈ browserRows table filter := by rw [hrows]
    _ ↔ filter.bounds swap = true := by rw [mem_browserRows, and_iff_right hswap]

/-- Two rows stand in the order of the cursor and against it, so the first started later. -/
theorem opposite_of_rows :
    (browserRows table filter).Pairwise fun a b =>
      b.startedAt < a.startedAt ∧ key32 a < key32 b := by
  have hrows := agrees.rows_eq againstCursor_isRows
  have hagainst : (againstCursor table filter).Pairwise _ := againstCursor_sorted
  rw [hrows] at hagainst
  apply ((hagainst.and browserRows_sorted).and browserRows_nodup).imp_of_mem
  rintro a b ha hb ⟨⟨hstarted, hkey⟩, hne⟩
  have hlt : key32 a < key32 b := by
    apply lt_of_le_of_ne hkey
    intro heq
    exact hne (eq_of_key32 (mem_browserRows.mp ha).1 (mem_browserRows.mp hb).1 heq)
  cases hstarted with
  | inl hlater => exact ⟨hlater, hlt⟩
  | inr htie => exact absurd htie.2 (not_le.mpr hlt)

theorem plain : PlainListing table filter where
  some := agrees.some
  range := agrees.range
  same := agrees.selects_eq_bounds
  opposite a ha hselectsA b hb hselectsB hne := by
    have hmem : ∀ swap ∈ table.swaps, filter.selects swap → swap ∈ browserRows table filter :=
      fun swap hswap hselects =>
        mem_browserRows.mpr ⟨hswap, agrees.selects_eq_bounds swap hswap ▸ hselects⟩
    let either (a b : MySwap) : Prop :=
      b.startedAt < a.startedAt ∧ key32 a < key32 b ∨
        a.startedAt < b.startedAt ∧ key32 b < key32 a
    have : Std.Symm either := ⟨fun _ _ => Or.symm⟩
    have hpairs : (browserRows table filter).Pairwise either := agrees.opposite_of_rows.imp .inl
    cases hpairs.forall (hmem a ha hselectsA) (hmem b hb hselectsB) hne with
    | inl hfirst => exact iff_of_true hfirst.1 hfirst.2
    | inr hlast => exact iff_of_false hlast.1.not_gt hlast.2.not_gt

end ListingAgrees

/-! ## When the listings agree -/

/-- The two list the same, page by page and in their walks, exactly when some swap matches, the
ends of the range select the same swaps on both sides, and the later of two started swaps has the
smaller key; and then a page number that leads past an `u32` still makes them differ. -/
theorem my_swaps_listing_iff (table : MySwapsTable) (filter : MySwapsFilter) :
    (ListingAgrees table filter ↔ PlainListing table filter) ∧
      (PlainListing table filter → ∀ paging : PagingOptions, ¬ paging.Fits →
        ∀ rows : Rows table filter,
          ¬ SameOutcome (selectUuidsByMySwapsFilter rows (some paging))
            (myRecentSwapsWithFilters table filter (some paging))) :=
  ⟨⟨ListingAgrees.plain, listingAgrees_of_plain⟩,
    fun plain _ hfits rows => not_same_of_not_fits plain hfits rows⟩

/-! ## Two swaps -/

def firstSwap : MySwap where
  uuid := 1
  myCoin := "RICK"
  otherCoin := "MORTY"
  startedAt := 1
  swapType := 0

def secondSwap : MySwap where
  uuid := 2
  myCoin := "RICK"
  otherCoin := "MORTY"
  startedAt := 2
  swapType := 0

def twoSwaps : MySwapsTable where
  swaps := [firstSwap, secondSwap]
  nodup_uuids := by decide
  startedAt_lt := by simp [firstSwap, secondSwap]
  length_lt := by simp

def anySwap : MySwapsFilter where
  myCoin := none
  otherCoin := none
  fromTimestamp := none
  toTimestamp := none

/-- The query has the later swap first and the cursor has it last. -/
theorem later_swap_first : ¬ ListingAgrees twoSwaps anySwap := by
  intro agrees
  have hrows : IsRows twoSwaps anySwap [secondSwap, firstSwap] := by
    constructor
    · exact List.Perm.swap firstSwap secondSwap []
    · simp [firstSwap, secondSwap]
  have hcursor : myRecentSwapsWithFilters twoSwaps anySwap none =
      .ok { uuidsAndTypes := [(1, 0), (2, 0)], totalCount := 2, skipped := 0 } := by decide
  have h := agrees.same (rowsOf hrows) none (by simp)
  rw [hcursor] at h
  have huuids : [secondSwap.uuid, firstSwap.uuid] = [firstSwap.uuid, secondSwap.uuid] := h.1
  exact absurd huuids (by decide)

end DeXFG.Trading.MySwaps
