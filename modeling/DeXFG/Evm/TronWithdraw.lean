import DeXFG.Evm.Tron

/-!
# Withdrawals of TRX

The fee depends on the length of the transaction, which contains the amount. A withdrawal
of everything looks for an amount that leaves just its own fee.
-/
namespace DeXFG.Evm.Tron
open Library Library.StaticAbi

structure TronWithdrawContext where
  fromAddr : TronAddress
  toAddr : TronAddress
  blockData : TaposBlockData
  resources : TronAccountResources
  prices : TronChainPrices
  feeCoin : String
  expirationSeconds : Option UInt64
  destState : DestAccountState

inductive WithdrawError where
  | internalError (msg : String)
  | notSufficientBalance (coin : String) (available required : ℚ)
  | amountTooLow (amount threshold : ℚ)
  deriving DecidableEq

namespace TronWithdrawContext

variable (ctx : TronWithdrawContext)

def transfer (amountSun : ℤ) : TransactionRaw :=
  buildTrxTransfer ctx.fromAddr ctx.toAddr amountSun ctx.blockData ctx.expirationSeconds

def feeDetails (raw : TransactionRaw) : TronTxFeeDetails :=
  estimateTrxTransferFee (txWithPlaceholderSignature raw) ctx.resources ctx.prices ctx.feeCoin
    ctx.destState

end TronWithdrawContext

def u256ToU64Checked (value : U256) : Except WithdrawError ℕ :=
  if u64Max < value.val then
    .error (.internalError ("value " ++ toString value.val ++ " exceeds u64::MAX"))
  else .ok value.val

/-- `try_into` of an amount. -/
def amountToI64 (amountSun : ℕ) : Except WithdrawError ℤ :=
  if amountSun ≤ i64Max then .ok amountSun
  else .error (.internalError ("amount " ++ toString amountSun ++ " exceeds i64::MAX"))

def toFeeSun (feeDetails : TronTxFeeDetails) : Except WithdrawError ℕ :=
  match u256FromBigDecimal feeDetails.totalFee trxDecimals with
  | .error e => .error (.internalError e)
  | .ok fee => u256ToU64Checked fee

/-- The loop of `build_tron_trx_withdraw`. Every further turn has a smaller amount. -/
def adjustAmount (ctx : TronWithdrawContext) (balanceSun : ℕ) (myBalanceDec : ℚ) (isMax : Bool)
    (amountSun : ℕ) (raw : TransactionRaw) :
    Except WithdrawError (TransactionRaw × TronTxFeeDetails × ℕ) :=
  let feeDetails := ctx.feeDetails raw
  match toFeeSun feeDetails with
  | .error e => .error e
  | .ok feeSun =>
    let affordable := balanceSun - feeSun
    if _ : amountSun ≤ affordable then .ok (raw, feeDetails, amountSun)
    else if !isMax then
      .error (.notSufficientBalance ctx.feeCoin myBalanceDec (sunToTrxDecimal (amountSun + feeSun)))
    else if affordable = 0 then .error (.amountTooLow 0 feeDetails.totalFee)
    else
      match amountToI64 affordable with
      | .error e => .error e
      | .ok amountSunI64 =>
        adjustAmount ctx balanceSun myBalanceDec isMax affordable (ctx.transfer amountSunI64)
termination_by amountSun
decreasing_by omega

def buildTronTrxWithdraw (ctx : TronWithdrawContext) (amountBaseUnits myBalance : U256)
    (myBalanceDec : ℚ) (isMax : Bool) :
    Except WithdrawError (TransactionRaw × TronTxFeeDetails × ℕ) := do
  let balanceSun ← u256ToU64Checked myBalance
  let amountSun ← u256ToU64Checked amountBaseUnits
  let amountSunI64 ← amountToI64 amountSun
  adjustAmount ctx balanceSun myBalanceDec isMax amountSun (ctx.transfer amountSunI64)

/-! ## Fees grow with amounts -/

namespace TronWithdrawContext

variable (ctx : TronWithdrawContext)

def charge (amountSun : ℕ) : BandwidthCharge :=
  bandwidthCharge (estimateBandwidth (txWithPlaceholderSignature (ctx.transfer amountSun)))
    ctx.resources ctx.prices ctx.destState

/-- The fee of the transaction that sends an amount. -/
def feeSun (amountSun : ℕ) : ℕ :=
  saturatingAdd
    (saturatingAdd (ctx.charge amountSun).bandwidthFeeSun (energyFee 0 ctx.resources ctx.prices))
    (ctx.charge amountSun).accountCreationFeeSun

variable {ctx} {m n : ℕ}

theorem totalFee_transfer :
    (ctx.feeDetails (ctx.transfer n)).totalFee = sunToTrxDecimal (ctx.feeSun n) := rfl

theorem feeSun_le (ctx : TronWithdrawContext) : ctx.feeSun n ≤ u64Max := min_le_right _ _

/-- The fee depends on the number of bytes of the amount only. -/
theorem feeSun_mono_length
    (h : (Protobuf.int64 3 m).length ≤ (Protobuf.int64 3 n).length) :
    ctx.feeSun m ≤ ctx.feeSun n := by
  have hbandwidth : estimateBandwidth (txWithPlaceholderSignature (ctx.transfer m)) ≤
      estimateBandwidth (txWithPlaceholderSignature (ctx.transfer n)) :=
    estimateBandwidth_mono rfl (length_transfer_mono h)
  apply saturatingAdd_mono
  · exact saturatingAdd_mono (bandwidthFeeSun_mono hbandwidth) le_rfl
  · exact (accountCreationFeeSun_eq _ _).le

theorem feeSun_mono (ctx : TronWithdrawContext) (h : m ≤ n) (hn : n ≤ i64Max) :
    ctx.feeSun m ≤ ctx.feeSun n := by
  apply feeSun_mono_length
  apply Protobuf.length_int64_mono h
  rw [i64Max] at hn
  omega

/-- An amount costs what the largest one with as many bytes does. -/
theorem exists_feeSun (ctx : TronWithdrawContext) (hn : n ≤ i64Max) :
    ∃ k ≤ 9, n ≤ 128 ^ k - 1 ∧ ctx.feeSun n = ctx.feeSun (128 ^ k - 1) := by
  rw [i64Max] at hn
  obtain ⟨k, hk, hle, hlength⟩ := Protobuf.exists_length_int64 3 (n := n) (by omega)
  exact ⟨k, hk, hle, le_antisymm (feeSun_mono_length hlength.le) (feeSun_mono_length hlength.ge)⟩

/-- The rounding to decimals is undone. -/
theorem toFeeSun_transfer : toFeeSun (ctx.feeDetails (ctx.transfer n)) = .ok (ctx.feeSun n) := by
  have hle : ctx.feeSun n ≤ u64Max := feeSun_le ctx
  have hlt : ctx.feeSun n < 2 ^ 256 := by
    rw [u64Max] at hle
    omega
  have hfloor : ⌊sunToTrxDecimal (ctx.feeSun n) * 10 ^ trxDecimals⌋₊ = ctx.feeSun n := by
    rw [sunToTrxDecimal, div_mul_cancel₀ _ (by positivity), Nat.floor_natCast]
  have hfee : u256FromBigDecimal (sunToTrxDecimal (ctx.feeSun n)) trxDecimals =
      .ok ⟨ctx.feeSun n, hlt⟩ := by
    have hnonneg : ¬ sunToTrxDecimal (ctx.feeSun n) < 0 := by
      rw [sunToTrxDecimal, not_lt]
      positivity
    rw [u256FromBigDecimal, if_neg hnonneg, hfloor, U256.ofNat?, dif_pos hlt]
  rw [toFeeSun, totalFee_transfer, hfee]
  exact if_neg (not_lt.mpr hle)

end TronWithdrawContext

/-! ## Correctness of a withdrawal -/

section Correct

variable (ctx : TronWithdrawContext) (amountBaseUnits myBalance : U256) (myBalanceDec : ℚ)
  (isMax : Bool)

/-- An amount that a transaction can hold and the balance can pay with its fee. -/
def Affordable (amountSun : ℕ) : Prop :=
  amountSun ≤ i64Max ∧ sunToTrxDecimal amountSun +
    (ctx.feeDetails (ctx.transfer amountSun)).totalFee ≤ sunToTrxDecimal myBalance.val

/-- The price of one byte. -/
def dust : ℕ := ctx.prices.bandwidthPriceSun.toNat

/-- A withdrawal sends what was asked for, or all but dust, whenever it can. -/
structure WithdrawsRight : Prop where
  sound : ∀ raw feeDetails amountSun,
    buildTronTrxWithdraw ctx amountBaseUnits myBalance myBalanceDec isMax =
      .ok (raw, feeDetails, amountSun) →
    raw = ctx.transfer amountSun ∧ feeDetails = ctx.feeDetails raw ∧
      Affordable ctx myBalance amountSun ∧ (isMax = false → amountSun = amountBaseUnits.val)
  greatest : isMax = true → ∀ raw feeDetails amountSun,
    buildTronTrxWithdraw ctx amountBaseUnits myBalance myBalanceDec isMax =
      .ok (raw, feeDetails, amountSun) →
    ∀ other, Affordable ctx myBalance other → other ≤ amountSun + dust ctx
  fails_max : isMax = true → ∀ e,
    buildTronTrxWithdraw ctx amountBaseUnits myBalance myBalanceDec isMax = .error e →
    ∀ other, Affordable ctx myBalance other → other = 0
  fails_exact : isMax = false → ∀ e,
    buildTronTrxWithdraw ctx amountBaseUnits myBalance myBalanceDec isMax = .error e →
    ¬ Affordable ctx myBalance amountBaseUnits.val

/-- Taking the fee of `amountSun` off the balance costs no more than dust. -/
def NoJump (amountSun : ℕ) : Prop :=
  ∀ k ≤ 9, 128 ^ k - 1 < amountSun →
    ctx.feeSun amountSun ≤ ctx.feeSun (128 ^ k - 1) + dust ctx ∨
      128 ^ k - 1 + ctx.feeSun amountSun ≤ myBalance.val + dust ctx

/-- What a withdrawal of everything needs. -/
structure PlainMax (amountSun : ℕ) : Prop where
  balance : myBalance.val ≤ u64Max
  tooLarge : i64Max < amountSun → myBalance.val ≤ ctx.feeSun 1
  least : amountSun ≤ i64Max → amountSun + ctx.feeSun amountSun ≤ myBalance.val →
    ¬ Affordable ctx myBalance (amountSun + dust ctx + 1)
  consumed : amountSun ≤ i64Max → 0 < amountSun → myBalance.val ≤ ctx.feeSun amountSun →
    myBalance.val ≤ ctx.feeSun 1
  noJump : amountSun ≤ i64Max → myBalance.val < amountSun + ctx.feeSun amountSun →
    ctx.feeSun amountSun < myBalance.val → NoJump ctx myBalance amountSun

/-- What the outcome of a withdrawal rests on. -/
structure Plain : Prop where
  zero : amountBaseUnits.val = 0 → ctx.feeSun 0 ≤ myBalance.val
  exact : isMax = false → myBalance.val ≤ u64Max ∨ ¬ Affordable ctx myBalance amountBaseUnits.val
  max : isMax = true → PlainMax ctx myBalance amountBaseUnits.val

variable {ctx amountBaseUnits myBalance myBalanceDec isMax} {m n : ℕ}

theorem affordable_iff :
    Affordable ctx myBalance n ↔ n ≤ i64Max ∧ n + ctx.feeSun n ≤ myBalance.val := by
  rw [Affordable, TronWithdrawContext.totalFee_transfer, sunToTrxDecimal, sunToTrxDecimal,
    sunToTrxDecimal, ← add_div, div_le_div_iff_of_pos_right (by positivity)]
  norm_cast

/-- With an amount every smaller one is affordable. -/
theorem Affordable.anti (h : Affordable ctx myBalance n) (hle : m ≤ n) :
    Affordable ctx myBalance m := by
  rw [affordable_iff] at h ⊢
  have hfee := TronWithdrawContext.feeSun_mono ctx hle h.1
  omega

theorem affordable_one_iff :
    Affordable ctx myBalance 1 ↔ ctx.feeSun 1 < myBalance.val := by
  have hone : 1 ≤ i64Max := by
    norm_num [i64Max]
  rw [affordable_iff]
  omega

theorem forall_affordable_eq_zero :
    (∀ other, Affordable ctx myBalance other → other = 0) ↔ myBalance.val ≤ ctx.feeSun 1 := by
  rw [← not_lt, ← affordable_one_iff]
  constructor
  · intro h hone
    exact one_ne_zero (h 1 hone)
  · intro h other hother
    by_contra hne
    exact h (hother.anti (Nat.one_le_iff_ne_zero.mpr hne))

/-! ### The loop -/

theorem adjustAmount_of_le {balanceSun : ℕ} (h : n ≤ balanceSun - ctx.feeSun n) :
    adjustAmount ctx balanceSun myBalanceDec isMax n (ctx.transfer n) =
      .ok (ctx.transfer n, ctx.feeDetails (ctx.transfer n), n) := by
  rw [adjustAmount, TronWithdrawContext.toFeeSun_transfer]
  exact dif_pos h

theorem adjustAmount_exact {balanceSun : ℕ} (h : ¬ n ≤ balanceSun - ctx.feeSun n) :
    ∃ e, adjustAmount ctx balanceSun myBalanceDec false n (ctx.transfer n) = .error e := by
  rw [adjustAmount, TronWithdrawContext.toFeeSun_transfer]
  simp only [dif_neg h]
  exact ⟨_, rfl⟩

theorem adjustAmount_consumed {balanceSun : ℕ} (h : ¬ n ≤ balanceSun - ctx.feeSun n)
    (hfee : balanceSun ≤ ctx.feeSun n) :
    ∃ e, adjustAmount ctx balanceSun myBalanceDec true n (ctx.transfer n) = .error e := by
  have hzero : balanceSun - ctx.feeSun n = 0 := Nat.sub_eq_zero_of_le hfee
  rw [adjustAmount, TronWithdrawContext.toFeeSun_transfer]
  simp only [dif_neg h, if_pos hzero, Bool.not_true, Bool.false_eq_true, if_false]
  exact ⟨_, rfl⟩

/-- The second turn is the last one: the smaller amount costs no more. -/
theorem adjustAmount_again {balanceSun : ℕ} (hn : n ≤ i64Max)
    (h : ¬ n ≤ balanceSun - ctx.feeSun n) (hfee : ctx.feeSun n < balanceSun) :
    adjustAmount ctx balanceSun myBalanceDec true n (ctx.transfer n) =
      .ok (ctx.transfer (balanceSun - ctx.feeSun n : ℕ),
        ctx.feeDetails (ctx.transfer (balanceSun - ctx.feeSun n : ℕ)),
        balanceSun - ctx.feeSun n) := by
  have hle : balanceSun - ctx.feeSun n ≤ n := by omega
  have hmono := TronWithdrawContext.feeSun_mono ctx hle hn
  have hpos : balanceSun - ctx.feeSun n ≠ 0 := by omega
  have hi64 : amountToI64 (balanceSun - ctx.feeSun n) = .ok (balanceSun - ctx.feeSun n : ℕ) :=
    if_pos (hle.trans hn)
  rw [adjustAmount, TronWithdrawContext.toFeeSun_transfer]
  simp only [dif_neg h, if_neg hpos, hi64, Bool.not_true, Bool.false_eq_true, if_false]
  exact adjustAmount_of_le (by omega)

variable (ctx) in
/-- The amount that is sent, if any. -/
def sentAmount (balanceSun amountSun : ℕ) (isMax : Bool) : Option ℕ :=
  if u64Max < balanceSun ∨ i64Max < amountSun then none
  else if amountSun ≤ balanceSun - ctx.feeSun amountSun then some amountSun
  else if isMax ∧ ctx.feeSun amountSun < balanceSun then some (balanceSun - ctx.feeSun amountSun)
  else none

theorem buildTronTrxWithdraw_eq (ctx : TronWithdrawContext) (amountBaseUnits myBalance : U256)
    (myBalanceDec : ℚ) (isMax : Bool) :
    (∀ a, sentAmount ctx myBalance.val amountBaseUnits.val isMax = some a →
      buildTronTrxWithdraw ctx amountBaseUnits myBalance myBalanceDec isMax =
        .ok (ctx.transfer a, ctx.feeDetails (ctx.transfer a), a)) ∧
    (sentAmount ctx myBalance.val amountBaseUnits.val isMax = none →
      ∃ e, buildTronTrxWithdraw ctx amountBaseUnits myBalance myBalanceDec isMax = .error e) := by
  rw [sentAmount, buildTronTrxWithdraw]
  by_cases hbalance : u64Max < myBalance.val
  · have hfail : u256ToU64Checked myBalance = .error _ := if_pos hbalance
    simp [hbalance, hfail, bind, Except.bind]
  · have hbal : u256ToU64Checked myBalance = .ok myBalance.val := if_neg hbalance
    by_cases hamount : i64Max < amountBaseUnits.val
    · rw [if_pos (Or.inr hamount), hbal]
      constructor
      · intro a h
        cases h
      · intro _
        by_cases hu64 : u64Max < amountBaseUnits.val
        · have hfail : u256ToU64Checked amountBaseUnits = .error _ := if_pos hu64
          simp [hfail, bind, Except.bind]
        · have hamt : u256ToU64Checked amountBaseUnits = .ok amountBaseUnits.val := if_neg hu64
          have hfail : amountToI64 amountBaseUnits.val = .error _ := if_neg (not_le.mpr hamount)
          simp [hamt, hfail, bind, Except.bind]
    · have hle : amountBaseUnits.val ≤ i64Max := not_lt.mp hamount
      have hu64 : ¬ u64Max < amountBaseUnits.val := by
        rw [i64Max] at hle
        rw [u64Max]
        omega
      have hamt : u256ToU64Checked amountBaseUnits = .ok amountBaseUnits.val := if_neg hu64
      have hi64 : amountToI64 amountBaseUnits.val = .ok (amountBaseUnits.val : ℤ) := if_pos hle
      rw [if_neg (by tauto), hbal, hamt]
      simp only [bind, Except.bind, hi64]
      by_cases henough : amountBaseUnits.val ≤ myBalance.val - ctx.feeSun amountBaseUnits.val
      · rw [if_pos henough, adjustAmount_of_le henough]
        constructor
        · intro a h
          cases h
          rfl
        · intro h
          cases h
      · rw [if_neg henough]
        cases isMax with
        | false => simpa using adjustAmount_exact henough
        | true =>
          by_cases hfee : ctx.feeSun amountBaseUnits.val < myBalance.val
          · rw [adjustAmount_again hle henough hfee, if_pos ⟨rfl, hfee⟩]
            constructor
            · intro a h
              cases h
              rfl
            · intro h
              cases h
          · simpa [hfee] using adjustAmount_consumed henough (not_lt.mp hfee)

/-- A right withdrawal, by the amount that is sent. -/
theorem withdrawsRight_iff_sentAmount :
    WithdrawsRight ctx amountBaseUnits myBalance myBalanceDec isMax ↔
      (∀ a, sentAmount ctx myBalance.val amountBaseUnits.val isMax = some a →
        Affordable ctx myBalance a ∧ (isMax = false → a = amountBaseUnits.val) ∧
          (isMax = true → ∀ other, Affordable ctx myBalance other → other ≤ a + dust ctx)) ∧
      (sentAmount ctx myBalance.val amountBaseUnits.val isMax = none →
        (isMax = true → myBalance.val ≤ ctx.feeSun 1) ∧
          (isMax = false → ¬ Affordable ctx myBalance amountBaseUnits.val)) := by
  have hrun := buildTronTrxWithdraw_eq ctx amountBaseUnits myBalance myBalanceDec isMax
  constructor
  · intro h
    constructor
    · intro a ha
      have hok := hrun.1 a ha
      obtain ⟨_, _, haffordable, hexact⟩ := h.sound _ _ _ hok
      exact ⟨haffordable, hexact, fun hmax => h.greatest hmax _ _ _ hok⟩
    · intro hnone
      obtain ⟨e, he⟩ := hrun.2 hnone
      exact ⟨fun hmax => forall_affordable_eq_zero.mp (h.fails_max hmax e he),
        fun hexact => h.fails_exact hexact e he⟩
  · intro h
    have hsent : ∀ raw feeDetails amountSun,
        buildTronTrxWithdraw ctx amountBaseUnits myBalance myBalanceDec isMax =
          .ok (raw, feeDetails, amountSun) →
        sentAmount ctx myBalance.val amountBaseUnits.val isMax = some amountSun ∧
          raw = ctx.transfer amountSun ∧ feeDetails = ctx.feeDetails raw := by
      intro raw feeDetails amountSun hok
      cases ha : sentAmount ctx myBalance.val amountBaseUnits.val isMax with
      | none =>
        obtain ⟨e, he⟩ := hrun.2 ha
        rw [hok] at he
        cases he
      | some a =>
        have hok' := hrun.1 a ha
        rw [hok] at hok'
        cases hok'
        exact ⟨rfl, rfl, rfl⟩
    have hnone : ∀ e, buildTronTrxWithdraw ctx amountBaseUnits myBalance myBalanceDec isMax =
        .error e → sentAmount ctx myBalance.val amountBaseUnits.val isMax = none := by
      intro e he
      cases ha : sentAmount ctx myBalance.val amountBaseUnits.val isMax with
      | none => rfl
      | some a =>
        have hok := hrun.1 a ha
        rw [he] at hok
        cases hok
    exact {
      sound := by
        intro raw feeDetails amountSun hok
        obtain ⟨ha, hraw, hdetails⟩ := hsent raw feeDetails amountSun hok
        exact ⟨hraw, hdetails, (h.1 _ ha).1, (h.1 _ ha).2.1⟩
      greatest := by
        intro hmax raw feeDetails amountSun hok
        exact (h.1 _ (hsent raw feeDetails amountSun hok).1).2.2 hmax
      fails_max := by
        intro hmax e he
        exact forall_affordable_eq_zero.mpr ((h.2 (hnone e he)).1 hmax)
      fails_exact := by
        intro hexact e he
        exact (h.2 (hnone e he)).2 hexact }

/-- Past the amount that the first fee leaves, a byte less is all that can be saved. -/
theorem noJump_iff (hn : n ≤ i64Max) (h : myBalance.val < n + ctx.feeSun n)
    (hfee : ctx.feeSun n < myBalance.val) :
    (∀ other, Affordable ctx myBalance other →
      other ≤ myBalance.val - ctx.feeSun n + dust ctx) ↔ NoJump ctx myBalance n := by
  constructor
  · intro hgreatest k hk hlt
    by_contra hjump
    obtain ⟨hcheap, hfar⟩ := not_or.mp hjump
    -- the first amount that is too far off costs no more than the last one of its length
    have hle : myBalance.val - ctx.feeSun n + dust ctx + 1 ≤ 128 ^ k - 1 := by omega
    have hmono := TronWithdrawContext.feeSun_mono ctx hle (by omega)
    have haffordable : Affordable ctx myBalance (myBalance.val - ctx.feeSun n + dust ctx + 1) :=
      affordable_iff.mpr ⟨by omega, by omega⟩
    have := hgreatest _ haffordable
    omega
  · intro hjump other hother
    by_contra hfar
    obtain ⟨hle, hpaid⟩ := affordable_iff.mp hother
    obtain ⟨k, hk, hlast, heq⟩ := TronWithdrawContext.exists_feeSun ctx hle
    have hlt : 128 ^ k - 1 < n := by
      by_contra hge
      have hpow : 128 ^ k ≤ 128 ^ 9 := Nat.pow_le_pow_right (by omega) hk
      have hmono := TronWithdrawContext.feeSun_mono ctx (not_lt.mp hge)
        (by rw [i64Max]; omega)
      omega
    have := hjump k hk hlt
    omega

/-- The amount as requested is sent if it is affordable, or if it is nothing. -/
theorem withdrawsRight_exact :
    WithdrawsRight ctx amountBaseUnits myBalance myBalanceDec false ↔
      Plain ctx amountBaseUnits myBalance false := by
  rw [withdrawsRight_iff_sentAmount]
  have hzero := TronWithdrawContext.feeSun_le ctx (n := 0)
  constructor
  · intro h
    exact {
      zero := by
        intro hamount
        by_contra hfee
        have hsent : sentAmount ctx myBalance.val amountBaseUnits.val false = some 0 := by
          rw [hamount, sentAmount, if_neg (by omega), if_pos (Nat.zero_le _)]
        have := affordable_iff.mp (h.1 0 hsent).1
        omega
      exact := by
        intro _
        by_cases hbalance : myBalance.val ≤ u64Max
        · exact .inl hbalance
        · have hsent : sentAmount ctx myBalance.val amountBaseUnits.val false = none :=
            if_pos (.inl (not_le.mp hbalance))
          exact .inr ((h.2 hsent).2 rfl)
      max := by
        intro hmax
        cases hmax }
  · intro h
    have hamount := h.zero
    have hexact := h.exact rfl
    constructor
    · intro a ha
      rw [sentAmount] at ha
      split_ifs at ha with hlarge henough hmax
      · cases ha
        refine ⟨?_, fun _ => rfl, fun hmax => absurd hmax (by decide)⟩
        rw [affordable_iff]
        by_cases hz : amountBaseUnits.val = 0
        · rw [hz]
          have := hamount hz
          omega
        · omega
      · exact absurd hmax.1 (by decide)
    · intro hnone
      constructor
      · intro hmax
        cases hmax
      · intro _ haffordable
        rw [sentAmount] at hnone
        have hpaid := affordable_iff.mp haffordable
        split_ifs at hnone with hlarge henough hmax
        · have := hexact.resolve_right (not_not_intro haffordable)
          omega
        · omega

/-- All but dust is sent where the fee has no jump. -/
theorem withdrawsRight_max :
    WithdrawsRight ctx amountBaseUnits myBalance myBalanceDec true ↔
      Plain ctx amountBaseUnits myBalance true := by
  rw [withdrawsRight_iff_sentAmount]
  have hone := TronWithdrawContext.feeSun_le ctx (n := 1)
  constructor
  · intro h
    have hbalance : myBalance.val ≤ u64Max := by
      by_contra hlarge
      have hsent : sentAmount ctx myBalance.val amountBaseUnits.val true = none :=
        if_pos (.inl (not_le.mp hlarge))
      have := (h.2 hsent).1 rfl
      omega
    have hmax : PlainMax ctx myBalance amountBaseUnits.val := {
      balance := hbalance
      tooLarge := by
        intro hlarge
        have hsent : sentAmount ctx myBalance.val amountBaseUnits.val true = none :=
          if_pos (.inr hlarge)
        exact (h.2 hsent).1 rfl
      least := by
        intro hi64 hpaid hmore
        have hsent : sentAmount ctx myBalance.val amountBaseUnits.val true =
            some amountBaseUnits.val := by
          rw [sentAmount, if_neg (by omega), if_pos (by omega)]
        have := (h.1 _ hsent).2.2 rfl _ hmore
        omega
      consumed := by
        intro hi64 hpos hfee
        have hsent : sentAmount ctx myBalance.val amountBaseUnits.val true = none := by
          rw [sentAmount, if_neg (by omega), if_neg (by omega), if_neg (by omega)]
        exact (h.2 hsent).1 rfl
      noJump := by
        intro hi64 hshort hfee
        have hsent : sentAmount ctx myBalance.val amountBaseUnits.val true =
            some (myBalance.val - ctx.feeSun amountBaseUnits.val) := by
          rw [sentAmount, if_neg (by omega), if_neg (by omega), if_pos ⟨rfl, hfee⟩]
        exact (noJump_iff hi64 hshort hfee).mp ((h.1 _ hsent).2.2 rfl) }
    exact {
      zero := by
        intro hamount
        by_contra hfee
        have hsent : sentAmount ctx myBalance.val amountBaseUnits.val true = some 0 := by
          rw [hamount, sentAmount, if_neg (by omega), if_pos (Nat.zero_le _)]
        have := affordable_iff.mp (h.1 0 hsent).1
        omega
      exact := by
        intro hexact
        cases hexact
      max := fun _ => hmax }
  · intro h
    have hamount := h.zero
    have hmax := h.max rfl
    have hbalance := hmax.balance
    constructor
    · intro a ha
      rw [sentAmount] at ha
      split_ifs at ha with hlarge henough hfee
      · cases ha
        have hpaid : amountBaseUnits.val + ctx.feeSun amountBaseUnits.val ≤ myBalance.val := by
          by_cases hz : amountBaseUnits.val = 0
          · rw [hz, Nat.zero_add]
            exact hamount hz
          · omega
        refine ⟨affordable_iff.mpr ⟨by omega, hpaid⟩, fun _ => rfl, ?_⟩
        intro _ other hother
        by_contra hfar
        exact hmax.least (by omega) hpaid (hother.anti (by omega))
      · cases ha
        have hmono := TronWithdrawContext.feeSun_mono ctx
          (m := myBalance.val - ctx.feeSun amountBaseUnits.val) (n := amountBaseUnits.val)
          (by omega) (by omega)
        refine ⟨affordable_iff.mpr ⟨by omega, by omega⟩, fun hexact => absurd hexact (by decide),
          ?_⟩
        intro _
        exact (noJump_iff (by omega) (by omega) hfee.2).mpr
          (hmax.noJump (by omega) (by omega) hfee.2)
    · intro hnone
      constructor
      · intro _
        rw [sentAmount] at hnone
        split_ifs at hnone with hlarge henough hfee
        · exact hmax.tooLarge (hlarge.resolve_left (by omega))
        · have hconsumed : myBalance.val ≤ ctx.feeSun amountBaseUnits.val := by
            by_contra hlt
            exact hfee ⟨rfl, by omega⟩
          exact hmax.consumed (by omega) (by omega) hconsumed
      · intro hexact
        cases hexact

end Correct

/-- A withdrawal of TRX is right exactly if the request and the balance fit their types, an
amount of zero pays its fee, and the fee has no jump between the amount that the fee of the
whole request leaves and the greatest affordable one. -/
theorem withdraws_right_iff (ctx : TronWithdrawContext) (amountBaseUnits myBalance : U256)
    (myBalanceDec : ℚ) (isMax : Bool) :
    WithdrawsRight ctx amountBaseUnits myBalance myBalanceDec isMax ↔
      Plain ctx amountBaseUnits myBalance isMax := by
  cases isMax with
  | false => exact withdrawsRight_exact
  | true => exact withdrawsRight_max

/-- A stake that covers the creation of an account with an amount of three bytes, but not of
four. -/
def stakedContext : TronWithdrawContext where
  fromAddr := ⟨List.replicate 21 0x41, by decide⟩
  toAddr := ⟨List.replicate 21 0x41, by decide⟩
  blockData := ⟨64687673, ⟨List.replicate 32 1, by decide⟩, 1770522424709⟩
  resources := ⟨0, 0, 0, 267, 0, 0⟩
  prices := ⟨1000, 420, 1000000, 100000, 1⟩
  feeCoin := "TRX"
  expirationSeconds := none
  destState := .newAccount 1000000 100000 1

/-- Three TRX. -/
def stakedBalance : U256 := ⟨3000000, by norm_num⟩

theorem feeSun_fourBytes : stakedContext.feeSun 3000000 = 1100000 := by decide +kernel

theorem feeSun_threeBytes : stakedContext.feeSun 2000000 = 1000000 := by decide +kernel

/-- The first fee contains the creation of the account; two TRX would not have needed it. -/
theorem max_leaves_creation_fee :
    (∃ raw feeDetails, buildTronTrxWithdraw stakedContext stakedBalance stakedBalance 3 true =
      .ok (raw, feeDetails, 1900000)) ∧
    Affordable stakedContext stakedBalance 2000000 ∧
    ¬ WithdrawsRight stakedContext stakedBalance stakedBalance 3 true := by
  have hsent : sentAmount stakedContext stakedBalance.val stakedBalance.val true =
      some 1900000 := by
    simp [sentAmount, stakedBalance, u64Max, i64Max, feeSun_fourBytes]
  have hok := (buildTronTrxWithdraw_eq stakedContext stakedBalance stakedBalance 3 true).1 _ hsent
  have haffordable : Affordable stakedContext stakedBalance 2000000 := by
    rw [affordable_iff, feeSun_threeBytes]
    simp [stakedBalance, i64Max]
  refine ⟨⟨_, _, hok⟩, haffordable, ?_⟩
  intro h
  have hle := h.greatest rfl _ _ _ hok _ haffordable
  have hdust : dust stakedContext = 1000 := rfl
  omega

end DeXFG.Evm.Tron
