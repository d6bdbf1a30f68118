import DeXFG.Utxo.Slp

/-!
# Reading back SLP scripts

Where the pushes of the builder are what the reader of serialized data takes, and the one string
that is read back where they are not.
-/
namespace DeXFG.Utxo.Slp
open Library Library.Reading Library.Utf8

variable {s' : Input ChainVariant} {context : ChainVariant} {canonical : Bool}
  {data rest : Bytes}

/-! ## Data after its length -/

/-- Data after the byte that says how much of it there is. -/
def chunk (data : Bytes) : Bytes := UInt8.ofNat data.length :: data

theorem reads_u8 (b : UInt8) : Reads Reader.u8 [b] b :=
  codec_u8.reads b trivial

theorem stream_compactInteger {n : ℕ} (h : n ≤ 0xfc) :
    Stream.compactInteger n = [UInt8.ofNat n] := by
  unfold Stream.compactInteger
  rw [if_pos h]
  rfl

theorem reads_compactInteger {n : ℕ} (h : n ≤ 0xfc) :
    Reads Reader.compactInteger [UInt8.ofNat n] n := by
  have hreads := codec_compactInteger.reads n (by omega)
  rwa [stream_compactInteger h] at hreads

theorem reads_bytes (h : data.length ≤ 0xfc) : Reads Reader.bytes (chunk data) data := by
  have hreads := codec_bytes.reads data (by omega)
  rwa [Stream.bytes, stream_compactInteger h] at hreads

theorem reads_text (h : data.length ≤ 0xfc) : Reads text (chunk data) (decodeLossy data) :=
  (reads_bytes h).map decodeLossy

theorem reads_asBytes (string : String) (h : (asBytes string).length ≤ 0xfc) :
    Reads text (chunk (asBytes string)) string := by
  have hreads := reads_text h
  rwa [asBytes, decodeLossy_encode] at hreads

theorem reads_byteList (data : Bytes) (h : data.length ≤ 0xfc) : Reads byteList (chunk data) data := by
  have hreads := (codec_list codec_u8).reads data ⟨by omega, fun _ _ => trivial⟩
  have hflat : data.flatMap (fun b => [b]) = data := List.flatMap_singleton' data
  rwa [Stream.list, hflat, stream_compactInteger h] at hreads

/-! ## Pushes -/

/-- What the builder appends for some data. -/
def pushBytes (data : Bytes) : Bytes := Builder.pushHeader data.length ++ data

theorem pushBytes_of_short (h : data.length ≤ 75) : pushBytes data = chunk data := by
  have hlt : data.length < Opcode.opPushdata1.toNat := Nat.lt_succ_of_le h
  rw [pushBytes, Builder.pushHeader, if_pos hlt]
  rfl

theorem pushBytes_of_long (h : 76 ≤ data.length) (hlt : data.length < 0x100) :
    pushBytes data = Opcode.opPushdata1 :: chunk data := by
  have hlong : ¬ data.length < Opcode.opPushdata1.toNat := not_lt.mpr h
  rw [pushBytes, Builder.pushHeader, if_neg hlong, if_pos hlt]
  rfl

/-- The opcode of more data is one of two others. -/
theorem pushBytes_of_longer (h : 0x100 ≤ data.length) :
    ∃ opcode length, pushBytes data = opcode :: (length ++ data) ∧
      (opcode = Opcode.opPushdata2 ∨ opcode = Opcode.opPushdata4) := by
  have hlong : ¬ data.length < Opcode.opPushdata1.toNat := by
    have : Opcode.opPushdata1.toNat = 76 := rfl
    omega
  rw [pushBytes, Builder.pushHeader, if_neg hlong, if_neg (by omega)]
  by_cases hlt : data.length < 0x10000
  · rw [if_pos hlt]
    exact ⟨Opcode.opPushdata2, [_, _], rfl, .inl rfl⟩
  · rw [if_neg hlt]
    exact ⟨Opcode.opPushdata4, [_, _, _, _], rfl, .inr rfl⟩

/-! ## What is read after a length of one byte -/

/-- A text whose length is one byte has as many bytes in front. -/
theorem of_text {first : UInt8} (hfirst : first ≤ 0xfc) {string : String}
    (h : text.run ⟨first :: rest, context, canonical⟩ = .ok (string, s')) :
    ∃ raw, raw.length = first.toNat ∧ rest = raw ++ s'.buffer ∧ string = decodeLossy raw := by
  have hle : first.toNat ≤ 0xfc := UInt8.le_iff_toNat_le.mp hfirst
  rw [text, Reader.bytes] at h
  obtain ⟨bytes, s₁, hbytes, hpure⟩ := run_bind_eq_ok.mp h
  rw [run_pure] at hpure
  cases hpure
  obtain ⟨n, s₂, hlength, htake⟩ := run_bind_eq_ok.mp hbytes
  have hcompact : Reads Reader.compactInteger [first] first.toNat := by
    have hreads := reads_compactInteger hle
    rwa [UInt8.ofNat_toNat] at hreads
  obtain ⟨rfl, rfl⟩ := hcompact.eq_of_run hlength
  rw [if_neg (by omega)] at htake
  obtain ⟨hraw, hbuffer⟩ := of_takeBytes htake
  exact ⟨bytes, hraw, hbuffer, rfl⟩

/-- It is no shorter than these bytes and no longer than three times as long. -/
theorem length_of_text {first : UInt8} (hfirst : first ≤ 0xfc) {string : String}
    (h : text.run ⟨first :: rest, context, canonical⟩ = .ok (string, s')) :
    first.toNat ≤ (asBytes string).length ∧ (asBytes string).length ≤ 3 * first.toNat := by
  obtain ⟨raw, hraw, _, rfl⟩ := of_text hfirst h
  rw [← hraw, asBytes, decodeLossy, encode_ofList]
  exact length_lossyChars raw

/-! ## The string that is read from its own front -/

/-- Some characters of one byte each, repeated. -/
theorem length_encodeChars {cs : List Char} (h : ∀ c ∈ cs, c.utf8Size = 1) :
    (encodeChars cs).length = cs.length := by
  induction cs with
  | nil => rfl
  | cons c cs ih =>
    rw [List.forall_mem_cons] at h
    rw [encodeChars_cons, List.length_append, String.length_utf8EncodeChar, h.1, ih h.2,
      List.length_cons, Nat.add_comm]

/-- Characters that are read again from what is in front of them repeat themselves. -/
theorem eq_replicate_of_reads {front cs : List Char} (hfront : ∀ c ∈ front, c.utf8Size = 1)
    {n : ℕ} (hcs : cs = front ++ lossyChars ((encodeChars cs).take (n * front.length))) :
    cs = (List.replicate (n + 1) front).flatten := by
  have hascii : ∀ i, ∀ c ∈ (List.replicate i front).flatten, c.utf8Size = 1 := by
    intro i c hc
    obtain ⟨l, hl, hmem⟩ := List.mem_flatten.mp hc
    rw [List.eq_of_mem_replicate hl] at hmem
    exact hfront c hmem
  have hlength : ∀ i, (encodeChars (List.replicate i front).flatten).length =
      i * front.length := by
    intro i
    rw [length_encodeChars (hascii i), List.length_flatten, List.map_replicate,
      List.sum_replicate, smul_eq_mul]
  -- what is known of the front of the string grows by one repetition
  have hstep : ∀ i ≤ n, ∀ tail, cs = (List.replicate i front).flatten ++ tail →
      cs = (List.replicate (i + 1) front).flatten ++
        lossyChars ((encodeChars tail).take ((n - i) * front.length)) := by
    intro i hi tail htail
    have htake : (encodeChars cs).take (n * front.length) =
        encodeChars (List.replicate i front).flatten ++
          (encodeChars tail).take ((n - i) * front.length) := by
      have hsplit : encodeChars cs =
          encodeChars (List.replicate i front).flatten ++ encodeChars tail := by
        rw [htail, encodeChars_append]
      have hle : i * front.length ≤ n * front.length := Nat.mul_le_mul_right _ hi
      rw [hsplit, List.take_append, hlength, Nat.sub_mul,
        List.take_of_length_le (by rw [hlength]; exact hle)]
    rw [List.replicate_succ, List.flatten_cons, List.append_assoc]
    conv_lhs => rw [hcs, htake, lossyChars_encodeChars]
  have hall : ∀ i ≤ n, ∃ tail, cs = (List.replicate i front).flatten ++ tail := by
    intro i
    induction i with
    | zero => exact fun _ => ⟨cs, rfl⟩
    | succ i ih =>
      intro hi
      obtain ⟨tail, htail⟩ := ih (by omega)
      exact ⟨_, hstep i (by omega) tail htail⟩
  obtain ⟨tail, htail⟩ := hall n le_rfl
  have hlast := hstep n le_rfl tail htail
  rwa [Nat.sub_self, Nat.zero_mul, List.take_zero, lossyChars_nil, List.append_nil] at hlast

/-- The letter with the code of the opcode for long data, as often as this code says. -/
def selfReading : String := String.ofList (List.replicate 76 'L')

theorem length_selfReading : (asBytes selfReading).length = 76 := by
  have hascii : ∀ n, ∀ c ∈ List.replicate n 'L', c.utf8Size = 1 := by
    intro n c hc
    rw [List.eq_of_mem_replicate hc]
    decide
  unfold asBytes selfReading
  generalize hn : 76 = n
  rw [encode_ofList, length_encodeChars (hascii n), List.length_replicate]

/-- One letter is left of it where the others are read. -/
theorem drop_selfReading (k : ℕ) :
    (asBytes selfReading).drop k = List.replicate (76 - k) Opcode.opPushdata1 := by
  have hbytes : ∀ n, encodeChars (List.replicate n 'L') =
      List.replicate n Opcode.opPushdata1 := by
    intro n
    induction n with
    | zero => rfl
    | succ n ih =>
      rw [List.replicate_succ, List.replicate_succ, encodeChars_cons, ih]
      rfl
  unfold asBytes selfReading
  generalize 76 = n
  rw [encode_ofList, hbytes, List.drop_replicate]

/-- What the 76 bytes are that are read in place of a string after some others. -/
theorem of_text_front (front : Bytes) {string : String} (hfront : front.length ≤ 76)
    (hlong : 76 ≤ (asBytes string).length)
    (h : text.run ⟨Opcode.opPushdata1 :: (front ++ (asBytes string ++ rest)), context,
      canonical⟩ = .ok (string, s')) :
    string.toList =
        lossyChars (front ++ (encodeChars string.toList).take (76 - front.length)) ∧
      s'.buffer = (asBytes string).drop (76 - front.length) ++ rest := by
  obtain ⟨raw, hraw, hbuffer, hstring⟩ := of_text (by decide) h
  have hlength : raw.length = 76 := hraw
  have htake : raw = front ++ (asBytes string).take (76 - front.length) := by
    have hleft : raw = (raw ++ s'.buffer).take 76 := by rw [← hlength, List.take_left]
    rw [hleft, ← hbuffer, List.take_append, List.take_append, List.take_of_length_le hfront,
      Nat.sub_eq_zero_of_le (by omega : 76 - front.length ≤ (asBytes string).length),
      List.take_zero, List.append_nil]
  constructor
  · have hcs := congrArg String.toList hstring
    rwa [decodeLossy, String.toList_ofList, htake, asBytes, Utf8.encode_eq] at hcs
  · have hright : s'.buffer = (raw ++ s'.buffer).drop 76 := by rw [← hlength, List.drop_left]
    rw [hright, ← hbuffer, List.drop_append, List.drop_append, List.drop_of_length_le hfront,
      Nat.sub_eq_zero_of_le (by omega : 76 - front.length ≤ (asBytes string).length),
      List.drop_zero, List.nil_append]

/-- Some bytes of a letter each in front and the length of the string itself say it all. -/
theorem eq_selfReading (letters : List Char) {string : String} (k : ℕ)
    (hletters : ∀ c ∈ letters, c = 'L') (hk : 76 = (k + 1) * (letters.length + 1))
    (hlong : 76 ≤ (asBytes string).length) (hshort : (asBytes string).length < 0x100)
    (h : string.toList = letters ++ headChar (UInt8.ofNat (asBytes string).length) ::
      lossyChars ((encodeChars string.toList).take (k * (letters.length + 1)))) :
    string = selfReading := by
  have hsize : ∀ c ∈ letters, c.utf8Size = 1 := by
    intro c hc
    rw [hletters c hc]
    decide
  have hlength : (asBytes string).length ≤ letters.length + 3 + (k * (letters.length + 1) + 6) := by
    have hhead := utf8Size_headChar (UInt8.ofNat (asBytes string).length)
    have htail := length_lossyChars_take string.toList (k * (letters.length + 1))
    have hall := congrArg (fun cs => (encodeChars cs).length) h
    simp only [encodeChars_append, encodeChars_cons, List.length_append,
      String.length_utf8EncodeChar, length_encodeChars hsize] at hall
    rw [← Utf8.encode_eq, ← asBytes] at hall htail
    split at hhead <;> omega
  have hsmall : (asBytes string).length < 128 := by
    rw [Nat.succ_mul] at hk
    omega
  have hfirst : UInt8.ofNat (asBytes string).length < 0x80 := by
    rw [UInt8.lt_iff_toNat_lt, UInt8.toNat_ofNat_of_lt' hshort]
    exact hsmall
  have hfront : ∀ c ∈ letters ++ [headChar (UInt8.ofNat (asBytes string).length)],
      c.utf8Size = 1 := by
    intro c hc
    rcases List.mem_append.mp hc with hc | hc
    · exact hsize c hc
    · rw [List.mem_singleton.mp hc, utf8Size_headChar, if_pos hfirst]
  have hreads : string.toList =
      (letters ++ [headChar (UInt8.ofNat (asBytes string).length)]) ++
        lossyChars ((encodeChars string.toList).take
          (k * (letters ++ [headChar (UInt8.ofNat (asBytes string).length)]).length)) := by
    rw [List.length_append, List.length_singleton, List.append_assoc]
    exact h
  have hcs := eq_replicate_of_reads hfront hreads
  have hcount : (asBytes string).length = 76 := by
    have hall : ∀ c ∈ string.toList, c.utf8Size = 1 := by
      intro c hc
      rw [hcs] at hc
      obtain ⟨l, hl, hmem⟩ := List.mem_flatten.mp hc
      rw [List.eq_of_mem_replicate hl] at hmem
      exact hfront c hmem
    rw [asBytes, Utf8.encode_eq, length_encodeChars hall, hcs, List.length_flatten,
      List.map_replicate, List.sum_replicate, List.length_append, List.length_singleton,
      smul_eq_mul, hk]
  have hletter : headChar (UInt8.ofNat (asBytes string).length) = 'L' := by
    rw [hcount]
    decide
  have hsame : letters ++ [headChar (UInt8.ofNat (asBytes string).length)] =
      List.replicate (letters.length + 1) 'L' := by
    rw [hletter, List.replicate_succ', List.eq_replicate_of_mem hletters, List.length_replicate]
  rw [hsame, List.flatten_replicate_replicate, ← hk] at hcs
  unfold selfReading
  rw [← hcs, String.ofList_toList]

/-- A text is read back from its push, and so is the one that reads itself, if for one byte. -/
theorem of_text_pushBytes {string : String}
    (h : text.run ⟨pushBytes (asBytes string) ++ rest, context, canonical⟩ = .ok (string, s')) :
    ((asBytes string).length ≤ 75 ∧ s' = ⟨rest, context, canonical⟩) ∨
      (string = selfReading ∧ s'.buffer = Opcode.opPushdata1 :: rest) := by
  by_cases hshort : (asBytes string).length ≤ 75
  · left
    rw [pushBytes_of_short hshort] at h
    exact ⟨hshort, ((reads_asBytes _ (by omega)).eq_of_run h).2⟩
  right
  have hlong : 76 ≤ (asBytes string).length := by omega
  by_cases hlt : (asBytes string).length < 0x100
  · rw [pushBytes_of_long hlong hlt, chunk, List.cons_append] at h
    obtain ⟨hcs, hbuffer⟩ := of_text_front
      [UInt8.ofNat (asBytes string).length] (by simp) hlong h
    rw [List.length_singleton] at hcs hbuffer
    rw [List.singleton_append, lossyChars_cons _ (head_encodeChars _ _)] at hcs
    have hself := eq_selfReading [] 75 (by simp) rfl hlong hlt hcs
    refine ⟨hself, ?_⟩
    rw [hbuffer, hself]
    rw [drop_selfReading]
    rfl
  · exfalso
    obtain ⟨opcode, length, hpush, hopcode⟩ := pushBytes_of_longer (not_lt.mp hlt)
    rw [hpush, List.cons_append] at h
    have hfirst : opcode ≤ 0xfc ∧ opcode.toNat ≤ 78 := by
      rcases hopcode with rfl | rfl <;> decide
    have hle := (length_of_text hfirst.1 h).2
    omega

/-- Behind one byte that is left only the string that reads itself is read back. -/
theorem of_text_shifted {string : String}
    (h : text.run ⟨Opcode.opPushdata1 :: (pushBytes (asBytes string) ++ rest), context,
      canonical⟩ = .ok (string, s')) :
    string = selfReading ∧ s'.buffer = Opcode.opPushdata1 :: Opcode.opPushdata1 :: rest := by
  have hlength := length_of_text (by decide) h
  have hlong : 76 ≤ (asBytes string).length := hlength.1
  have hle : (asBytes string).length ≤ 228 := hlength.2
  rw [pushBytes_of_long hlong (by omega), chunk] at h
  obtain ⟨hcs, hbuffer⟩ := of_text_front
    [Opcode.opPushdata1, UInt8.ofNat (asBytes string).length] (by simp) hlong h
  have hl : lossyChars (Opcode.opPushdata1 :: UInt8.ofNat (asBytes string).length ::
      (encodeChars string.toList).take 74) =
      'L' :: lossyChars (UInt8.ofNat (asBytes string).length ::
        (encodeChars string.toList).take 74) :=
    lossyChars_append 'L' _
  simp only [List.length_cons, List.length_nil, List.cons_append, List.nil_append] at hcs hbuffer
  rw [hl, lossyChars_cons _ (head_encodeChars _ _)] at hcs
  have hself := eq_selfReading ['L'] 37 (by simp) rfl hlong (by omega) hcs
  refine ⟨hself, ?_⟩
  rw [hbuffer, hself, drop_selfReading]
  rfl

/-! ## Lengths of more bytes -/

/-- A byte in front of characters that is one itself. -/
theorem of_encodeChars_cons {first : UInt8} (hfirst : first < 0x80) {tail : Bytes}
    {cs : List Char} (h : encodeChars cs = first :: tail) :
    ∃ cs', tail = encodeChars cs' := by
  cases cs with
  | nil => cases h
  | cons c cs =>
    rw [encodeChars_cons] at h
    have hc : c = headChar first := by
      have hleft := decodeChar_append c (encodeChars cs)
      have hright := decodeChar_append (headChar first) tail
      rw [encodeChar_headChar hfirst, List.singleton_append, ← h, hleft] at hright
      exact Option.some.inj hright
    rw [hc, encodeChar_headChar hfirst, List.singleton_append] at h
    exact ⟨cs, (List.cons.inj h).2.symm⟩

theorem of_encodeChars_zeros {k : ℕ} {tail : Bytes} {cs : List Char}
    (h : encodeChars cs = List.replicate k 0 ++ tail) : ∃ cs', tail = encodeChars cs' := by
  induction k generalizing cs with
  | zero => exact ⟨cs, h.symm⟩
  | succ k ih =>
    rw [List.replicate_succ, List.cons_append] at h
    obtain ⟨cs', hcs'⟩ := of_encodeChars_cons (by decide) h
    exact ih hcs'.symm

/-- The bytes of a small number, where they are the first ones of a string. -/
theorem of_encodeChars_small {size n : ℕ} (hsize : 2 ≤ size) (hn : n < 0x100) {tail : Bytes}
    {cs : List Char} (h : encodeChars cs = leBytes size n ++ tail) :
    n < 128 ∧ ∃ cs', tail = encodeChars cs' := by
  obtain ⟨size, rfl⟩ := Nat.exists_eq_add_of_le' hsize
  have hzeros : ∀ k, leBytes k 0 = List.replicate k 0 := by
    intro k
    induction k with
    | zero => rfl
    | succ k ih =>
      rw [leBytes, ih, List.replicate_succ]
      rfl
  have hbytes : leBytes (size + 2) n = UInt8.ofNat n :: List.replicate (size + 1) 0 := by
    rw [leBytes, Nat.div_eq_of_lt hn, hzeros]
  rw [hbytes, List.cons_append] at h
  have hnat : (UInt8.ofNat n).toNat = n := UInt8.toNat_ofNat_of_lt' hn
  have hlow : UInt8.ofNat n < 0x80 := by
    by_contra hhigh
    cases cs with
    | nil => cases h
    | cons c cs =>
      obtain ⟨second, hmem, hsecond⟩ :=
        head_of_encodeChar (UInt8.not_lt.mp hhigh) (h.symm.trans (encodeChars_cons c cs))
      rw [List.replicate_succ, List.cons_append, List.head?_cons, Option.mem_some_iff] at hmem
      rw [← hmem] at hsecond
      exact hsecond (by decide)
  obtain ⟨cs', hcs'⟩ := of_encodeChars_cons hlow h
  constructor
  · rw [UInt8.lt_iff_toNat_lt, hnat] at hlow
    exact hlow
  · exact of_encodeChars_zeros hcs'.symm

/-- A string is not read back where its length would need more bytes than the one it has. -/
theorem not_text_of_flag {string : String} (hlong : 0xfd ≤ (asBytes string).length)
    (hlt : (asBytes string).length < 0x100) :
    text.run ⟨chunk (asBytes string) ++ rest, context, canonical⟩ ≠ .ok (string, s') := by
  intro h
  rw [text, Reader.bytes] at h
  obtain ⟨raw, s₁, hbytes, hpure⟩ := run_bind_eq_ok.mp h
  rw [run_pure] at hpure
  simp only [Except.ok.injEq, Prod.mk.injEq] at hpure
  obtain ⟨hstring, _⟩ := hpure
  obtain ⟨n, s₂, hlength, htake⟩ := run_bind_eq_ok.mp hbytes
  split at htake
  · cases htake
  obtain ⟨hraw, hbuffer⟩ := of_takeBytes htake
  obtain ⟨flag, s₃, hflag, hrest⟩ := run_bind_eq_ok.mp hlength
  obtain ⟨hflag256, hfirst⟩ := of_readLe hflag
  rw [leBytes, leBytes, chunk, List.cons_append, List.cons_append, List.nil_append] at hfirst
  obtain ⟨hhead, htail⟩ := List.cons.inj hfirst
  have hflag : flag = (asBytes string).length := by
    have hnat := congrArg UInt8.toNat hhead
    rw [UInt8.toNat_ofNat_of_lt' hlt, UInt8.toNat_ofNat_of_lt' hflag256] at hnat
    exact hnat.symm
  rw [if_neg (by omega)] at hrest
  -- the number has two bytes, four or eight
  have hsizes : ∃ size, 2 ≤ size ∧ size ≤ 8 ∧
      (if flag = 0xfd then 2 else if flag = 0xfe then 4 else 8) = size := by
    refine ⟨_, ?_, ?_, rfl⟩
    · split
      · exact le_rfl
      · split <;> omega
    · split
      · omega
      · split <;> omega
  obtain ⟨size, htwo, height, hsize⟩ := hsizes
  rw [hsize] at hrest
  obtain ⟨m, s₄, hm, hnote⟩ := run_bind_eq_ok.mp hrest
  obtain ⟨_, s₅, hnoted, hpure⟩ := run_bind_eq_ok.mp hnote
  cases hnoted
  rw [run_pure] at hpure
  cases hpure
  obtain ⟨_, hnumber⟩ := of_readLe hm
  rw [← htail] at hnumber
  change s₄.buffer = _ at hbuffer
  have hdata : asBytes string = encodeChars string.toList := Utf8.encode_eq string
  have hlossy : asBytes string = encodeChars (lossyChars raw) := by
    rw [← hstring, asBytes, decodeLossy, encode_ofList]
  have hsmall : n ≤ (asBytes string).length := by
    rw [hlossy, ← hraw]
    exact (length_lossyChars raw).1
  have hsplit : encodeChars string.toList =
      leBytes size n ++ (asBytes string).drop size := by
    have hleft := congrArg (List.take size) hnumber
    rw [List.take_append_of_le_length (by omega),
      List.take_left' (length_leBytes size n)] at hleft
    rw [← hdata, ← hleft, List.take_append_drop]
  obtain ⟨h128, cs', hcs'⟩ := of_encodeChars_small htwo (by omega) hsplit
  have htaken : raw = (encodeChars cs').take n := by
    have hright := congrArg (List.drop size) hnumber
    rw [List.drop_append_of_le_length (by omega),
      List.drop_left' (length_leBytes size n), hbuffer, hcs'] at hright
    have hlong' : n ≤ (encodeChars cs').length := by
      rw [← hcs', List.length_drop]
      omega
    rw [← List.take_append_of_le_length hlong', hright, ← hraw, List.take_left]
  have hle := length_lossyChars_take cs' n
  rw [← htaken, ← hlossy] at hle
  omega

end DeXFG.Utxo.Slp
