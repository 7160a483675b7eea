import RisPlatform.Common.FixedWidth

/-!
# `uganda-ach.ts`

The generator of Uganda ACH batch files, and the reader that the column positions in its header comment
describe. Strings are sequences of UTF-16 code units, as `slice` and `padEnd` see them.

`padRight` truncates and `padLeftDigits` does not, and nothing is checked: a number that is too long
shifts the columns after it, an account that is too long is cut, and a line break inside a field ends
its line. `FileFits` says for which inputs none of this happens.
-/

namespace Ris.Payments.UgandaAch

open FixedWidth

/-! ## Text -/

/-- A string: its UTF-16 code units. -/
abbrev Text : Type := List UInt16

/-- A property of the units of a text is decided unit by unit. -/
instance (s : Text) (p : UInt16 → Prop) [DecidablePred p] : Decidable (∀ c ∈ s, p c) :=
  List.decidableBAll p s

/-- The code units of an ASCII literal. -/
def units (s : String) : Text := s.toList.map fun c => UInt16.ofNat c.toNat

/-- `' '`. -/
def space : UInt16 := 32

/-- `'-'`. -/
def dash : UInt16 := 45

/-- `'\n'`. -/
def newline : UInt16 := 10

/-- The code unit of a decimal digit. -/
def digitUnit (d : ℕ) : UInt16 := UInt16.ofNat (48 + d)

/-- `String(n)` of a natural number. -/
def natText (n : ℕ) : Text := (decimal n).map digitUnit

/-- `String(n)` of a `bigint`. -/
def bigintText : ℤ → Text
  | .ofNat n => natText n
  | .negSucc n => dash :: natText (n + 1)

/-! ## The generator -/

/-- `HEADER_TYPE`, `DETAIL_TYPE`, `TRAILER_TYPE` and `CURRENCY`. -/
def headerType : Text := units "01"

def detailType : Text := units "02"

def trailerType : Text := units "99"

def currency : Text := units "UGX"

structure AchPaymentRow where
  beneficiaryBankCode : Text
  beneficiaryAccount : Text
  beneficiaryName : Text
  /-- UGX, not tens of cents. -/
  amount : ℤ
  reference : Text

structure AchBatch where
  filename : Text
  content : Text
  batchId : Text
  detailCount : ℕ
  totalAmount : ℤ
  controlHash : Text

/-- What `Date.prototype.toISOString` returns up to the year 9999: `YYYY-MM-DD`, then the time. -/
def IsoTimestamp (iso : Text) : Prop :=
  ∃ year month day time, iso = year ++ dash :: (month ++ dash :: (day ++ time)) ∧ year.length = 4 ∧
    month.length = 2 ∧ day.length = 2 ∧ ∀ c ∈ year ++ month ++ day, c ∈ units "0123456789"

/-- What the generator takes from its process: the environment, the clock, `uuid` and `crypto`. -/
structure Process where
  /-- `process.env.EFT_BANK_CODE`. -/
  eftBankCode : Option Text
  /-- `process.env.EFT_ORIGIN_ACCOUNT`. -/
  eftOriginAccount : Option Text
  /-- `uuidv4()`. -/
  uuid : Text
  /-- The clock, when the header and when the file name read it. -/
  headerTime : Text
  filenameTime : Text
  /-- `crypto.createHash('sha256').update(…, 'utf8').digest('hex')`. -/
  sha256Hex : Text → Text
  uuid_length : uuid.length = 36
  uuid_units : ∀ c ∈ uuid, c ∈ units "0123456789abcdef-"
  headerTime_iso : IsoTimestamp headerTime
  filenameTime_iso : IsoTimestamp filenameTime
  sha256Hex_length : ∀ s, (sha256Hex s).length = 64
  sha256Hex_units : ∀ s, ∀ c ∈ sha256Hex s, c ∈ units "0123456789abcdef"

/-- `slice(0, len).padEnd(len, ' ')`. -/
def padRight (s : Text) (len : ℕ) : Text := padEnd space len (s.take len)

/-- `String(n).padStart(len, '0')`. -/
def padLeftDigits (n : ℤ) (len : ℕ) : Text := padStart (digitUnit 0) len (bigintText n)

/-- `new Date().toISOString().slice(0, 10)` without its dashes. -/
def todayYYYYMMDD (iso : Text) : Text := (iso.take 10).filter (· ≠ dash)

def buildHeader (batchId bankCode originAccount today : Text) (recordCount : ℕ) : Text :=
  [headerType, batchId, padRight bankCode 6, padRight originAccount 14, today, currency,
    padLeftDigits recordCount 6, units "     "].flatten

def buildDetailRow (row : AchPaymentRow) : Text :=
  [detailType, padRight row.beneficiaryBankCode 6, padRight row.beneficiaryAccount 14,
    padRight row.beneficiaryName 35, padLeftDigits (row.amount * 100) 15,
    padRight row.reference 8].flatten

def buildTrailer (detailCount : ℕ) (totalAmount : ℤ) (hash : Text) : Text :=
  [trailerType, padLeftDigits detailCount 6, padLeftDigits (totalAmount * 100) 15, hash].flatten

/-- `process.env.EFT_BANK_CODE ?? '000000'`. -/
def Process.bankCode (o : Process) : Text := o.eftBankCode.getD (units "000000")

/-- `process.env.EFT_ORIGIN_ACCOUNT ?? ''`. -/
def Process.originAccount (o : Process) : Text := o.eftOriginAccount.getD []

/-- `payments.reduce((acc, p) => acc + p.amount, 0n)`. -/
def totalAmount (payments : List AchPaymentRow) : ℤ :=
  payments.foldl (fun acc p => acc + p.amount) 0

/-- Generate a batch file. -/
def generateUgandaAchFile (o : Process) (payments : List AchPaymentRow) : AchBatch :=
  let batchId := o.uuid
  let detailCount := payments.length
  let total := totalAmount payments
  let detailRows := payments.map buildDetailRow
  let controlHash := o.sha256Hex detailRows.flatten
  let header :=
    buildHeader batchId o.bankCode o.originAccount (todayYYYYMMDD o.headerTime) detailCount
  let trailer := buildTrailer detailCount total controlHash
  { filename :=
      units "RIS-EFT-" ++ todayYYYYMMDD o.filenameTime ++ dash :: batchId.take 8 ++ units ".txt"
    content := List.intercalate [newline] (header :: detailRows ++ [trailer]) ++ [newline]
    batchId := batchId
    detailCount := detailCount
    totalAmount := total
    controlHash := controlHash }

/-! ## The reader -/

/-- A line break: LF or CR. -/
def IsBreak (c : UInt16) : Prop := c = newline ∨ c = 13

instance (c : UInt16) : Decidable (IsBreak c) := inferInstanceAs (Decidable (_ ∨ _))

/-- A record: `len` units and no line break. -/
structure IsRecord (len : ℕ) (line : Text) : Prop where
  length : line.length = len
  unbroken : ∀ c ∈ line, ¬IsBreak c

/-- The digit a code unit stands for. -/
def unitDigit (c : UInt16) : Option ℕ :=
  if 48 ≤ c.toNat ∧ c.toNat ≤ 57 then some (c.toNat - 48) else none

/-- The digits of a numeric column. -/
def readDigits : Text → Option (List ℕ)
  | [] => some []
  | c :: s => do
    let d ← unitDigit c
    let ds ← readDigits s
    return d :: ds

/-- A numeric column. -/
def readNumber (s : Text) : Option ℕ := (readDigits s).map value

/-- The three records of a file. -/
structure AchFile where
  header : Text
  details : List Text
  trailer : Text

/-- The lines of a file in order. -/
def AchFile.lines (f : AchFile) : List Text := f.header :: f.details ++ [f.trailer]

/-- Reading a detail line by its documented columns gives the payment's amount (UGX × 100), account and
truncated reference. -/
structure ReadsBack (line : Text) (p : AchPaymentRow) : Prop where
  amount : ∃ n : ℕ, readNumber (columns 58 72 line) = some n ∧ (n : ℤ) = p.amount * 100
  account : strip space (columns 9 22 line) = p.beneficiaryAccount
  reference : strip space (columns 73 80 line) = p.reference.take 8

/-- What the trailer says of the count and the total. -/
structure TrailerReads (line : Text) (count : ℕ) (total : ℤ) : Prop where
  count : readNumber (columns 3 8 line) = some count
  total : ∃ n : ℕ, readNumber (columns 9 23 line) = some n ∧ (n : ℤ) = total * 100

/-- The file is well formed and says what the payments are. -/
structure Faithful (payments : List AchPaymentRow) (f : AchFile) : Prop where
  header : IsRecord 80 f.header
  details : ∀ line ∈ f.details, IsRecord 80 line
  trailer : IsRecord 87 f.trailer
  rows : List.Forall₂ ReadsBack f.details payments
  totals : TrailerReads f.trailer payments.length (totalAmount payments)

/-! ## What fits -/

/-- The payment fits its detail line. -/
structure RowFits (p : AchPaymentRow) : Prop where
  amount_nonneg : 0 ≤ p.amount
  amount_lt : p.amount * 100 < 10 ^ 15
  account_length : p.beneficiaryAccount.length ≤ 14
  account_last : p.beneficiaryAccount.getLast? ≠ some space
  reference_last : (p.reference.take 8).getLast? ≠ some space
  unbroken : ∀ c ∈ p.beneficiaryBankCode.take 6 ++ p.beneficiaryAccount ++ p.beneficiaryName.take 35 ++
    p.reference.take 8, ¬IsBreak c

/-- The payments fit a file. -/
structure FileFits (o : Process) (payments : List AchPaymentRow) : Prop where
  count_lt : payments.length < 10 ^ 6
  total_lt : totalAmount payments * 100 < 10 ^ 15
  unbroken : ∀ c ∈ o.bankCode.take 6 ++ o.originAccount.take 14, ¬IsBreak c
  rows : ∀ p ∈ payments, RowFits p

/-! ## Numbers -/

theorem unitDigit_digitUnit {d : ℕ} (hd : d < 10) : unitDigit (digitUnit d) = some d := by
  have htoNat : (digitUnit d).toNat = 48 + d := by
    rw [digitUnit, UInt16.toNat_ofNat_of_lt']
    simp only [UInt16.size]
    omega
  rw [unitDigit, htoNat, if_pos (by omega)]
  simp

theorem readDigits_map {ds : List ℕ} (h : ∀ d ∈ ds, d < 10) :
    readDigits (ds.map digitUnit) = some ds := by
  induction ds with
  | nil => rfl
  | cons d ds ih =>
    have hd : d < 10 := h d (by simp)
    have ih := ih fun x hx => h x (List.mem_cons_of_mem _ hx)
    simp [readDigits, unitDigit_digitUnit hd, ih]

/-- Zero-padded digits are the digits zero-padded. -/
theorem padLeftDigits_ofNat (n len : ℕ) :
    padLeftDigits n len = (padStart 0 len (decimal n)).map digitUnit := by
  simp [padLeftDigits, bigintText, natText, padStart]

/-- A natural number is read back from its column, whatever its width. -/
theorem readNumber_padLeftDigits (n len : ℕ) : readNumber (padLeftDigits n len) = some n := by
  have hlt : ∀ d ∈ padStart 0 len (decimal n), d < 10 := by
    intro d hd
    rcases List.mem_append.1 hd with hd | hd
    · rw [(List.mem_replicate.1 hd).2]
      omega
    · exact decimal_lt hd
  rw [padLeftDigits_ofNat, readNumber, readDigits_map hlt]
  simp

theorem length_padLeftDigits (n len : ℕ) :
    (padLeftDigits n len).length = max len (decimal n).length := by
  rw [padLeftDigits_ofNat, List.length_map, length_padStart]

/-- A number keeps its column when it has few enough digits. -/
theorem length_padLeftDigits_eq_iff {n len : ℕ} (hlen : 0 < len) :
    (padLeftDigits n len).length = len ↔ n < 10 ^ len := by
  rw [length_padLeftDigits, ← length_decimal_le_iff hlen]
  omega

theorem le_length_padLeftDigits (n : ℤ) (len : ℕ) : len ≤ (padLeftDigits n len).length := by
  rw [padLeftDigits, length_padStart]
  exact le_max_left _ _

/-- A column of its width that reads back as `n` holds `n`, and `n` fits. -/
theorem fits_of_readNumber {n : ℤ} {len : ℕ} (hlen : 0 < len)
    (hlength : (padLeftDigits n len).length = len)
    (hread : ∃ k : ℕ, readNumber (padLeftDigits n len) = some k ∧ (k : ℤ) = n) :
    0 ≤ n ∧ n < 10 ^ len := by
  obtain ⟨k, -, rfl⟩ := hread
  have hk : k < 10 ^ len := (length_padLeftDigits_eq_iff hlen).1 hlength
  exact ⟨Int.natCast_nonneg k, by exact_mod_cast hk⟩

/-- A natural number that fits has a column of its width. -/
theorem length_padLeftDigits_of_fits {n : ℤ} {len : ℕ} (hlen : 0 < len) (hn : 0 ≤ n)
    (hlt : n < 10 ^ len) : (padLeftDigits n len).length = len := by
  obtain ⟨k, rfl⟩ := Int.eq_ofNat_of_zero_le hn
  exact (length_padLeftDigits_eq_iff hlen).2 (by exact_mod_cast hlt)

/-- A natural number is read back. -/
theorem exists_readNumber {n : ℤ} (hn : 0 ≤ n) (len : ℕ) :
    ∃ k : ℕ, readNumber (padLeftDigits n len) = some k ∧ (k : ℤ) = n := by
  obtain ⟨k, rfl⟩ := Int.eq_ofNat_of_zero_le hn
  exact ⟨k, readNumber_padLeftDigits k len, rfl⟩

/-! ## Fields -/

@[simp] theorem length_headerType : headerType.length = 2 := by decide

@[simp] theorem length_detailType : detailType.length = 2 := by decide

@[simp] theorem length_trailerType : trailerType.length = 2 := by decide

@[simp] theorem length_currency : currency.length = 3 := by decide

@[simp] theorem length_padRight (s : Text) (len : ℕ) : (padRight s len).length = len := by
  rw [padRight, length_padEnd, List.length_take]
  omega

@[simp] theorem strip_padRight (s : Text) (len : ℕ) :
    strip space (padRight s len) = strip space (s.take len) := by
  rw [padRight, strip_padEnd]

/-- A truncated field breaks no line when what is left of it does not. -/
theorem unbroken_padRight {s : Text} {len : ℕ} :
    (∀ c ∈ padRight s len, ¬IsBreak c) ↔ ∀ c ∈ s.take len, ¬IsBreak c :=
  forall_mem_padEnd (by decide)

theorem unbroken_of_units {s : Text} {alphabet : String} (h : ∀ c ∈ s, c ∈ units alphabet)
    (halphabet : ∀ c ∈ units alphabet, ¬IsBreak c) : ∀ c ∈ s, ¬IsBreak c :=
  fun c hc => halphabet c (h c hc)

theorem unbroken_digitUnit {d : ℕ} (hd : d < 10) : ¬IsBreak (digitUnit d) := by
  have hall : ∀ d < 10, ¬IsBreak (digitUnit d) := by decide
  exact hall d hd

theorem unbroken_natText (n : ℕ) : ∀ c ∈ natText n, ¬IsBreak c := by
  intro c hc
  obtain ⟨d, hd, rfl⟩ := List.mem_map.1 hc
  exact unbroken_digitUnit (decimal_lt hd)

/-- A number breaks no line. -/
theorem unbroken_padLeftDigits (n : ℤ) (len : ℕ) : ∀ c ∈ padLeftDigits n len, ¬IsBreak c := by
  intro c hc
  rcases List.mem_append.1 hc with hc | hc
  · rw [(List.mem_replicate.1 hc).2]
    decide
  · cases n with
    | ofNat n => exact unbroken_natText n c hc
    | negSucc n =>
      rcases List.mem_cons.1 hc with rfl | hc
      · decide
      · exact unbroken_natText (n + 1) c hc

/-- The date is eight digits. -/
theorem todayYYYYMMDD_of_iso {iso : Text} (h : IsoTimestamp iso) :
    (todayYYYYMMDD iso).length = 8 ∧ ∀ c ∈ todayYYYYMMDD iso, ¬IsBreak c := by
  obtain ⟨year, month, day, time, rfl, hyear, hmonth, hday, hunits⟩ := h
  have hdash : ∀ c ∈ year ++ month ++ day, c ≠ dash := by
    rintro c hc rfl
    exact absurd (hunits dash hc) (by decide)
  have htake : (year ++ dash :: (month ++ dash :: (day ++ time))).take 10 =
      year ++ dash :: (month ++ dash :: day) := by
    have hsplit : year ++ dash :: (month ++ dash :: (day ++ time)) =
        (year ++ dash :: (month ++ dash :: day)) ++ time := by simp
    rw [hsplit, List.take_left' (by simp [hyear, hmonth, hday])]
  have htoday : todayYYYYMMDD (year ++ dash :: (month ++ dash :: (day ++ time))) =
      year ++ month ++ day := by
    have hself : (year ++ month ++ day).filter (· ≠ dash) = year ++ month ++ day :=
      List.filter_eq_self.2 fun c hc => by simpa using hdash c hc
    rw [todayYYYYMMDD, htake, ← hself]
    simp
  rw [htoday]
  refine ⟨by simp [hyear, hmonth, hday], unbroken_of_units hunits (by decide)⟩

/-! ## Detail lines -/

theorem length_buildDetailRow (p : AchPaymentRow) :
    (buildDetailRow p).length = 65 + (padLeftDigits (p.amount * 100) 15).length := by
  simp only [buildDetailRow, List.flatten_cons, List.flatten_nil, List.length_append,
    length_detailType, length_padRight, List.length_nil]
  omega

theorem unbroken_buildDetailRow (p : AchPaymentRow) :
    (∀ c ∈ buildDetailRow p, ¬IsBreak c) ↔
      ∀ c ∈ p.beneficiaryBankCode.take 6 ++ p.beneficiaryAccount.take 14 ++
        p.beneficiaryName.take 35 ++ p.reference.take 8, ¬IsBreak c := by
  have htype : ∀ c ∈ detailType, ¬IsBreak c := by decide
  have hamount := unbroken_padLeftDigits (p.amount * 100) 15
  simp only [buildDetailRow, List.flatten_cons, List.flatten_nil, List.append_nil,
    List.forall_mem_append, unbroken_padRight]
  tauto

theorem columns_account (p : AchPaymentRow) :
    columns 9 22 (buildDetailRow p) = padRight p.beneficiaryAccount 14 := by
  have hsplit : buildDetailRow p = (detailType ++ padRight p.beneficiaryBankCode 6) ++
      (padRight p.beneficiaryAccount 14 ++ (padRight p.beneficiaryName 35 ++
        padLeftDigits (p.amount * 100) 15 ++ padRight p.reference 8)) := by
    simp [buildDetailRow]
  rw [hsplit]
  exact columns_append _ _ _ (by simp) (by simp)

theorem columns_amount {p : AchPaymentRow} (h : (padLeftDigits (p.amount * 100) 15).length = 15) :
    columns 58 72 (buildDetailRow p) = padLeftDigits (p.amount * 100) 15 := by
  have hsplit : buildDetailRow p = (detailType ++ padRight p.beneficiaryBankCode 6 ++
      padRight p.beneficiaryAccount 14 ++ padRight p.beneficiaryName 35) ++
        (padLeftDigits (p.amount * 100) 15 ++ padRight p.reference 8) := by
    simp [buildDetailRow]
  rw [hsplit]
  exact columns_append _ _ _ (by simp) (by simp [h])

theorem columns_reference {p : AchPaymentRow} (h : (padLeftDigits (p.amount * 100) 15).length = 15) :
    columns 73 80 (buildDetailRow p) = padRight p.reference 8 := by
  have hsplit : buildDetailRow p = (detailType ++ padRight p.beneficiaryBankCode 6 ++
      padRight p.beneficiaryAccount 14 ++ padRight p.beneficiaryName 35 ++
        padLeftDigits (p.amount * 100) 15) ++ (padRight p.reference 8 ++ []) := by
    simp [buildDetailRow]
  rw [hsplit]
  exact columns_append _ _ _ (by simp [h]) (by simp [h])

/-- A detail line is a record that reads back exactly when its payment fits. -/
theorem detail_iff (p : AchPaymentRow) :
    IsRecord 80 (buildDetailRow p) ∧ ReadsBack (buildDetailRow p) p ↔ RowFits p := by
  constructor
  · rintro ⟨hrecord, hreads⟩
    have hlength : (padLeftDigits (p.amount * 100) 15).length = 15 := by
      have h := hrecord.length
      rw [length_buildDetailRow] at h
      omega
    have hread := hreads.amount
    rw [columns_amount hlength] at hread
    obtain ⟨hnonneg, hlt⟩ := fits_of_readNumber (by omega) hlength hread
    have haccount := hreads.account
    rw [columns_account, strip_padRight] at haccount
    obtain ⟨haccountLength, haccountLast⟩ := strip_take_eq_self.1 haccount
    have hreference := hreads.reference
    rw [columns_reference hlength, strip_padRight] at hreference
    have hunbroken := (unbroken_buildDetailRow p).1 hrecord.unbroken
    rw [List.take_of_length_le haccountLength] at hunbroken
    exact ⟨by omega, hlt, haccountLength, haccountLast, strip_eq_self.1 hreference, hunbroken⟩
  · intro h
    have hnonneg : 0 ≤ p.amount * 100 := by
      have := h.amount_nonneg
      omega
    have hlength := length_padLeftDigits_of_fits (by omega) hnonneg h.amount_lt
    have htake := List.take_of_length_le h.account_length
    refine ⟨⟨?_, ?_⟩, ⟨?_, ?_, ?_⟩⟩
    · rw [length_buildDetailRow, hlength]
    · rw [unbroken_buildDetailRow, htake]
      exact h.unbroken
    · rw [columns_amount hlength]
      exact exists_readNumber hnonneg 15
    · rw [columns_account, strip_padRight, strip_take_eq_self]
      exact ⟨h.account_length, h.account_last⟩
    · rw [columns_reference hlength, strip_padRight, strip_eq_self]
      exact h.reference_last

/-! ## Header and trailer -/

/-- The header is a record exactly when the count has at most six digits and the configured bank code
and account break no line. -/
theorem header_iff (o : Process) (count : ℕ) :
    IsRecord 80 (buildHeader o.uuid o.bankCode o.originAccount (todayYYYYMMDD o.headerTime) count) ↔
      count < 10 ^ 6 ∧ ∀ c ∈ o.bankCode.take 6 ++ o.originAccount.take 14, ¬IsBreak c := by
  obtain ⟨htoday, htodayUnits⟩ := todayYYYYMMDD_of_iso o.headerTime_iso
  have hreserved : (units "     ").length = 5 := by decide
  have hlength : (buildHeader o.uuid o.bankCode o.originAccount (todayYYYYMMDD o.headerTime)
      count).length = 74 + (padLeftDigits count 6).length := by
    simp only [buildHeader, List.flatten_cons, List.flatten_nil, List.length_append, length_headerType,
      length_currency, length_padRight, htoday, o.uuid_length, hreserved, List.length_nil]
    omega
  have hunbroken : (∀ c ∈ buildHeader o.uuid o.bankCode o.originAccount
      (todayYYYYMMDD o.headerTime) count, ¬IsBreak c) ↔
      ∀ c ∈ o.bankCode.take 6 ++ o.originAccount.take 14, ¬IsBreak c := by
    have htype : ∀ c ∈ headerType, ¬IsBreak c := by decide
    have huuid := unbroken_of_units o.uuid_units (by decide)
    have hcurrency : ∀ c ∈ currency, ¬IsBreak c := by decide
    have hcount := unbroken_padLeftDigits count 6
    have hspaces : ∀ c ∈ units "     ", ¬IsBreak c := by decide
    simp only [buildHeader, List.flatten_cons, List.flatten_nil, List.append_nil,
      List.forall_mem_append, unbroken_padRight]
    tauto
  rw [← length_padLeftDigits_eq_iff (by omega), ← hunbroken]
  constructor
  · rintro ⟨hlen, hbreak⟩
    exact ⟨by omega, hbreak⟩
  · rintro ⟨hlen, hbreak⟩
    exact ⟨by omega, hbreak⟩

theorem columns_count {count : ℕ} (total : ℤ) (hash : Text)
    (h : (padLeftDigits count 6).length = 6) :
    columns 3 8 (buildTrailer count total hash) = padLeftDigits count 6 := by
  have hsplit : buildTrailer count total hash =
      trailerType ++ (padLeftDigits count 6 ++ (padLeftDigits (total * 100) 15 ++ hash)) := by
    simp [buildTrailer]
  rw [hsplit]
  exact columns_append _ _ _ (by simp) (by simp [h])

theorem columns_total {count : ℕ} {total : ℤ} (hash : Text) (h : (padLeftDigits count 6).length = 6)
    (h' : (padLeftDigits (total * 100) 15).length = 15) :
    columns 9 23 (buildTrailer count total hash) = padLeftDigits (total * 100) 15 := by
  have hsplit : buildTrailer count total hash =
      (trailerType ++ padLeftDigits count 6) ++ (padLeftDigits (total * 100) 15 ++ hash) := by
    simp [buildTrailer]
  rw [hsplit]
  exact columns_append _ _ _ (by simp [h]) (by simp [h, h'])

/-- The trailer is a record that reads back exactly when count and total fit. -/
theorem trailer_iff (count : ℕ) (total : ℤ) {hash : Text} (hhash : hash.length = 64)
    (hunits : ∀ c ∈ hash, ¬IsBreak c) :
    IsRecord 87 (buildTrailer count total hash) ∧
        TrailerReads (buildTrailer count total hash) count total ↔
      count < 10 ^ 6 ∧ 0 ≤ total ∧ total * 100 < 10 ^ 15 := by
  have hlength : (buildTrailer count total hash).length =
      66 + (padLeftDigits count 6).length + (padLeftDigits (total * 100) 15).length := by
    simp only [buildTrailer, List.flatten_cons, List.flatten_nil, List.length_append,
      length_trailerType, hhash, List.length_nil]
    omega
  have hunbroken : ∀ c ∈ buildTrailer count total hash, ¬IsBreak c := by
    have htype : ∀ c ∈ trailerType, ¬IsBreak c := by decide
    have hcount := unbroken_padLeftDigits count 6
    have htotal := unbroken_padLeftDigits (total * 100) 15
    simp only [buildTrailer, List.flatten_cons, List.flatten_nil, List.append_nil,
      List.forall_mem_append]
    tauto
  constructor
  · rintro ⟨hrecord, hreads⟩
    have hlen := hrecord.length
    rw [hlength] at hlen
    have hcount := le_length_padLeftDigits count 6
    have htotal := le_length_padLeftDigits (total * 100) 15
    have hcountLength : (padLeftDigits count 6).length = 6 := by omega
    have htotalLength : (padLeftDigits (total * 100) 15).length = 15 := by omega
    have hread := hreads.total
    rw [columns_total hash hcountLength htotalLength] at hread
    obtain ⟨hnonneg, hlt⟩ := fits_of_readNumber (by omega) htotalLength hread
    exact ⟨(length_padLeftDigits_eq_iff (by omega)).1 hcountLength, by omega, hlt⟩
  · rintro ⟨hcount, hnonneg, hlt⟩
    have hcountLength := (length_padLeftDigits_eq_iff (by omega)).2 hcount
    have htotalLength := length_padLeftDigits_of_fits (by omega) (by omega) hlt
    refine ⟨⟨by omega, hunbroken⟩, ?_, ?_⟩
    · rw [columns_count total hash hcountLength, readNumber_padLeftDigits]
    · rw [columns_total hash hcountLength htotalLength]
      exact exists_readNumber (by omega) 15

/-! ## The file -/

/-- The records that the generator writes. -/
def generatedFile (o : Process) (payments : List AchPaymentRow) : AchFile where
  header :=
    buildHeader o.uuid o.bankCode o.originAccount (todayYYYYMMDD o.headerTime) payments.length
  details := payments.map buildDetailRow
  trailer := buildTrailer payments.length (totalAmount payments)
    (o.sha256Hex (payments.map buildDetailRow).flatten)

theorem content_generateUgandaAchFile (o : Process) (payments : List AchPaymentRow) :
    (generateUgandaAchFile o payments).content = unlines newline (generatedFile o payments).lines :=
  intercalate_concat newline (by simp)

theorem totalAmount_nonneg {payments : List AchPaymentRow} (h : ∀ p ∈ payments, 0 ≤ p.amount) :
    0 ≤ totalAmount payments := by
  have hfold : ∀ acc : ℤ, 0 ≤ acc → 0 ≤ payments.foldl (fun acc p => acc + p.amount) acc := by
    induction payments with
    | nil => exact fun acc hacc => hacc
    | cons p rest ih =>
      intro acc hacc
      have hp := h p (by simp)
      exact ih (fun q hq => h q (List.mem_cons_of_mem _ hq)) (acc + p.amount) (by omega)
  exact hfold 0 le_rfl

/-- The records of the generator are faithful exactly when the payments fit. -/
theorem faithful_generatedFile_iff (o : Process) (payments : List AchPaymentRow) :
    Faithful payments (generatedFile o payments) ↔ FileFits o payments := by
  have hash := unbroken_of_units (o.sha256Hex_units (payments.map buildDetailRow).flatten) (by decide)
  have htrailer := trailer_iff payments.length (totalAmount payments) (o.sha256Hex_length _) hash
  have hheader := header_iff o payments.length
  constructor
  · rintro ⟨hhead, hdetails, htrail, hrows, htotals⟩
    obtain ⟨hcount, -, htotal⟩ := htrailer.1 ⟨htrail, htotals⟩
    refine ⟨hcount, htotal, (hheader.1 hhead).2, fun p hp => (detail_iff p).1 ⟨?_, ?_⟩⟩
    · exact hdetails _ (List.mem_map.2 ⟨p, hp, rfl⟩)
    · exact List.forall₂_same.1 (List.forall₂_map_left_iff.1 hrows) p hp
  · rintro ⟨hcount, htotal, hunbroken, hrows⟩
    have hnonneg := totalAmount_nonneg fun p hp => (hrows p hp).amount_nonneg
    obtain ⟨htrail, htotals⟩ := htrailer.2 ⟨hcount, hnonneg, htotal⟩
    refine ⟨hheader.2 ⟨hcount, hunbroken⟩, ?_, htrail, ?_, htotals⟩
    · intro line hline
      obtain ⟨p, hp, rfl⟩ := List.mem_map.1 hline
      exact ((detail_iff p).2 (hrows p hp)).1
    · refine List.forall₂_map_left_iff.2 (List.forall₂_same.2 fun p hp => ?_)
      exact ((detail_iff p).2 (hrows p hp)).2

/-- The lines of a faithful file hold no newline. -/
theorem Faithful.newline_not_mem {payments : List AchPaymentRow} {f : AchFile}
    (h : Faithful payments f) : ∀ line ∈ f.lines, newline ∉ line := by
  intro line hline hmem
  rw [AchFile.lines, List.mem_append, List.mem_cons, List.mem_singleton] at hline
  rcases hline with (rfl | hline) | rfl
  · exact h.header.unbroken newline hmem (Or.inl rfl)
  · exact (h.details line hline).unbroken newline hmem (Or.inl rfl)
  · exact h.trailer.unbroken newline hmem (Or.inl rfl)

theorem AchFile.lines_injective {f g : AchFile} (h : f.lines = g.lines) : f = g := by
  obtain ⟨fh, fd, ft⟩ := f
  obtain ⟨gh, gd, gt⟩ := g
  simp only [AchFile.lines, List.cons_append, List.cons.injEq] at h
  obtain ⟨rfl, h⟩ := h
  obtain ⟨rfl, ht⟩ := List.append_inj' h rfl
  rw [List.cons.injEq] at ht
  rw [ht.1]

/-- The only faithful reading of a generated content are the generator's own records. -/
theorem Faithful.eq_generatedFile {o : Process} {payments : List AchPaymentRow} {f : AchFile}
    (h : Faithful payments f)
    (hcontent : (generateUgandaAchFile o payments).content = unlines newline f.lines) :
    f = generatedFile o payments := by
  rw [content_generateUgandaAchFile] at hcontent
  have hlength : f.lines.length = payments.length + 2 := by
    simp [AchFile.lines, h.rows.length_eq]
  -- as many newlines as lines: the generator's lines hold none
  have hcount : (unlines newline f.lines).count newline = payments.length + 2 := by
    have hnone : (f.lines.map (List.count newline)).sum = 0 := by
      rw [List.sum_eq_zero_iff_forall_eq_nat]
      intro n hn
      obtain ⟨line, hline, rfl⟩ := List.mem_map.1 hn
      exact List.count_eq_zero.2 (h.newline_not_mem line hline)
    rw [count_unlines, hlength, hnone]
  have hgenerated := not_mem_of_count (hcontent ▸ hcount) (by simp [AchFile.lines, generatedFile])
  exact AchFile.lines_injective (unlines_injective h.newline_not_mem hgenerated hcontent.symm)

theorem fileFits_of_faithful {o : Process} {payments : List AchPaymentRow}
    (h : ∃ f : AchFile, (generateUgandaAchFile o payments).content = unlines newline f.lines ∧
      Faithful payments f) : FileFits o payments := by
  obtain ⟨f, hcontent, hfaithful⟩ := h
  rw [hfaithful.eq_generatedFile hcontent] at hfaithful
  exact (faithful_generatedFile_iff o payments).1 hfaithful

/-- **The Uganda ACH file.** The content that the generator returns consists of records of fixed length
that read back as the payments exactly when the payments fit; the generator refuses nothing. -/
theorem ach_file_faithful_iff (o : Process) (payments : List AchPaymentRow) :
    (∃ f : AchFile, (generateUgandaAchFile o payments).content = unlines newline f.lines ∧
      Faithful payments f) ↔ FileFits o payments := by
  constructor
  · exact fileFits_of_faithful
  · intro h
    exact ⟨generatedFile o payments, content_generateUgandaAchFile o payments,
      (faithful_generatedFile_iff o payments).2 h⟩

/-- A payment of the given amount. -/
def examplePayment (amount : ℤ) : AchPaymentRow where
  beneficiaryBankCode := units "031000"
  beneficiaryAccount := units "0123456789"
  beneficiaryName := units "ACME LTD"
  amount := amount
  reference := units "INV-0001"

/-- A process in which the hash of the file's detail rows is `hash`. -/
def exampleProcess (hash : Text) (hlength : hash.length = 64)
    (hunits : ∀ c ∈ hash, c ∈ units "0123456789abcdef") : Process where
  eftBankCode := some (units "031000")
  eftOriginAccount := some (units "9876543210")
  uuid := units "3f0c2a8e-7b1d-4c5e-9a6f-0d1e2f3a4b5c"
  headerTime := units "2026-03-02T08:15:30.000Z"
  filenameTime := units "2026-03-02T08:15:30.000Z"
  sha256Hex := fun _ => hash
  uuid_length := by decide
  uuid_units := by decide
  headerTime_iso := ⟨units "2026", units "03", units "02", units "T08:15:30.000Z", by decide⟩
  filenameTime_iso := ⟨units "2026", units "03", units "02", units "T08:15:30.000Z", by decide⟩
  sha256Hex_length := fun _ => hlength
  sha256Hex_units := fun _ => hunits

/-- The file of one payment of 1,500,000 UGX is faithful. -/
theorem ach_file_faithful_of_small :
    ∃ f : AchFile, (generateUgandaAchFile (exampleProcess
        (units "4a5534aa50d25ed554ccd241a520632b9e47221fed1d5fca3991df30bfa2df78") (by decide)
        (by decide))
      [examplePayment 1500000]).content = unlines newline f.lines ∧
        Faithful [examplePayment 1500000] f := by
  refine (ach_file_faithful_iff _ _).2 ⟨by decide, by decide, by decide, fun p hp => ?_⟩
  obtain rfl := List.mem_singleton.1 hp
  exact ⟨by decide, by decide, by decide, by decide, by decide, by decide⟩

/-- A payment of ten trillion UGX, sixteen digits in tens of cents, is encoded and not rejected, and its
file is not faithful. -/
theorem large_payment_encoded :
    ¬∃ f : AchFile, (generateUgandaAchFile (exampleProcess
        (units "bf753233d6727064e0d2ae2c38cddf355c537ec7e047d78826006be395d40576") (by decide)
        (by decide))
      [examplePayment (10 ^ 13)]).content = unlines newline f.lines ∧
        Faithful [examplePayment (10 ^ 13)] f := by
  intro h
  have hlt := (fileFits_of_faithful h).total_lt
  exact absurd hlt (by decide)

end Ris.Payments.UgandaAch
