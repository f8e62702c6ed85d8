/-
Times in JSON texts: `Time.MarshalJSON` and `Time.UnmarshalJSON` of the package `time`.

A time is what the package prints of it: the wall clock in its zone, and the offset of the zone
in seconds. The text has the offset in minutes.

* `Clock.marshal`, `Clock.parse`: the text in RFC 3339 with a fraction as long as it needs to be,
  and its reading (`parseRFC3339`).
* `Clock.read`: the time with what is left of its offset; `parse_format`: this is what comes
  back.
* `format_read_iff`: it is written again as it was written, unless its offset is not zero and
  under a minute.
-/
import Mathlib.Data.List.DropRight
import A4s.Go.Result
import A4s.Go.Text

namespace Go

/-- `isLeap`. -/
def isLeap (year : ℤ) : Bool := year % 4 = 0 && (year % 100 ≠ 0 || year % 400 = 0)

/-- `daysIn`. -/
def daysIn (month : ℕ) (year : ℤ) : ℕ :=
  if month = 2 then if isLeap year then 29 else 28
  else if month = 4 ∨ month = 6 ∨ month = 9 ∨ month = 11 then 30
  else 31

/-- A time as its wall clock and the offset of its zone in seconds. -/
structure Clock where
  year : ℤ
  month : ℕ
  day : ℕ
  hour : ℕ
  minute : ℕ
  second : ℕ
  nanosecond : ℕ
  offset : ℤ
  month_range : 1 ≤ month ∧ month ≤ 12
  day_range : 1 ≤ day ∧ day ≤ daysIn month year
  hour_lt : hour < 24
  minute_lt : minute < 60
  second_lt : second < 60
  nanosecond_lt : nanosecond < 10 ^ 9
  deriving DecidableEq

namespace Clock

/-- `time.Time{}`. -/
def zero : Clock where
  year := 1
  month := 1
  day := 1
  hour := 0
  minute := 0
  second := 0
  nanosecond := 0
  offset := 0
  month_range := by decide
  day_range := by decide
  hour_lt := by decide
  minute_lt := by decide
  second_lt := by decide
  nanosecond_lt := by decide

/-! ### Writing -/

/-- `appendInt` with a width, for a number that fits. -/
def pad : ℕ → ℕ → List Char
  | 0, _ => []
  | width + 1, n => pad width (n / 10) ++ [Nat.digitChar (n % 10)]

/-- The digits without zeros at the end. -/
def trim (digits : List Char) : List Char := digits.rdropWhile (· = '0')

/-- `appendNano`: nothing, or a point and the digits that matter. -/
def fraction (n : ℕ) : List Char := if n = 0 then [] else '.' :: trim (pad 9 n)

/-- The minutes of an offset. -/
def minutes (offset : ℤ) : ℕ := offset.natAbs / 60

/-- The zone: `Z`, or a sign, hours and minutes. -/
def zone (offset : ℤ) : List Char :=
  if offset = 0 then ['Z']
  else
    (if offset < 0 ∧ minutes offset ≠ 0 then '-' else '+') ::
      (pad 2 (minutes offset / 60) ++ ':' :: pad 2 (minutes offset % 60))

/-- `appendFormatRFC3339`, for a year of four digits. -/
def format (t : Clock) : List Char :=
  pad 4 t.year.toNat ++ '-' :: (pad 2 t.month ++ '-' :: (pad 2 t.day ++ 'T' ::
    (pad 2 t.hour ++ ':' :: (pad 2 t.minute ++ ':' :: (pad 2 t.second ++
      (fraction t.nanosecond ++ zone t.offset))))))

/-- `Time.MarshalJSON`, without the quotes. -/
def marshal (t : Clock) : Result (List Char) := do
  refuseIf (t.year < 0 ∨ 9999 < t.year) "Time.MarshalJSON: year outside of range [0,9999]"
  refuseIf (24 ≤ minutes t.offset / 60)
    "Time.MarshalJSON: timezone hour outside of range [0,23]"
  return format t

/-! ### Reading -/

/-- `parseUint`: the digits at a place of the text. -/
def parseField (text : List Char) (start width : ℕ) : Option ℕ :=
  let s := (text.drop start).take width
  if s.length = width ∧ s.all Char.isDigit then some (Nat.ofDigitChars 10 s 0) else none

/-- `parseNanoseconds`, on the digits after the point. -/
def parseNanoseconds (digits : List Char) : ℕ :=
  Nat.ofDigitChars 10 (digits.take 9) 0 * 10 ^ (9 - digits.length)

/-- The fraction of a second, and what follows it. -/
def parseFraction : List Char → ℕ × List Char
  | '.' :: c :: rest =>
    if c.isDigit then
      (parseNanoseconds ((c :: rest).takeWhile Char.isDigit), (c :: rest).dropWhile Char.isDigit)
    else (0, '.' :: c :: rest)
  | text => (0, text)

/-- The offset of the zone in seconds. -/
def parseZone : List Char → Option ℤ
  | ['Z'] => some 0
  | sign :: rest => do
      let hours ← parseField rest 0 2
      let mins ← parseField rest 3 2
      if rest.length = 5 ∧ hours ≤ 23 ∧ mins ≤ 59 ∧ rest[2]? = some ':' then
        if sign = '-' then some (-(((hours * 60 + mins) * 60 : ℕ) : ℤ))
        else if sign = '+' then some (((hours * 60 + mins) * 60 : ℕ) : ℤ)
        else none
      else none
  | [] => none

/-- `parseRFC3339`. -/
def parse (text : List Char) : Option Clock := do
  let year ← parseField text 0 4
  let month ← parseField text 5 2
  let day ← parseField text 8 2
  let hour ← parseField text 11 2
  let minute ← parseField text 14 2
  let second ← parseField text 17 2
  let marks := [text[4]?, text[7]?, text[10]?, text[13]?, text[16]?]
  let (nanosecond, rest) := parseFraction (text.drop 19)
  let offset ← parseZone rest
  if h : (1 ≤ month ∧ month ≤ 12) ∧ (1 ≤ day ∧ day ≤ daysIn month year) ∧ hour < 24 ∧
      minute < 60 ∧ second < 60 ∧ nanosecond < 10 ^ 9 ∧
      marks = [some '-', some '-', some 'T', some ':', some ':'] then
    some { year := year, month := month, day := day, hour := hour, minute := minute,
           second := second, nanosecond := nanosecond, offset := offset,
           month_range := h.1, day_range := h.2.1, hour_lt := h.2.2.1,
           minute_lt := h.2.2.2.1, second_lt := h.2.2.2.2.1,
           nanosecond_lt := h.2.2.2.2.2.1 }
  else none

/-- An offset without its seconds. -/
def wholeMinutes (offset : ℤ) : ℤ :=
  if offset < 0 then -((minutes offset * 60 : ℕ) : ℤ) else ((minutes offset * 60 : ℕ) : ℤ)

/-- What is left of a time in its text: the offset in whole minutes. -/
def read (t : Clock) : Clock := { t with offset := wholeMinutes t.offset }

/-! ### The digits of a field -/

@[simp] lemma length_pad (width n : ℕ) : (pad width n).length = width := by
  induction width generalizing n with
  | zero => rfl
  | succ width ih => simp [pad, ih]

lemma isDigit_digitChar : ∀ d < 10, (Nat.digitChar d).isDigit = true := by decide

lemma isDigit_pad {width n : ℕ} : ∀ c ∈ pad width n, c.isDigit = true := by
  induction width generalizing n with
  | zero => simp [pad]
  | succ width ih =>
    intro c hc
    rcases List.mem_append.mp hc with hfront | hlast
    · exact ih c hfront
    · rw [List.mem_singleton.mp hlast]
      exact isDigit_digitChar _ (Nat.mod_lt n (by omega))

lemma ofDigitChars_snoc (digits : List Char) (c : Char) :
    Nat.ofDigitChars 10 (digits ++ [c]) 0 =
      10 * Nat.ofDigitChars 10 digits 0 + (c.toNat - '0'.toNat) := by
  simp [Nat.ofDigitChars]

lemma ofDigitChars_pad {width n : ℕ} (h : n < 10 ^ width) :
    Nat.ofDigitChars 10 (pad width n) 0 = n := by
  induction width generalizing n with
  | zero =>
    have hzero : n = 0 := by omega
    simp [pad, hzero]
  | succ width ih =>
    have hfront : n / 10 < 10 ^ width := Nat.div_lt_of_lt_mul (by omega)
    have hlast : (Nat.digitChar (n % 10)).toNat - '0'.toNat = n % 10 := by
      have hlt : n % 10 < 10 := Nat.mod_lt n (by omega)
      interval_cases n % 10 <;> rfl
    rw [pad, ofDigitChars_snoc, ih hfront, hlast]
    omega

/-- A number that was written where the field stands is what the field reads. -/
lemma parseField_pad {text rest : List Char} {start width n : ℕ} (hn : n < 10 ^ width)
    (htext : text.drop start = pad width n ++ rest) : parseField text start width = some n := by
  have hfield : (text.drop start).take width = pad width n := by
    rw [htext]
    exact List.take_left' (length_pad width n)
  have hdigits : (pad width n).all Char.isDigit = true := List.all_eq_true.mpr isDigit_pad
  simp only [parseField, hfield]
  rw [if_pos ⟨length_pad width n, hdigits⟩, ofDigitChars_pad hn]

/-! ### The fraction -/

lemma trim_zero (digits : List Char) : trim (digits ++ ['0']) = trim digits := by
  simp [trim, List.rdropWhile_concat_pos]

lemma trim_other (digits : List Char) {c : Char} (h : c ≠ '0') :
    trim (digits ++ [c]) = digits ++ [c] := by
  simp [trim, h]

/-- The zeros that are trimmed are the power of ten that reading puts back. -/
lemma ofDigitChars_trim (digits : List Char) :
    Nat.ofDigitChars 10 (trim digits) 0 * 10 ^ (digits.length - (trim digits).length) =
      Nat.ofDigitChars 10 digits 0 := by
  induction digits using List.reverseRecOn with
  | nil => rfl
  | append_singleton digits c ih =>
    by_cases hc : c = '0'
    · subst hc
      have hle : (trim digits).length ≤ digits.length :=
        (List.rdropWhile_prefix _ _).length_le
      have hmore : (digits ++ ['0']).length - (trim digits).length =
          digits.length - (trim digits).length + 1 := by
        rw [List.length_append, List.length_singleton]
        omega
      rw [trim_zero, hmore, pow_succ, ← mul_assoc, ih, ofDigitChars_snoc]
      simp [mul_comm]
    · rw [trim_other digits hc, Nat.sub_self, pow_zero, mul_one]

lemma isDigit_trim {digits : List Char} (h : ∀ c ∈ digits, c.isDigit = true) :
    ∀ c ∈ trim digits, c.isDigit = true :=
  fun c hc => h c ((List.rdropWhile_prefix _ _).subset hc)

/-- What a zone starts with neither opens nor continues a fraction. -/
def Closes (rest : List Char) : Prop :=
  ∀ c more, rest = c :: more → c ≠ '.' ∧ c.isDigit = false

lemma Closes.takeWhile {rest : List Char} (h : Closes rest) :
    rest.takeWhile Char.isDigit = [] ∧ rest.dropWhile Char.isDigit = rest := by
  cases rest with
  | nil => exact ⟨rfl, rfl⟩
  | cons c more =>
    have hc := (h c more rfl).2
    simp [hc]

lemma parseFraction_digits {digits rest : List Char} (hne : digits ≠ [])
    (hdigits : ∀ c ∈ digits, c.isDigit = true) (hrest : Closes rest) :
    parseFraction ('.' :: (digits ++ rest)) = (parseNanoseconds digits, rest) := by
  obtain ⟨c, more, rfl⟩ := List.exists_cons_of_ne_nil hne
  have htake : (c :: more ++ rest).takeWhile Char.isDigit = c :: more := by
    rw [List.takeWhile_append_of_pos hdigits, hrest.takeWhile.1, List.append_nil]
  have hdrop : (c :: more ++ rest).dropWhile Char.isDigit = rest := by
    rw [List.dropWhile_append_of_pos hdigits, hrest.takeWhile.2]
  rw [List.cons_append] at htake hdrop ⊢
  rw [parseFraction, if_pos (hdigits c (by simp)), htake, hdrop]

lemma parseFraction_none {rest : List Char} (h : Closes rest) :
    parseFraction rest = (0, rest) := by
  cases rest with
  | nil => rfl
  | cons c more =>
    have hc := (h c more rfl).1
    unfold parseFraction
    split
    · rename_i heq
      exact absurd (List.cons.inj heq).1 hc
    · rfl

lemma parseFraction_fraction {n : ℕ} (hn : n < 10 ^ 9) {rest : List Char} (h : Closes rest) :
    parseFraction (fraction n ++ rest) = (n, rest) := by
  by_cases hzero : n = 0
  · rw [fraction, if_pos hzero, List.nil_append, parseFraction_none h, hzero]
  · have hvalue := ofDigitChars_trim (pad 9 n)
    rw [ofDigitChars_pad hn, length_pad] at hvalue
    have hne : trim (pad 9 n) ≠ [] := by
      intro hnil
      rw [hnil] at hvalue
      exact hzero (by simpa using hvalue.symm)
    have hlength : (trim (pad 9 n)).length ≤ 9 :=
      (List.rdropWhile_prefix _ _).length_le.trans_eq (length_pad 9 n)
    rw [fraction, if_neg hzero, List.cons_append,
      parseFraction_digits hne (isDigit_trim isDigit_pad) h, parseNanoseconds,
      List.take_of_length_le hlength, hvalue]

/-! ### The zone -/

lemma closes_zone (offset : ℤ) : Closes (zone offset) := by
  intro c more heq
  rw [zone] at heq
  split at heq
  · obtain rfl := (List.cons.inj heq).1
    decide
  · obtain rfl := (List.cons.inj heq).1
    split <;> decide

/-- The hours and minutes after a sign. -/
lemma parseZone_signed {sign : Char} {n : ℕ} (hsign : sign ≠ 'Z') (hn : n / 60 < 24) :
    parseZone (sign :: (pad 2 (n / 60) ++ ':' :: pad 2 (n % 60))) =
      if sign = '-' then some (-((n * 60 : ℕ) : ℤ))
      else if sign = '+' then some ((n * 60 : ℕ) : ℤ) else none := by
  have hhours : parseField (pad 2 (n / 60) ++ ':' :: pad 2 (n % 60)) 0 2 = some (n / 60) :=
    parseField_pad (by omega) rfl
  have hmins : parseField (pad 2 (n / 60) ++ ':' :: pad 2 (n % 60)) 3 2 = some (n % 60) :=
    parseField_pad (by omega) (List.append_nil _).symm
  have hall : n / 60 * 60 + n % 60 = n := Nat.div_add_mod' n 60
  have hshape : (pad 2 (n / 60) ++ ':' :: pad 2 (n % 60)).length = 5 ∧ n / 60 ≤ 23 ∧
      n % 60 ≤ 59 ∧ (pad 2 (n / 60) ++ ':' :: pad 2 (n % 60))[2]? = some ':' :=
    ⟨by simp, by omega, by omega, rfl⟩
  unfold parseZone
  split
  · rename_i heq
    exact absurd (List.cons.inj heq).1 hsign
  · rename_i heq
    obtain ⟨rfl, rfl⟩ := List.cons.inj heq
    rw [hhours, hmins]
    simp only [Option.bind_eq_bind, Option.bind_some]
    rw [if_pos hshape, hall]
  · rename_i heq
    cases heq

lemma parseZone_zone {offset : ℤ} (h : minutes offset / 60 < 24) :
    parseZone (zone offset) = some (wholeMinutes offset) := by
  by_cases hzero : offset = 0
  · subst hzero
    rfl
  · rw [zone, if_neg hzero, wholeMinutes]
    by_cases hneg : offset < 0 ∧ minutes offset ≠ 0
    · rw [if_pos hneg, parseZone_signed (by decide) h, if_pos rfl, if_pos hneg.1]
    · rw [if_neg hneg, parseZone_signed (by decide) h, if_neg (by decide), if_pos rfl]
      -- below zero there is a sign only with a minute to it
      split
      · have hnone : minutes offset = 0 := by
          by_contra hsome
          exact hneg ⟨by assumption, hsome⟩
        simp [hnone]
      · rfl

/-! ### The round trip -/

/-- The year has four digits and the hours of the offset are those of a day. -/
structure Writable (t : Clock) : Prop where
  year : 0 ≤ t.year ∧ t.year ≤ 9999
  zone : minutes t.offset / 60 < 24

/-- **What comes back is the time with the whole minutes of its offset.** -/
theorem parse_format {t : Clock} (h : t.Writable) : parse (format t) = some t.read := by
  obtain ⟨hyear, hzone⟩ := h
  have hdays : t.day < 100 := by
    have hle : daysIn t.month t.year ≤ 31 := by
      unfold daysIn
      repeat' split
      all_goals omega
    exact lt_of_le_of_lt (t.day_range.2.trans hle) (by omega)
  have hyearNat : (t.year.toNat : ℤ) = t.year := Int.toNat_of_nonneg hyear.1
  have hfraction : parseFraction ((format t).drop 19) = (t.nanosecond, zone t.offset) :=
    parseFraction_fraction t.nanosecond_lt (closes_zone t.offset)
  have hmarks : [(format t)[4]?, (format t)[7]?, (format t)[10]?, (format t)[13]?,
      (format t)[16]?] = [some '-', some '-', some 'T', some ':', some ':'] := rfl
  have h₁ : parseField (format t) 0 4 = some t.year.toNat := parseField_pad (by omega) rfl
  have h₂ : parseField (format t) 5 2 = some t.month :=
    parseField_pad (lt_of_le_of_lt t.month_range.2 (by omega)) rfl
  have h₃ : parseField (format t) 8 2 = some t.day := parseField_pad hdays rfl
  have h₄ : parseField (format t) 11 2 = some t.hour :=
    parseField_pad (t.hour_lt.trans (by omega)) rfl
  have h₅ : parseField (format t) 14 2 = some t.minute :=
    parseField_pad (t.minute_lt.trans (by omega)) rfl
  have h₆ : parseField (format t) 17 2 = some t.second :=
    parseField_pad (t.second_lt.trans (by omega)) rfl
  simp only [parse, h₁, h₂, h₃, h₄, h₅, h₆, hfraction, parseZone_zone hzone, hmarks,
    Option.bind_eq_bind, Option.bind_some]
  rw [dif_pos ⟨t.month_range, by rw [hyearNat]; exact t.day_range, t.hour_lt, t.minute_lt,
    t.second_lt, t.nanosecond_lt, trivial⟩]
  simp only [read, hyearNat]

/-- A time that is written is written in this format. -/
lemma marshal_eq_ok {t : Clock} {text : List Char} :
    t.marshal = .ok text ↔ t.Writable ∧ format t = text := by
  rw [marshal, refuseIf_bind_ok, refuseIf_bind_ok, not_or, not_lt, not_lt, not_le, pure_ok]
  constructor
  · rintro ⟨hyear, hzone, htext⟩
    exact ⟨⟨hyear, hzone⟩, htext⟩
  · rintro ⟨⟨hyear, hzone⟩, htext⟩
    exact ⟨hyear, hzone, htext⟩

lemma minutes_wholeMinutes (offset : ℤ) : minutes (wholeMinutes offset) = minutes offset := by
  have hback : minutes offset * 60 / 60 = minutes offset := Nat.mul_div_cancel _ (by omega)
  unfold wholeMinutes
  split
  · rw [minutes, Int.natAbs_neg, Int.natAbs_natCast, hback]
  · rw [minutes, Int.natAbs_natCast, hback]

lemma zone_wholeMinutes_iff {offset : ℤ} :
    zone (wholeMinutes offset) = zone offset ↔ ¬ (offset ≠ 0 ∧ offset.natAbs < 60) := by
  by_cases hzero : offset = 0
  · subst hzero
    simp [wholeMinutes, minutes]
  · by_cases hsmall : offset.natAbs < 60
    · have hnone : minutes offset = 0 := Nat.div_eq_of_lt hsmall
      have hread : wholeMinutes offset = 0 := by simp [wholeMinutes, hnone]
      rw [hread, zone, if_pos rfl, zone, if_neg hzero, hnone]
      simp [hzero, hsmall]
    · have hminutes : minutes offset ≠ 0 := by
        unfold minutes
        omega
      have hread : wholeMinutes offset ≠ 0 := by
        unfold wholeMinutes
        split <;> omega
      have hsign : wholeMinutes offset < 0 ↔ offset < 0 := by
        unfold wholeMinutes
        split <;> omega
      simp [zone, hzero, hread, hsign, minutes_wholeMinutes, hsmall]

/-- The offset is zero, or a minute at least. -/
def Settled (t : Clock) : Prop := ¬ (t.offset ≠ 0 ∧ t.offset.natAbs < 60)

instance (t : Clock) : Decidable t.Settled :=
  inferInstanceAs (Decidable (¬ (t.offset ≠ 0 ∧ t.offset.natAbs < 60)))

/-- **A time is written again as it was written**, unless its offset is under a minute and not
zero: such an offset is written as hours and minutes of zero, and a zero offset as `Z`. -/
theorem format_read_iff {t : Clock} : format t.read = format t ↔ t.Settled := by
  rw [Settled, ← zone_wholeMinutes_iff]
  constructor
  · intro h
    simpa [format, read] using h
  · intro h
    simp only [format, read, h]

lemma Writable.read {t : Clock} (h : t.Writable) : t.read.Writable where
  year := h.year
  zone := by
    rw [Clock.read, minutes_wholeMinutes]
    exact h.zone

end Clock

end Go
