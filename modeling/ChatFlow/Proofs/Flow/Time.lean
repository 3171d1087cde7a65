import ChatFlow.Proofs.Collection.Result
import ChatFlow.Proofs.Flow.Encoding
import Mathlib.Algebra.Group.Nat.Defs
import Mathlib.Data.List.Induction

/-!
# ChatFlow — times read back

A time is legible exactly if it is one of the calendar (`Timestamp.Valid`), and whatever text is
read as a time, the time is one. So what is read once can be written and is read again as the same
time, also after a shift to UTC and also if it is a leap second.

The way back goes part by part: what follows a number is no digit, so the number ends where it was
written to its end, and the parts between the marks cannot run into each other.

## Results

* `ofChars_toChars`              — a time of the calendar is read back from its own text.
* `valid_of_ofChars`             — what is read is a time of the calendar.
* `legible_iff_valid`            — legible times are the times of the calendar.
* `Flow.times_of_ofValue?`       — the times of the flows that are read.
-/

namespace ChatFlow

namespace Timestamp

variable {t : Timestamp} {c : Char} {ds rest cs : List Char} {width low high n : Nat}

/-! ## Digits -/

/-- What follows a number is no digit. -/
def Stops (rest : List Char) : Prop := ∀ c ∈ rest.head?, (digit? c).isSome = false

/-- The digits are the characters from `0` to `9`, by their code points. -/
theorem isSome_digit?_iff : (digit? c).isSome = true ↔ 48 ≤ c.toNat ∧ c.toNat ≤ 57 := by
  have hBounds : ('0' ≤ c ∧ c ≤ '9') ↔ 48 ≤ c.toNat ∧ c.toNat ≤ 57 := Iff.rfl
  simp [digit?, hBounds]

theorem isSome_digit?_of_isDigit (h : c.isDigit = true) : (digit? c).isSome = true := by
  simp only [Char.isDigit, Bool.and_eq_true, decide_eq_true_eq] at h
  exact isSome_digit?_iff.2 h

/-- A digit is no blank, so nothing is trimmed before a number. -/
theorem not_blank_of_isSome_digit? (h : (digit? c).isSome = true) : Text.isBlank c = false := by
  have hBounds := isSome_digit?_iff.1 h
  simp [Text.isBlank]
  omega

/-- The digits are taken to their end and no further, if the width ends there or no digit follows.
-/
theorem digitRun_append (hDigits : ∀ c ∈ ds, (digit? c).isSome = true) (hWidth : ds.length ≤ width)
    (hStops : ds.length = width ∨ Stops rest) : digitRun width (ds ++ rest) = ds := by
  induction ds generalizing width with
  | nil =>
    -- the run ends since no more digits fit, since nothing follows or since no digit follows
    match width, rest with
    | 0, _ => simp [digitRun]
    | width + 1, [] => rfl
    | width + 1, c :: rest =>
      have hStop : (digit? c).isSome = false := hStops.resolve_left (by simp) c (by simp)
      simp [digitRun, hStop]
  | cons d ds ih =>
    match width with
    | 0 => simp at hWidth
    | width + 1 =>
      have hRest := ih (fun c hc => hDigits c (List.mem_cons_of_mem d hc))
        (Nat.le_of_succ_le_succ hWidth) (hStops.imp_left Nat.succ.inj)
      rw [List.cons_append, digitRun, if_pos (hDigits d (List.mem_cons_self ..)), hRest]

/-- A number is read as the value of its digits, and what follows them is left over. -/
theorem number_append (hDigits : ∀ c ∈ ds, (digit? c).isSome = true) (hSome : ds ≠ [])
    (hWidth : ds.length ≤ width) (hStops : ds.length = width ∨ Stops rest)
    (hBound : ofDigits ds < 2 ^ 63) : number width (ds ++ rest) = .ok (ofDigits ds, rest) := by
  -- the reader refuses numbers that do not fit into 63 bits
  have hNot : ¬ Nat.pow 2 63 ≤ ofDigits ds := Nat.not_le.2 hBound
  rw [number, if_neg (by simp [hSome])]
  simp only [digitRun_append hDigits hWidth hStops]
  rw [if_neg (by simp [hSome]), if_neg hNot, List.drop_left]

/-! ## Padded numbers -/

/-- Zeros in front do not change the value of a number. -/
theorem ofDigits_padded (width n : Nat) : ofDigits (padded width n) = n := by
  show Nat.ofDigitChars 10 (padded width n) 0 = n
  rw [padded, Nat.ofDigitChars_append, Nat.ofDigitChars_replicate_zero]
  exact Nat.ofDigitChars_ten_toDigits

theorem isSome_digit?_of_mem_padded (h : c ∈ padded width n) : (digit? c).isSome = true := by
  rw [padded, List.mem_append] at h
  rcases h with hZero | hDigit
  · rw [List.eq_of_mem_replicate hZero]
    rfl
  · exact isSome_digit?_of_isDigit (Nat.isDigit_of_mem_toDigits (by decide) (by decide) hDigit)

/-- A number that fits its width is padded to exactly that width. -/
theorem length_padded (hWidth : 0 < width) (h : n < 10 ^ width) :
    (padded width n).length = width := by
  -- the zeros fill up what the digits of the number leave free
  have hLe := (Nat.length_toDigits_le_iff (by decide) hWidth).2 h
  rw [padded, List.length_append, List.length_replicate]
  exact Nat.sub_add_cancel hLe

theorem padded_ne_nil (width n : Nat) : padded width n ≠ [] := by simp [padded]

/-- A padded number is read to its end, if no more digits fit or none follows. -/
theorem number_padded {most : Nat} (hLength : (padded width n).length ≤ most)
    (hStops : (padded width n).length = most ∨ Stops rest) (hMax : n < 2 ^ 63) :
    number most (padded width n ++ rest) = .ok (n, rest) := by
  have hDigits := ofDigits_padded width n
  have hRead : number most (padded width n ++ rest) = .ok (ofDigits (padded width n), rest) :=
    number_append (fun c hc => isSome_digit?_of_mem_padded hc) (padded_ne_nil width n) hLength
      hStops (by rwa [hDigits])
  rwa [hDigits] at hRead

theorem trimLeft_cons (h : Text.isBlank c = false) : Text.trimLeft (c :: rest) = c :: rest := by
  simp [Text.trimLeft, h]

/-- A padded number begins with a digit, so nothing is trimmed. -/
theorem trimLeft_padded : Text.trimLeft (padded width n ++ rest) = padded width n ++ rest := by
  obtain ⟨d, ds, hPadded⟩ := List.exists_cons_of_ne_nil (padded_ne_nil width n)
  have hDigit : (digit? d).isSome = true :=
    isSome_digit?_of_mem_padded (hPadded ▸ List.mem_cons_self ..)
  rw [hPadded, List.cons_append, trimLeft_cons (not_blank_of_isSome_digit? hDigit)]

/-! ## Parts of a time -/

/-- A part of two digits is read back if it is within its bounds. -/
theorem field_padded (hLow : low ≤ n) (hHigh : n ≤ high) (hBound : n < 100) :
    field low high (padded 2 n ++ rest) = .ok (n, rest) := by
  have hLength : (padded 2 n).length = 2 := length_padded (by decide) hBound
  -- two digits are all that is read, whatever follows
  rw [field, trimLeft_padded, number_padded (Nat.le_of_eq hLength) (.inl hLength) (by omega)]
  simp only [bind, Except.bind]
  rw [if_pos ⟨hLow, hHigh⟩]

theorem mark_cons (h : Text.isBlank c = false) : mark c (c :: rest) = .ok rest := by
  simp [mark, trimLeft_cons h]

theorem stops_hyphen : Stops ('-' :: rest) := fun c hc => by
  obtain rfl : '-' = c := by simpa using hc
  decide

/-- The year after its sign, if there is one. -/
theorem yearField_of_minus (hBound : n ≤ 2147483648) (hRead : number cs.length cs = .ok (n, rest)) :
    yearField ('-' :: cs) = .ok (-(n : Int), rest) := by
  rw [yearField, trimLeft_cons (by decide)]
  simp only [hRead, Except.map, bind, Except.bind]
  rw [if_pos (by omega)]

/-- A year after a plus sign is read as the number that follows. -/
theorem yearField_of_plus (hBound : n < 2147483648) (hRead : number cs.length cs = .ok (n, rest)) :
    yearField ('+' :: cs) = .ok (n, rest) := by
  rw [yearField, trimLeft_cons (by decide)]
  simp only [hRead, Except.map, bind, Except.bind]
  rw [if_pos (by omega)]

/-- A year without a sign is read from the four digits it begins with. -/
theorem yearField_of_digit (hDigit : (digit? c).isSome = true) (hBound : n < 2147483648)
    (hRead : number 4 (c :: cs) = .ok (n, rest)) : yearField (c :: cs) = .ok (n, rest) := by
  have hBounds := isSome_digit?_iff.1 hDigit
  rw [yearField, trimLeft_cons (not_blank_of_isSome_digit? hDigit)]
  -- a digit is no sign
  split
  · next h =>
    obtain ⟨rfl, -⟩ := List.cons.inj h
    exact absurd hBounds.1 (by decide)
  · next h =>
    obtain ⟨rfl, -⟩ := List.cons.inj h
    exact absurd hBounds.1 (by decide)
  · simp only [hRead, Except.map, bind, Except.bind]
    rw [if_pos (by omega)]

/-- The year of a time of the calendar is read back up to the hyphen behind it. -/
theorem yearField_yearChars {year : Int} (hFirst : firstYear ≤ year) (hLast : year ≤ lastYear) :
    yearField (yearChars year ++ '-' :: rest) = .ok (year, '-' :: rest) := by
  simp only [firstYear, lastYear] at hFirst hLast
  -- a sign is followed by as many digits as there are
  have hSigned : number (padded 4 year.natAbs ++ '-' :: rest).length
      (padded 4 year.natAbs ++ '-' :: rest) = .ok (year.natAbs, '-' :: rest) :=
    number_padded (by simp) (.inr stops_hyphen) (by omega)
  rw [yearChars]
  split
  · next hPlain =>
    -- four digits are read at most, so the hyphen is not even looked at
    have hLength : (padded 4 year.toNat).length = 4 := length_padded (by decide) (by omega)
    have hRead : number 4 (padded 4 year.toNat ++ '-' :: rest) = .ok (year.toNat, '-' :: rest) :=
      number_padded (Nat.le_of_eq hLength) (.inl hLength) (by omega)
    obtain ⟨d, ds, hPadded⟩ := List.exists_cons_of_ne_nil (padded_ne_nil 4 year.toNat)
    have hDigit : (digit? d).isSome = true :=
      isSome_digit?_of_mem_padded (hPadded ▸ List.mem_cons_self ..)
    rw [hPadded, List.cons_append] at hRead ⊢
    rw [yearField_of_digit hDigit (by omega) hRead, Int.toNat_of_nonneg hPlain.1]
  · split
    · -- a negative year is written after a minus sign, a late one after a plus sign
      rw [List.cons_append, yearField_of_minus (by omega) hSigned]
      congr 2
      omega
    · rw [List.cons_append, yearField_of_plus (by omega) hSigned]
      congr 2
      omega

/-- The digits after the point count from the left, so those missing up to nine are zeros. -/
theorem fraction_padded (hWidth : 0 < width) (hMost : width ≤ 9) (hBound : n < 10 ^ width) :
    fraction ('.' :: (padded width n ++ ['Z'])) = .ok (n * 10 ^ (9 - width), ['Z']) := by
  have hLength := length_padded hWidth hBound
  have hMax : n < 2 ^ 63 := calc
    n < 10 ^ width := hBound
    _ ≤ 10 ^ 9 := Nat.pow_le_pow_right (by decide) hMost
    _ < 2 ^ 63 := by decide
  -- the digits end at the mark of the time zone
  have hStops : Stops ['Z'] := fun c hc => by
    obtain rfl : 'Z' = c := by simpa using hc
    decide
  have hRead : number 9 (padded width n ++ ['Z']) = .ok (n, ['Z']) :=
    number_padded (by omega) (.inr hStops) hMax
  have hShown : (padded width n ++ ['Z']).length - ['Z'].length = width := by simp [hLength]
  simp only [fraction, hRead, bind, Except.bind, hShown]
  rfl

/-- A fraction is read back, whether it is written in no, three, six or nine digits. -/
theorem fraction_fractionChars {nano : Nat} (h : nano < 1000000000) :
    fraction (fractionChars nano ++ ['Z']) = .ok (nano, ['Z']) := by
  rw [fractionChars]
  split
  · next hZero => rw [hZero]; rfl
  · split
    · next hThousandths =>
      rw [List.cons_append, fraction_padded (by decide) (by decide) (by omega)]
      -- three digits, six or nine: what they say is the same number of nanoseconds
      congr 2
      omega
    · split
      · next hMillionths =>
        rw [List.cons_append, fraction_padded (by decide) (by decide) (by omega)]
        congr 2
        omega
      · rw [List.cons_append, fraction_padded (by decide) (by decide) h]
        simp

/-! ## Times -/

/-- A time of the calendar. Only the last second of a minute can be a leap second. -/
structure Valid (t : Timestamp) : Prop where
  fromYear : firstYear ≤ t.year
  toYear : t.year ≤ lastYear
  fromMonth : 1 ≤ t.month
  toMonth : t.month ≤ 12
  fromDay : 1 ≤ t.day
  toDay : t.day ≤ daysIn t.year t.month
  second : t.second < 86400
  nano : t.nano < 2000000000
  leap : 1000000000 ≤ t.nano → t.second % 60 = 59

theorem daysIn_le (year : Int) (month : Nat) : daysIn year month ≤ 31 := by
  rw [daysIn]
  split <;> split <;> decide

/-- Every part of a time is read from its own place. -/
theorem ofChars_parts {year : Int} {month day hour minute : Nat} (sec nano : Nat)
    (hFirst : firstYear ≤ year) (hLast : year ≤ lastYear) (hFromMonth : 1 ≤ month)
    (hToMonth : month ≤ 12) (hFromDay : 1 ≤ day) (hToDay : day ≤ daysIn year month)
    (hHour : hour ≤ 23) (hMinute : minute ≤ 59) (hSec : sec ≤ 60) (hNano : nano < 1000000000) :
    ofChars (yearChars year ++ '-' :: (padded 2 month ++ '-' :: (padded 2 day ++
        'T' :: (padded 2 hour ++ ':' :: (padded 2 minute ++ ':' :: (padded 2 sec ++
          (fractionChars nano ++ ['Z']))))))) =
      .ok { year, month, day
            second := hour * 3600 + minute * 60 + (if sec = 60 then 59 else sec)
            nano := nano + (if sec = 60 then 1000000000 else 0) } := by
  have hDays := daysIn_le year month
  rw [ofChars]
  -- each part ends at its mark, and the reader goes on from there
  refine bind_eq_ok_iff.2 ⟨_, yearField_yearChars hFirst hLast, ?_⟩
  refine bind_eq_ok_iff.2 ⟨_, mark_cons (by decide), ?_⟩
  refine bind_eq_ok_iff.2 ⟨_, field_padded hFromMonth hToMonth (by omega), ?_⟩
  refine bind_eq_ok_iff.2 ⟨_, mark_cons (by decide), ?_⟩
  refine bind_eq_ok_iff.2 ⟨_, field_padded hFromDay (by omega) (by omega), ?_⟩
  refine bind_eq_ok_iff.2 ⟨_, if_pos (.inl rfl), ?_⟩
  refine bind_eq_ok_iff.2 ⟨_, field_padded (Nat.zero_le _) hHour (by omega), ?_⟩
  refine bind_eq_ok_iff.2 ⟨_, mark_cons (by decide), ?_⟩
  refine bind_eq_ok_iff.2 ⟨_, field_padded (Nat.zero_le _) hMinute (by omega), ?_⟩
  refine bind_eq_ok_iff.2 ⟨_, mark_cons (by decide), ?_⟩
  refine bind_eq_ok_iff.2 ⟨_, field_padded (Nat.zero_le _) hSec (by omega), ?_⟩
  refine bind_eq_ok_iff.2 ⟨_, fraction_fractionChars hNano, ?_⟩
  -- the `Z` at the end is an offset of nothing
  refine bind_eq_ok_iff.2 ⟨(0, []), rfl, ?_⟩
  dsimp only
  rw [if_neg (by simp [Text.trimLeft]), if_neg (by omega), if_neg (by decide)]
  -- the time is written as UTC, and there is nothing to shift
  have hSecond : hour * 3600 + minute * 60 + (if sec = 60 then 59 else sec) < 86400 := by
    split <;> omega
  simp only [shift?, Int.sub_zero, decide_eq_true_eq]
  rw [if_neg (by omega), if_neg (by omega), Int.toNat_natCast]

/-- A time of the calendar is read back from its own text. -/
theorem ofChars_toChars (h : t.Valid) : ofChars t.toChars = .ok t := by
  obtain ⟨hFirst, hLast, hFromMonth, hToMonth, hFromDay, hToDay, hSecond, hNano, hLeap⟩ := h
  have hHour : t.second / 3600 ≤ 23 := by omega
  have hMinute : t.second / 60 % 60 ≤ 59 := by omega
  simp only [toChars, List.append_assoc, List.cons_append]
  -- a leap second is written as the second 60, with a fraction of less than a second
  by_cases hIsLeap : 1000000000 ≤ t.nano
  · have hLast' := hLeap hIsLeap
    have hRead := ofChars_parts (t.second % 60 + 1) (t.nano - 1000000000) hFirst hLast hFromMonth
      hToMonth hFromDay hToDay hHour hMinute (by omega) (by omega)
    have hNanos : t.nano - 1000000000 + 1000000000 = t.nano := by omega
    have hSeconds : t.second / 3600 * 3600 + t.second / 60 % 60 * 60 + 59 = t.second := by omega
    rw [if_pos (by omega), if_pos (by omega), hNanos, hSeconds] at hRead
    simpa only [decide_eq_true hIsLeap, if_true] using hRead
  · have hRead := ofChars_parts (t.second % 60) t.nano hFirst hLast hFromMonth hToMonth hFromDay
      hToDay hHour hMinute (by omega) (by omega)
    -- hours, minutes and seconds make up the second of the day
    have hSeconds :
        t.second / 3600 * 3600 + t.second / 60 % 60 * 60 + t.second % 60 = t.second := by omega
    rw [if_neg (by omega), if_neg (by omega), Nat.add_zero, hSeconds] at hRead
    simpa only [decide_eq_false hIsLeap, Bool.false_eq_true, if_false, Nat.add_zero] using hRead

/-! ## What is read -/

/-- A digit at the end leaves the value of the others tenfold. -/
theorem ofDigits_concat (ds : List Char) (c : Char) :
    ofDigits (ds ++ [c]) = 10 * ofDigits ds + (c.toNat - 48) := by
  rw [ofDigits, ofDigits, List.foldl_append]
  rfl

/-- Digits denote a number that has no more of them. -/
theorem ofDigits_lt (hDigits : ∀ c ∈ ds, (digit? c).isSome = true) :
    ofDigits ds < 10 ^ ds.length := by
  -- from the right, where a new digit leaves the value of the others tenfold
  induction ds using List.reverseRecOn with
  | nil => decide
  | append_singleton ds c ih =>
    have hFront := ih fun d hd => hDigits d (List.mem_append_left _ hd)
    have hLast := isSome_digit?_iff.1 (hDigits c (by simp))
    rw [ofDigits_concat, List.length_append, List.length_singleton, Nat.pow_succ]
    omega

/-- The run of digits is no longer than the width and the text, and has digits only. -/
theorem digitRun_spec (width : Nat) (cs : List Char) :
    (digitRun width cs).length ≤ width ∧ (digitRun width cs).length ≤ cs.length ∧
      ∀ c ∈ digitRun width cs, (digit? c).isSome = true := by
  induction width generalizing cs with
  | zero => simp [digitRun]
  | succ width ih =>
    cases cs with
    | nil => simp [digitRun]
    | cons c cs =>
      obtain ⟨hWidth, hLength, hDigits⟩ := ih cs
      -- the run ends before the first character that is no digit
      rw [digitRun]
      split
      · next hDigit =>
        refine ⟨Nat.succ_le_succ hWidth, Nat.succ_le_succ hLength, fun d hd => ?_⟩
        -- the head was tested, the others come from the shorter run
        rcases List.mem_cons.1 hd with rfl | hRest
        · exact hDigit
        · exact hDigits d hRest
      · simp

/-- A number that is read has some of the first characters as its digits, and the rest is left over.
-/
theorem number_spec (h : number width cs = .ok (n, rest)) :
    ∃ count ≤ width, count ≤ cs.length ∧ n < 10 ^ count ∧ rest = cs.drop count := by
  obtain ⟨hWidth, hLength, hDigits⟩ := digitRun_spec width cs
  -- as many digits as were read bound the number
  have hLt := ofDigits_lt hDigits
  rw [number] at h
  split at h
  · cases h
  · dsimp only at h
    split at h
    · cases h
    · split at h
      · cases h
      · -- what is left over is what follows the run
        obtain ⟨rfl, rfl⟩ := Prod.mk.inj (Except.ok.inj h)
        exact ⟨_, hWidth, hLength, hLt, rfl⟩

/-- A part that is read is within its bounds. -/
theorem field_spec (h : field low high cs = .ok (n, rest)) : low ≤ n ∧ n ≤ high := by
  rw [field] at h
  obtain ⟨⟨k, cs'⟩, -, h⟩ := bind_eq_ok_iff.1 h
  dsimp only at h
  split at h
  · next hBounds =>
    obtain ⟨rfl, -⟩ := Prod.mk.inj (Except.ok.inj h)
    exact hBounds
  · cases h

/-- A fraction is less than a second. -/
theorem fraction_spec (h : fraction cs = .ok (n, rest)) : n < 1000000000 := by
  rw [fraction.eq_def] at h
  split at h
  · next digits =>
    obtain ⟨⟨k, cs'⟩, hRead, h⟩ := bind_eq_ok_iff.1 h
    obtain ⟨count, hWidth, hLength, hLt, rfl⟩ := number_spec hRead
    obtain ⟨rfl, -⟩ := Prod.mk.inj (Except.ok.inj h)
    have hShown : digits.length - (digits.drop count).length = count := by
      rw [List.length_drop]
      omega
    -- the digits that are missing up to nine count as zeros
    have hAll : 10 ^ count * 10 ^ (9 - count) = 1000000000 := by
      rw [← Nat.pow_add, Nat.add_sub_cancel' hWidth]
    rw [hShown, ← hAll]
    exact Nat.mul_lt_mul_of_pos_right hLt (Nat.pow_pos (by decide))
  · obtain ⟨rfl, -⟩ := Prod.mk.inj (Except.ok.inj h)
    decide

/-- The hours and minutes of an offset make whole minutes. -/
theorem offsetDigits_spec (h : offsetDigits cs = .ok (n, rest)) : n % 60 = 0 := by
  rw [offsetDigits] at h
  obtain ⟨⟨h₁, h₂, cs₁⟩, -, h⟩ := bind_eq_ok_iff.1 h
  obtain ⟨⟨m₁, m₂, cs₂⟩, -, h⟩ := bind_eq_ok_iff.1 h
  dsimp only at h
  split at h
  · obtain ⟨rfl, -⟩ := Prod.mk.inj (Except.ok.inj h)
    -- hours count sixty minutes and minutes sixty seconds
    omega
  · cases h

/-- A sign in front of an offset leaves it a number of whole minutes. -/
theorem signed_spec (sign : Nat → Int) (hSign : ∀ n, n % 60 = 0 → sign n % 60 = 0) {shift : Int}
    (h : (offsetDigits cs).map (fun (n, rest) => (sign n, rest)) = .ok (shift, rest)) :
    shift % 60 = 0 := by
  obtain ⟨⟨n, cs'⟩, hRead, hShift⟩ := map_eq_ok_iff.1 h
  obtain ⟨rfl, -⟩ := Prod.mk.inj hShift
  exact hSign n (offsetDigits_spec hRead)

/-- An offset is a number of minutes. -/
theorem offset_spec {shift : Int} (h : offset cs = .ok (shift, rest)) : shift % 60 = 0 := by
  rw [offset.eq_def] at h
  split at h
  · obtain ⟨rfl, -⟩ := Prod.mk.inj (Except.ok.inj h)
    rfl
  · split at h
    · cases h
    · obtain ⟨rfl, -⟩ := Prod.mk.inj (Except.ok.inj h)
      rfl
    · obtain ⟨rfl, -⟩ := Prod.mk.inj (Except.ok.inj h)
      rfl
    · -- ahead of it, or behind it by either kind of minus
      exact signed_spec (fun n => (n : Int)) (fun n hn => by omega) h
    · exact signed_spec (fun n => -(n : Int)) (fun n hn => by omega) h
    · exact signed_spec (fun n => -(n : Int)) (fun n hn => by omega) h
    · cases h

theorem le_daysIn (year : Int) (month : Nat) : 28 ≤ daysIn year month := by
  rw [daysIn]
  split <;> split <;> decide

/-- The day before, at the same time. -/
theorem Valid.dayBefore? (h : t.Valid) {t' : Timestamp} (hBefore : t.dayBefore? = some t') :
    t'.Valid := by
  obtain ⟨hFirst, hLast, hFromMonth, hToMonth, hFromDay, hToDay, hSecond, hNano, hLeap⟩ := h
  rw [Timestamp.dayBefore?] at hBefore
  split at hBefore
  · -- a day later in the month
    obtain rfl := Option.some.inj hBefore
    exact ⟨hFirst, hLast, hFromMonth, hToMonth, by dsimp only; omega, by dsimp only; omega, hSecond,
      hNano, hLeap⟩
  · split at hBefore
    · obtain rfl := Option.some.inj hBefore
      -- the first of a month: the last day of the month before
      have hDays := le_daysIn t.year (t.month - 1)
      exact ⟨hFirst, hLast, by dsimp only; omega, by dsimp only; omega, by dsimp only; omega,
        Nat.le_refl _, hSecond, hNano, hLeap⟩
    · split at hBefore
      · obtain rfl := Option.some.inj hBefore
        -- the first of January: the last of December of the year before
        exact ⟨by dsimp only; omega, by dsimp only; omega, by simp, Nat.le_refl _, by simp,
          by simp [daysIn], hSecond, hNano, hLeap⟩
      · cases hBefore

/-- The day after, at the same time. -/
theorem Valid.dayAfter? (h : t.Valid) {t' : Timestamp} (hAfter : t.dayAfter? = some t') :
    t'.Valid := by
  obtain ⟨hFirst, hLast, hFromMonth, hToMonth, hFromDay, hToDay, hSecond, hNano, hLeap⟩ := h
  rw [Timestamp.dayAfter?] at hAfter
  split at hAfter
  · obtain rfl := Option.some.inj hAfter
    exact ⟨hFirst, hLast, hFromMonth, hToMonth, by dsimp only; omega, by dsimp only; omega, hSecond,
      hNano, hLeap⟩
  · split at hAfter
    · obtain rfl := Option.some.inj hAfter
      -- the last of a month: the first day of the month after
      have hDays := le_daysIn t.year (t.month + 1)
      exact ⟨hFirst, hLast, by dsimp only; omega, by dsimp only; omega, Nat.le_refl _,
        by dsimp only; omega, hSecond, hNano, hLeap⟩
    · split at hAfter
      · obtain rfl := Option.some.inj hAfter
        -- the last of December: the first of January of the year after
        have hDays := le_daysIn (t.year + 1) 1
        exact ⟨by dsimp only; omega, by dsimp only; omega, Nat.le_refl _, by simp, Nat.le_refl _,
          by dsimp only; omega, hSecond, hNano, hLeap⟩
      · cases hAfter

/-- A shift by minutes keeps the second of the minute. -/
theorem Valid.shift? (h : t.Valid) {shift : Int} (hMinutes : shift % 60 = 0)
    (hDay : shift.natAbs < 86400) {t' : Timestamp} (hShift : t.shift? shift = some t') :
    t'.Valid := by
  -- the shifted second may belong to the day before or the day after
  have hMoved : ∀ second : Nat, second < 86400 → (second : Int) % 60 = t.second % 60 →
      ({ t with second } : Timestamp).Valid := by
    intro second hSecond hSame
    refine ⟨h.fromYear, h.toYear, h.fromMonth, h.toMonth, h.fromDay, h.toDay, hSecond, h.nano, ?_⟩
    intro hIsLeap
    have hLeap := h.leap hIsLeap
    dsimp only
    omega
  have hSecond := h.second
  rw [Timestamp.shift?] at hShift
  -- at most one midnight is crossed
  split at hShift
  · exact (hMoved _ (by omega) (by omega)).dayBefore? hShift
  · split at hShift
    · exact (hMoved _ (by omega) (by omega)).dayAfter? hShift
    · obtain rfl := Option.some.inj hShift
      exact hMoved _ (by omega) (by omega)

/-- What is read is a time of the calendar. -/
theorem valid_of_ofChars (h : ofChars cs = .ok t) : t.Valid := by
  rw [ofChars] at h
  obtain ⟨⟨year, _⟩, -, h⟩ := bind_eq_ok_iff.1 h
  obtain ⟨_, -, h⟩ := bind_eq_ok_iff.1 h
  obtain ⟨⟨month, _⟩, hMonth, h⟩ := bind_eq_ok_iff.1 h
  obtain ⟨_, -, h⟩ := bind_eq_ok_iff.1 h
  obtain ⟨⟨day, _⟩, hDay, h⟩ := bind_eq_ok_iff.1 h
  obtain ⟨_, -, h⟩ := bind_eq_ok_iff.1 h
  obtain ⟨⟨hour, _⟩, hHour, h⟩ := bind_eq_ok_iff.1 h
  obtain ⟨_, -, h⟩ := bind_eq_ok_iff.1 h
  obtain ⟨⟨minute, _⟩, hMinute, h⟩ := bind_eq_ok_iff.1 h
  obtain ⟨_, -, h⟩ := bind_eq_ok_iff.1 h
  obtain ⟨⟨sec, _⟩, hSec, h⟩ := bind_eq_ok_iff.1 h
  obtain ⟨⟨nano, _⟩, hNano, h⟩ := bind_eq_ok_iff.1 h
  obtain ⟨⟨shift, _⟩, hShift, h⟩ := bind_eq_ok_iff.1 h
  -- what each part has been checked for when it was read
  have hMonths := field_spec hMonth
  have hDays := field_spec hDay
  have hHours := field_spec hHour
  have hMinutes := field_spec hMinute
  have hSecs := field_spec hSec
  have hNanos := fraction_spec hNano
  dsimp only at h
  split at h
  · cases h
  · split at h
    · cases h
    · next hDate =>
      split at h
      · cases h
      · next hOffset =>
        -- the year and the day of the month are checked at the end
        simp only [not_or, Int.not_lt, Nat.not_lt] at hDate
        obtain ⟨hFirst, hLast, hToDay⟩ := hDate
        split at h
        · next t' hLocal =>
          obtain rfl := Except.ok.inj h
          refine Valid.shift? ?_ (offset_spec hShift) (Nat.not_le.1 hOffset) hLocal
          refine ⟨hFirst, hLast, hMonths.1, hMonths.2, hDays.1, hToDay, ?_, ?_, ?_⟩
          · simp only [decide_eq_true_eq]
            split <;> omega
          · simp only [decide_eq_true_eq]
            split <;> omega
          · simp only [decide_eq_true_eq]
            intro hIsLeap
            -- only the second 60 is a leap second, and it is kept as 59
            by_cases hLeap : sec = 60
            · rw [if_pos hLeap]
              omega
            · rw [if_neg hLeap] at hIsLeap
              omega
        · cases h

/-! ## Legible times -/

theorem ofString_toString_of_valid (h : t.Valid) : t.Legible := by
  show ofChars (String.ofList t.toChars).toList = .ok t
  rw [String.toList_ofList]
  exact ofChars_toChars h

/-- Legible times are the times of the calendar. -/
theorem legible_iff_valid : t.Legible ↔ t.Valid :=
  ⟨fun h => valid_of_ofChars h, ofString_toString_of_valid⟩

/-- A time that is read from a value can be written and read again. -/
theorem legible_of_ofValue? {v : Value} (h : Timestamp.encoding.ofValue? v = some t) :
    t.Legible := by
  obtain ⟨text, -, hText⟩ := Option.bind_eq_some_iff.1 h
  exact legible_iff_valid.2 (valid_of_ofChars (toOption_eq_some_iff.1 hText))

end Timestamp

/-- The times of the flows that are read. -/
theorem Flow.times_of_ofValue? {flows : List Flow} {f : Flow} {v : Value}
    (h : Flow.listEncoding.ofValue? v = some flows) (hf : f ∈ flows) :
    f.createdAt.Legible ∧ f.updatedAt.Legible := by
  obtain ⟨items, -, hAll⟩ := Option.bind_eq_some_iff.1 h
  obtain ⟨w, hw⟩ := Encoding.exists_of_mem_all? hAll hf
  -- the fields are read one after another, and the times are the last two
  simp only [Flow.encoding, bind, Option.bind_eq_some_iff, Option.some.injEq] at hw
  obtain ⟨_, -, _, -, _, -, _, -, _, -, _, -, _, -, _, -, _, -, _, -, _, -, _, hCreated, _, -, _,
    hUpdated, rfl⟩ := hw
  exact ⟨Timestamp.legible_of_ofValue? hCreated, Timestamp.legible_of_ofValue? hUpdated⟩

end ChatFlow
