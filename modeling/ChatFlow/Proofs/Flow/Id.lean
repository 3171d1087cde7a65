import ChatFlow.Flow.Id

/-!
# ChatFlow — flow ids read back

An id that is written is read back (`ofString_toString`). Its digits are read one by one from the
front while they were written from the back; the hyphens are where the reader looks for them, and
no digit is a hyphen.

## Results

* `ofHex?_hexDigits`     — the digits of a number.
* `filter_hyphenate`     — the digits between the hyphens.
* `ofString_toString`    — ids.
-/

namespace ChatFlow.FlowId

/-! ## Digits -/

theorem hexValue?_hexDigit : ∀ d < 16, hexValue? (hexDigit d) = some d := by decide

theorem utf8Size_hexDigit : ∀ d < 16, (hexDigit d).utf8Size = 1 := by decide

/-- No digit is a hyphen, so the hyphens can be told from the digits. -/
theorem hexDigit_ne_hyphen : ∀ d < 16, hexDigit d ≠ '-' := by decide

theorem length_hexDigits (count n : Nat) : (hexDigits count n).length = count := by
  induction count generalizing n with
  | zero => rfl
  | succ count ih => simp [hexDigits, ih]

/-- Only digits are written. -/
theorem exists_of_mem_hexDigits {count n : Nat} {c : Char} (h : c ∈ hexDigits count n) :
    ∃ d < 16, c = hexDigit d := by
  induction count generalizing n with
  | zero => simp [hexDigits] at h
  | succ count ih =>
    rcases List.mem_append.1 h with hFront | hLast
    · exact ih hFront
    · exact ⟨n % 16, Nat.mod_lt n (by decide), List.mem_singleton.1 hLast⟩

/-- The digits of a number that has no more of them denote the number. -/
theorem ofHex?_hexDigits {count n : Nat} (h : n < Nat.pow 16 count) :
    ofHex? (hexDigits count n) = some n := by
  induction count generalizing n with
  | zero =>
    have hZero : n = 0 := Nat.lt_one_iff.1 h
    rw [hZero]
    rfl
  | succ count ih =>
    -- the digits in front denote the number without its last digit
    have hFront : n / 16 < Nat.pow 16 count := Nat.div_lt_of_lt_mul (by
      rw [Nat.mul_comm]
      exact h)
    have hDigit : n % 16 < 16 := Nat.mod_lt n (by decide)
    have hRead := ih hFront
    -- the last digit is read last
    rw [ofHex?] at hRead ⊢
    rw [hexDigits, List.foldlM_append, hRead]
    simp [hexValue?_hexDigit _ hDigit, Nat.div_add_mod]

/-! ## Hyphens -/

/-- The hyphens add four characters to the 32 digits. -/
theorem length_hyphenate {digits : List Char} (h : digits.length = 32) :
    (hyphenate digits).length = 36 := by
  simp [hyphenate, h]

/-- A hyphenated id has hyphens and its digits only. -/
theorem mem_hyphenate {digits : List Char} {c : Char} (h : c ∈ hyphenate digits) :
    c = '-' ∨ c ∈ digits := by
  simp only [hyphenate, List.mem_append, List.mem_cons] at h
  -- five pieces of the digits and the four hyphens between them
  rcases h with h | h | h | h | h | h | h | h | h
  · exact Or.inr (List.mem_of_mem_take h)
  · exact Or.inl h
  · exact Or.inr (List.mem_of_mem_drop (List.mem_of_mem_take h))
  · exact Or.inl h
  · exact Or.inr (List.mem_of_mem_drop (List.mem_of_mem_take h))
  · exact Or.inl h
  · exact Or.inr (List.mem_of_mem_drop (List.mem_of_mem_take h))
  · exact Or.inl h
  · exact Or.inr (List.mem_of_mem_drop h)

/-- The pieces between the hyphens are the digits. -/
theorem append_pieces (digits : List Char) :
    digits.take 8 ++ ((digits.drop 8).take 4 ++ ((digits.drop 12).take 4 ++
      ((digits.drop 16).take 4 ++ digits.drop 20))) = digits := by
  have hPiece : ∀ n, (digits.drop n).take 4 ++ digits.drop (n + 4) = digits.drop n := by
    intro n
    rw [← List.drop_drop, List.take_append_drop]
  rw [hPiece 16, hPiece 12, hPiece 8, List.take_append_drop]

/-- Without the hyphens, the digits are left in order. -/
theorem filter_hyphenate {digits : List Char} (h : ∀ c ∈ digits, c ≠ '-') :
    (hyphenate digits).filter (· ≠ '-') = digits := by
  -- the pieces of the digits have no hyphen to lose
  have hTake : ∀ n, (digits.take n).filter (· ≠ '-') = digits.take n := by
    intro n
    refine List.filter_eq_self.2 fun c hc => ?_
    simpa using h c (List.mem_of_mem_take hc)
  have hDrop : ∀ n, (digits.drop n).filter (· ≠ '-') = digits.drop n := by
    intro n
    refine List.filter_eq_self.2 fun c hc => ?_
    simpa using h c (List.mem_of_mem_drop hc)
  have hPiece : ∀ n, ((digits.drop n).take 4).filter (· ≠ '-') = (digits.drop n).take 4 := by
    intro n
    refine List.filter_eq_self.2 fun c hc => ?_
    simpa using h c (List.mem_of_mem_drop (List.mem_of_mem_take hc))
  have hHyphen : ∀ rest : List Char, ('-' :: rest).filter (· ≠ '-') = rest.filter (· ≠ '-') :=
    fun _ => rfl
  -- without the hyphens the pieces follow one another as they were cut
  rw [hyphenate, List.filter_append, hHyphen, List.filter_append, hHyphen, List.filter_append,
    hHyphen, List.filter_append, hHyphen, hTake, hPiece, hPiece, hPiece, hDrop, append_pieces]

/-- The hyphens are where the reader looks for them. -/
theorem hyphens_in_place {digits : List Char} (h : digits.length = 32) :
    [8, 13, 18, 23].all (fun i => (hyphenate digits)[i]? == some '-') = true := by
  simp [hyphenate, h, List.getElem?_append, List.getElem?_cons]

/-- A text of characters of one octet has as many octets as characters. -/
theorem utf8Length_eq_length {cs : List Char} (h : ∀ c ∈ cs, c.utf8Size = 1) :
    utf8Length cs = cs.length := by
  induction cs with
  | nil => rfl
  | cons c rest ih =>
    have hRest := ih fun d hd => h d (List.mem_cons_of_mem c hd)
    rw [utf8Length] at hRest ⊢
    rw [List.foldr_cons, hRest, h c (List.mem_cons_self ..), List.length_cons, Nat.add_comm]

/-! ## Ids -/

/-- An id that is written is read back. -/
theorem ofString_toString (id : FlowId) : ofString (toString id) = .ok id := by
  have hLength := length_hexDigits 32 id.bits.toNat
  have hDigits : ∀ c ∈ hexDigits 32 id.bits.toNat, c ≠ '-' ∧ c.utf8Size = 1 := by
    intro c hc
    obtain ⟨d, hd, rfl⟩ := exists_of_mem_hexDigits hc
    exact ⟨hexDigit_ne_hyphen d hd, utf8Size_hexDigit d hd⟩
  -- a text of 36 octets is read as a hyphenated id
  have hSize : utf8Length id.toChars = 36 := by
    rw [toChars, utf8Length_eq_length, length_hyphenate hLength]
    intro c hc
    rcases mem_hyphenate hc with rfl | hDigit
    · rfl
    · exact (hDigits c hDigit).2
  -- 32 digits hold every id, since it has 128 bits
  have hNumber : ofHex? (hexDigits 32 id.bits.toNat) = some id.bits.toNat :=
    ofHex?_hexDigits id.bits.isLt
  have hRead : ofHyphenated? id.toChars = some id := by
    rw [ofHyphenated?, if_pos ⟨length_hyphenate hLength, hyphens_in_place hLength⟩, toChars,
      filter_hyphenate fun c hc => (hDigits c hc).1, ofSimple?, if_pos hLength, hNumber]
    simp
  have hText : (toString id).toList = id.toChars := String.toList_ofList
  rw [ofString, hText, ofChars, hyphenatedPart?, hSize]
  simp [hRead]

end ChatFlow.FlowId
