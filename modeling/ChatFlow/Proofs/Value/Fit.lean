import ChatFlow.Text.Basic
import ChatFlow.Value.Encoding

/-!
# ChatFlow — values that have a shape

Which values a shape expects (`Shape.Fits`), and what follows for a thing that is written as such a
value: a text format that reproduces the values of the shape gives the thing back
(`readAs_write`).

## Results

* `Encoding.Keeps`     — a thing that is written as a value of the shape and has a way back.
* `all?_map`           — the way back from a list of values.
* `readAs_write`       — a thing that is written as a text is read back.
-/

namespace ChatFlow

/-! ## Fitting -/

def Leaf.Fits : Leaf → Value → Prop
  | .word, v => ∃ n, v = .number n ∧ n < 4294967296
  | .text _ fault?, v => ∃ s, v = .text s ∧ fault? s = none

def Part.Fits : Part → Value → Prop
  | .one leaf, v => leaf.Fits v
  | .many leaf, v => ∃ items, v = .list items ∧ ∀ w ∈ items, leaf.Fits w

/-- The parts of a variant, each with its value, in order. -/
def Variant.Fits : List (String × Part) → List (String × Value) → Prop
  | [], found => found = []
  | (name, part) :: rest, found =>
    ∃ v more, found = (name, v) :: more ∧ part.Fits v ∧ Variant.Fits rest more

/-- The tag of a variant comes before its parts. -/
def Choice.Fits (c : Choice) (v : Value) : Prop :=
  ∃ variant ∈ c.variants, ∃ parts,
    v = .record ((c.key, .text variant.tag) :: parts) ∧ Variant.Fits variant.parts parts

mutual

/-- The value is one that the shape expects, with all fields present and in declared order. -/
def Shape.Fits : Shape → Value → Prop
  | .leaf leaf, v => leaf.Fits v
  | .name names, v => ∃ s ∈ names, v = .text s
  | .optional inner, v => v = .null ∨ inner.Fits v
  | .list item, v => ∃ items, v = .list items ∧ ∀ w ∈ items, item.Fits w
  | .record _ fields fault?, v => ∃ found, v = .record found ∧ fields.Fits found ∧ fault? v = none
  | .choice choice, v => choice.Fits v

def Fields.Fits : Fields → List (String × Value) → Prop
  | .nil, found => found = []
  | .cons name _ shape rest, found =>
    ∃ v more, found = (name, v) :: more ∧ shape.Fits v ∧ rest.Fits more

end

@[simp] theorem Fields.fits_nil : Fields.nil.Fits [] := rfl

theorem Fields.fits_cons {name : String} {presence : Presence} {shape : Shape} {rest : Fields}
    {v : Value} {more : List (String × Value)} (hv : shape.Fits v) (hRest : rest.Fits more) :
    (Fields.cons name presence shape rest).Fits ((name, v) :: more) :=
  ⟨v, more, rfl, hv, hRest⟩

theorem Shape.fits_list {item : Shape} {items : List Value} (h : ∀ w ∈ items, item.Fits w) :
    (Shape.list item).Fits (.list items) :=
  ⟨items, rfl, h⟩

theorem Shape.fits_record {name : String} {fields : Fields} {fault? : Value → Option String}
    {found : List (String × Value)} (h : fields.Fits found)
    (hFault : fault? (.record found) = none) :
    (Shape.record name fields fault?).Fits (.record found) :=
  ⟨found, rfl, h, hFault⟩

theorem Shape.fits_plain {name : String} {fields : Fields} {found : List (String × Value)}
    (h : fields.Fits found) : (Shape.plain name fields).Fits (.record found) :=
  fits_record h rfl

theorem Encoding.fits_anyText (s : String) : Encoding.anyText.Fits (.text s) := ⟨s, rfl, rfl⟩

theorem Encoding.fits_word (n : UInt32) : Encoding.word.Fits (.number n.toNat) :=
  ⟨n.toNat, rfl, n.toNat_lt⟩

theorem Value.word?_number (n : UInt32) : (Value.number n.toNat).word? = some n := by
  rw [Value.word?, if_pos n.toNat_lt, UInt32.ofNat_toNat]

/-! ## Encodings -/

variable {α : Type}

/-- The thing is written as a value of the shape, and the value leads back to it. -/
structure Encoding.Keeps (encoding : Encoding α) (a : α) : Prop where
  fits : encoding.shape.Fits (encoding.toValue a)
  back : encoding.ofValue? (encoding.toValue a) = some a

/-- Values of which each has a way back. -/
theorem Encoding.all?_map {toValue : α → Value} {ofValue? : Value → Option α} (as : List α)
    (h : ∀ a ∈ as, ofValue? (toValue a) = some a) :
    Encoding.all? ofValue? (.list (as.map toValue)) = some as := by
  have hAll : (as.map toValue).mapM ofValue? = some as := by
    induction as with
    | nil => rfl
    | cons a rest ih =>
      rw [List.map_cons, List.mapM_cons, h a (List.mem_cons_self ..),
        ih fun b hb => h b (List.mem_cons_of_mem a hb)]
      rfl
  exact hAll

/-- What was read as a list was read item by item. -/
theorem Encoding.exists_of_mem_all? {ofValue? : Value → Option α} {v : Value} {as : List α}
    (h : Encoding.all? ofValue? v = some as) {a : α} (ha : a ∈ as) : ∃ w, ofValue? w = some a := by
  rw [Encoding.all?] at h
  obtain ⟨items, -, hItems⟩ := Option.bind_eq_some_iff.1 h
  clear h
  -- item by item: the head is read from the first value, the others from the rest
  induction items generalizing as with
  | nil =>
    obtain rfl : [] = as := Option.some.inj hItems
    cases ha
  | cons w rest ih =>
    rw [List.mapM_cons] at hItems
    obtain ⟨b, hb, hRest⟩ := Option.bind_eq_some_iff.1 hItems
    obtain ⟨bs, hbs, hEq⟩ := Option.bind_eq_some_iff.1 hRest
    obtain rfl : b :: bs = as := Option.some.inj hEq
    rcases List.mem_cons.1 ha with rfl | hr
    · exact ⟨w, hb⟩
    · exact ih hr hbs

/-- A list of things is only read if each of them is. -/
theorem Encoding.of_all?_map {toValue : α → Value} {ofValue? : Value → Option α} {as bs : List α}
    (h : Encoding.all? ofValue? (.list (as.map toValue)) = some bs) {a : α} (ha : a ∈ as) :
    ∃ b, ofValue? (toValue a) = some b := by
  have hAll : (as.map toValue).mapM ofValue? = some bs := h
  clear h
  induction as generalizing bs with
  | nil => cases ha
  | cons c rest ih =>
    rw [List.map_cons, List.mapM_cons] at hAll
    -- the list is read only if each of its members is
    obtain ⟨b, hb, hRest⟩ := Option.bind_eq_some_iff.1 hAll
    obtain ⟨more, hMore, -⟩ := Option.bind_eq_some_iff.1 hRest
    rcases List.mem_cons.1 ha with rfl | hr
    · exact ⟨b, hb⟩
    · exact ih hr hMore

/-! ## Formats -/

/-- Every value of the shape is read back from its text, which is not blank. -/
structure TextFormat.Reproduces (format : TextFormat) (shape : Shape) : Prop where
  read_print : ∀ {v}, shape.Fits v → format.read shape (format.print v) = .ok v
  not_blank : ∀ {v}, shape.Fits v → Text.blank (format.print v) = false

/-- Moreover no text is taken for another value than the one it was written for: whatever is
written, it is not blank, and if it can be read it is read as it was written. -/
structure TextFormat.Faithful (format : TextFormat) (encoding : Encoding α) : Prop where
  reproduces : format.Reproduces encoding.shape
  not_blank : ∀ a, Text.blank (format.write encoding a) = false
  same : ∀ {a v}, format.read encoding.shape (format.write encoding a) = .ok v →
    v = encoding.toValue a

namespace TextFormat

variable {format : TextFormat} {encoding : Encoding α} {a : α}

/-- A thing that is written as a text of a reproducing format is read back from it. -/
theorem readAs_write (hFormat : format.Reproduces encoding.shape) (ha : encoding.Keeps a) :
    format.readAs encoding (format.write encoding a) = .ok a := by
  have hRead : format.read encoding.shape (format.write encoding a) =
      .ok (encoding.toValue a) :=
    hFormat.read_print ha.fits
  simp [readAs, hRead, ha.back, bind, Except.bind]

/-- The text of a thing that fits its shape is not blank. -/
theorem not_blank_write (hFormat : format.Reproduces encoding.shape) (ha : encoding.Keeps a) :
    Text.blank (format.write encoding a) = false :=
  hFormat.not_blank ha.fits

/-- What is read has a value that leads to it. -/
theorem exists_ofValue?_of_readAs {text : String} (h : format.readAs encoding text = .ok a) :
    ∃ v, encoding.ofValue? v = some a := by
  rw [readAs] at h
  -- both steps succeeded: the text was read as a value, and the value has a way back
  cases hRead : format.read encoding.shape text with
  | error e =>
    rw [hRead] at h
    cases h
  | ok v =>
    rw [hRead] at h
    cases hBack : encoding.ofValue? v with
    | none => simp [hBack, bind, Except.bind] at h
    | some b =>
      have hEq : b = a := by simpa [hBack, bind, Except.bind] using h
      exact ⟨v, hEq ▸ hBack⟩

/-- What has no way back is not read from its text. -/
theorem readAs_write_error (hFormat : format.Faithful encoding)
    (h : encoding.ofValue? (encoding.toValue a) = none) :
    ∃ e, format.readAs encoding (format.write encoding a) = .error e := by
  rw [readAs]
  -- either the text is not read at all, or as the value it was written for, which has no way back
  cases hRead : format.read encoding.shape (format.write encoding a) with
  | error e => exact ⟨e, rfl⟩
  | ok v =>
    obtain rfl := hFormat.same hRead
    exact ⟨.malformed, by simp [h, bind, Except.bind]⟩

end TextFormat

end ChatFlow
