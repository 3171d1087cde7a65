import ChatFlow.Proofs.Value.Fit

/-!
# ChatFlow — guarded formats

A text format need not reproduce every value. Under guard it does: a value that would not be read
back is written in moves instead, behind a mark that says so (`TextFormat.guarded`). All other
values are written and read as ever, so the format keeps its texts.

The moves build a value on a stack of values, in the manner of a pocket calculator: a move begins a
number, a text, a list or a record, or puts what is on top of the stack into what lies below it.

## Results

* `Moves.run_ofValue`     — the moves of a value put it on the stack.
* `guarded_reproduces`    — under guard every format reproduces the values of a shape.
* `guarded_faithful`      — under guard no text is taken for another value.
-/

namespace ChatFlow

/-! ## Moves -/

namespace Moves

/-- Each character of a text comes with the move that adds it. -/
def ofText : List Char → List Char
  | [] => []
  | c :: rest => 'c' :: c :: ofText rest

mutual

def ofValue : Value → List Char
  | .null => ['n']
  | .number n => 'z' :: List.replicate n 's'
  | .text s => 't' :: ofText s.toList
  | .list items => 'l' :: ofItems items
  | .record fields => 'r' :: ofFields fields

/-- An item goes into the list that lies below it. -/
def ofItems : List Value → List Char
  | [] => []
  | v :: rest => ofValue v ++ 'i' :: ofItems rest

/-- A name and a value go into the record that lies below them. -/
def ofFields : List (String × Value) → List Char
  | [] => []
  | (name, v) :: rest => 't' :: (ofText name.toList ++ (ofValue v ++ 'f' :: ofFields rest))

end

/-- Makes all moves, if the stack holds what they need. -/
def run : List Char → List Value → Option (List Value)
  | [], stack => some stack
  | 'n' :: rest, stack => run rest (.null :: stack)
  | 'z' :: rest, stack => run rest (.number 0 :: stack)
  | 's' :: rest, .number n :: stack => run rest (.number (n + 1) :: stack)
  | 't' :: rest, stack => run rest (.text "" :: stack)
  | 'c' :: c :: rest, .text s :: stack => run rest (.text (s.push c) :: stack)
  | 'l' :: rest, stack => run rest (.list [] :: stack)
  | 'i' :: rest, v :: .list items :: stack => run rest (.list (items ++ [v]) :: stack)
  | 'r' :: rest, stack => run rest (.record [] :: stack)
  | 'f' :: rest, v :: .text name :: .record fields :: stack =>
    run rest (.record (fields ++ [(name, v)]) :: stack)
  | _, _ => none

/-- The value that moves build on an empty stack. -/
def value? (moves : List Char) : Option Value :=
  match run moves [] with
  | some [v] => some v
  | _ => none

/-! ### What moves build -/

variable (rest : List Char) (stack : List Value)

/-- Each of the counting moves adds one to the number on top of the stack. -/
theorem run_replicate (n m : Nat) :
    run (List.replicate n 's' ++ rest) (.number m :: stack) =
      run rest (.number (m + n) :: stack) := by
  induction n generalizing m with
  | zero => rfl
  | succ n ih =>
    rw [List.replicate_succ, List.cons_append, run, ih, Nat.add_right_comm]
    rfl

/-- The moves of a text add it to the text on top of the stack. -/
theorem run_ofText (cs : List Char) (s : String) :
    run (ofText cs ++ rest) (.text s :: stack) =
      run rest (.text (s ++ String.ofList cs) :: stack) := by
  induction cs generalizing s with
  | nil => simp [ofText]
  | cons c cs ih =>
    rw [ofText, List.cons_append, List.cons_append, run, ih]
    -- a character that is pushed is the first of what is still to come
    have hText : s.push c ++ String.ofList cs = s ++ String.ofList (c :: cs) := by
      apply String.toList_inj.1
      simp
    rw [hText]

mutual

/-- The moves of a value put it on the stack, whatever lies there and whatever moves follow. -/
theorem run_ofValue (v : Value) (rest : List Char) (stack : List Value) :
    run (ofValue v ++ rest) stack = run rest (v :: stack) := by
  cases v with
  | null => rw [ofValue, List.cons_append, run, List.nil_append]
  | number n => rw [ofValue, List.cons_append, run, run_replicate, Nat.zero_add]
  | text s => rw [ofValue, List.cons_append, run, run_ofText]; simp
  | list items => rw [ofValue, List.cons_append, run, run_ofItems items, List.nil_append]
  | record fields => rw [ofValue, List.cons_append, run, run_ofFields fields, List.nil_append]

/-- The moves of items add them to the list on top of the stack, in order. -/
theorem run_ofItems (items : List Value) (rest : List Char) (stack done : List Value) :
    run (ofItems items ++ rest) (.list done :: stack) =
      run rest (.list (done ++ items) :: stack) := by
  cases items with
  | nil => rw [ofItems, List.nil_append, List.append_nil]
  | cons v more =>
    -- the item is built on top of the list and then put into it
    rw [ofItems, List.append_assoc, run_ofValue v, List.cons_append, run, run_ofItems more]
    simp

/-- The moves of fields add them to the record on top of the stack, in order. -/
theorem run_ofFields (fields : List (String × Value)) (rest : List Char) (stack : List Value)
    (done : List (String × Value)) :
    run (ofFields fields ++ rest) (.record done :: stack) =
      run rest (.record (done ++ fields) :: stack) := by
  cases fields with
  | nil => rw [ofFields, List.nil_append, List.append_nil]
  | cons field more =>
    obtain ⟨name, v⟩ := field
    -- the name is built first, then the value, and both leave the stack for the record
    rw [ofFields, List.cons_append, run, List.append_assoc, run_ofText, List.append_assoc,
      run_ofValue v, List.cons_append, run, run_ofFields more]
    simp

end

/-- The moves of a value build the value. -/
theorem value?_ofValue (v : Value) : value? (ofValue v) = some v := by
  -- after the last move the value is all there is on the stack
  have hRun : run (ofValue v) [] = some [v] := by
    rw [← List.append_nil (ofValue v), run_ofValue, run]
  rw [value?, hRun]

/-- Different values have different moves. -/
theorem ofValue_inj {v w : Value} (h : ofValue v = ofValue w) : v = w := by
  have hBack := value?_ofValue v
  rw [h, value?_ofValue] at hBack
  exact (Option.some.inj hBack).symm

end Moves

/-! ## Formats under guard -/

namespace TextFormat

/-- No text of a notation begins with this character. -/
def mark : Char := '\x00'

/-- The format reads the value back from its text, which is not blank and has no mark. -/
def readsBack (format : TextFormat) (shape : Shape) (v : Value) : Bool :=
  let text := format.print v
  let same :=
    match format.read shape text with
    | .ok w => Moves.ofValue w == Moves.ofValue v
    | .error _ => false
  same && !Text.blank text && text.toList.head? != some mark

/-- The test of the guard says what it is for, since values are equal if their moves are. -/
theorem readsBack_iff {format : TextFormat} {shape : Shape} {v : Value} :
    format.readsBack shape v = true ↔
      format.read shape (format.print v) = .ok v ∧ Text.blank (format.print v) = false ∧
        (format.print v).toList.head? ≠ some mark := by
  simp only [readsBack, Bool.and_eq_true, and_assoc, bne_iff_ne, Bool.not_eq_true']
  refine and_congr ?_ Iff.rfl
  cases format.read shape (format.print v) with
  | error e => simp
  | ok w =>
    simp only [beq_iff_eq, Except.ok.injEq]
    exact ⟨Moves.ofValue_inj, fun h => by rw [h]⟩

/-- The format for values of a shape, with the moves for those it would not read back. -/
def guarded (format : TextFormat) (shape : Shape) : TextFormat where
  print v :=
    if format.readsBack shape v then format.print v
    else String.ofList (mark :: Moves.ofValue v)
  read expected text :=
    if text.toList.head? = some mark then
      match Moves.value? text.toList.tail with
      | some v => .ok v
      | none => .error .malformed
    else format.read expected text

/-- Under guard every value is read back from its text. -/
theorem read_guarded (format : TextFormat) (shape : Shape) (v : Value) :
    (format.guarded shape).read shape ((format.guarded shape).print v) = .ok v := by
  -- either the format reads its own text back, or the moves after the mark do
  by_cases hBack : format.readsBack shape v = true
  · obtain ⟨hRead, -, hUnmarked⟩ := readsBack_iff.1 hBack
    simp only [guarded, if_pos hBack, if_neg hUnmarked]
    exact hRead
  · simp [guarded, hBack, Moves.value?_ofValue]

/-- A text without the mark is read by the format. -/
theorem read_unmarked {format : TextFormat} {shape : Shape} {text : String}
    (h : text.toList.head? ≠ some mark) (expected : Shape) :
    (format.guarded shape).read expected text = format.read expected text :=
  if_neg h

/-- If another shape is expected of a value that was written, it is read by the format, or read as
it is. -/
theorem read_print_guarded (format : TextFormat) (shape expected : Shape) (v : Value) :
    (format.guarded shape).read expected ((format.guarded shape).print v) =
        format.read expected (format.print v) ∨
      (format.guarded shape).read expected ((format.guarded shape).print v) = .ok v := by
  by_cases hBack : format.readsBack shape v = true
  · obtain ⟨-, -, hUnmarked⟩ := readsBack_iff.1 hBack
    have hPrint : (format.guarded shape).print v = format.print v := if_pos hBack
    rw [hPrint]
    exact .inl (read_unmarked hUnmarked expected)
  · exact .inr (by simp [guarded, hBack, Moves.value?_ofValue])

/-- Under guard no text is blank, since the mark is no blank either. -/
theorem not_blank_guarded (format : TextFormat) (shape : Shape) (v : Value) :
    Text.blank ((format.guarded shape).print v) = false := by
  by_cases hBack : format.readsBack shape v = true
  · obtain ⟨-, hInked, -⟩ := readsBack_iff.1 hBack
    simp only [guarded, if_pos hBack]
    exact hInked
  · have hMark : Text.isBlank mark = false := rfl
    simp [guarded, hBack, Text.blank, hMark]

/-- Under guard every format reproduces the values of a shape. -/
theorem guarded_reproduces (format : TextFormat) (shape : Shape) :
    (format.guarded shape).Reproduces shape where
  read_print _ := read_guarded format shape _
  not_blank _ := not_blank_guarded format shape _

/-- Under guard no text is taken for another value. -/
theorem guarded_faithful {α : Type} (format : TextFormat) (encoding : Encoding α) :
    (format.guarded encoding.shape).Faithful encoding where
  reproduces := guarded_reproduces format encoding.shape
  not_blank a := not_blank_guarded format encoding.shape (encoding.toValue a)
  same h := (Except.ok.inj ((read_guarded format encoding.shape _).symm.trans h)).symm

end TextFormat

end ChatFlow
