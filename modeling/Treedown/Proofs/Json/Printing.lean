import Treedown.Proofs.Json.Literal
import Treedown.Json.Reading
/-!
# JSON — a printed value is read back

The compact text of a value is cut into the row of tokens that spells the
value (`tokens_print`), and the machine turns that row into the complete
reading of the value (`run_row`). Together they say that a printed text is
read to its end and without a flaw (`read_print`). Numbers are restricted
to whole ones of 64 bits: binary numbers are printed and read with
roundings of their own.
-/

namespace Treedown.Json

/-! ## Values, rows and readings -/

mutual

/-- All numbers of a value are whole ones of 64 bits. -/
def Whole : Json → Prop
  | .number (.natural n) => n < wordBound
  | .number _ => False
  | .list items => WholeItems items
  | .object members => WholeMembers members
  | _ => True

/-- The same of values one after the other. -/
def WholeItems : List Json → Prop
  | [] => True
  | item :: rest => Whole item ∧ WholeItems rest

/-- The same of the values of members. -/
def WholeMembers : List (Text × Json) → Prop
  | [] => True
  | (_, value) :: rest => Whole value ∧ WholeMembers rest

end

mutual

/-- **The row of tokens that spells a value.** -/
def row : Json → List Token
  | .null => [.null]
  | .bool b => [.bool b]
  | .number n => [.number (.ok n)]
  | .string s => [.string (.ok s)]
  | .list items => .openList :: (rowItems items ++ [.closeList])
  | .object members => .openObject :: (rowMembers members ++ [.closeObject])

/-- The rows of items with commas between them. -/
def rowItems : List Json → List Token
  | [] => []
  | [item] => row item
  | item :: more => row item ++ .comma :: rowItems more

/-- The rows of members with commas between them. -/
def rowMembers : List (Text × Json) → List Token
  | [] => []
  | [(key, value)] => .string (.ok key) :: .colon :: row value
  | (key, value) :: more => .string (.ok key) :: .colon :: (row value ++ .comma :: rowMembers more)

end

mutual

/-- **A value as a complete reading.** -/
def reading : Json → Reading
  | .null => .null
  | .bool b => .bool b
  | .number n => .number (.ok n)
  | .string s => .string (.ok s)
  | .list items => .list (readings items) none
  | .object members => .object (memberReadings members) none

/-- Values as complete readings. -/
def readings : List Json → List Reading
  | [] => []
  | item :: rest => reading item :: readings rest

/-- Members with their values as complete readings. -/
def memberReadings : List (Text × Json) → List (Key × Reading)
  | [] => []
  | (key, value) :: rest => (.ok key, reading value) :: memberReadings rest

end

/-! ## Cutting a printed text into tokens -/

theorem tokens_cons {c : Char} (rest : List Char) (h : isSpace c = false) :
    tokens (c :: rest) = (tokenAt c rest).1 :: tokens (tokenAt c rest).2 := by
  have htoken : token (c :: rest) = some (tokenAt c rest) := by
    rw [token, List.dropWhile_cons_of_neg (by simp [h])]
  rw [tokens]
  split
  · rename_i hnone
    rw [htoken] at hnone
    cases hnone
  · rename_i t after hsome
    rw [htoken, Option.some.injEq] at hsome
    rw [hsome]

theorem ne_of_isDigit {c d : Char} (h : c.isDigit = true) (hd : d.isDigit = false) : c ≠ d := by
  rintro rfl
  rw [h] at hd
  cases hd

theorem tokenAt_digit {c : Char} (rest : List Char) (h : c.isDigit = true) :
    tokenAt c rest = numberToken (c :: rest) := by
  have hne (d : Char) (hd : d.isDigit = false) : c ≠ d := ne_of_isDigit h hd
  simp only [tokenAt, hne '[' rfl, hne ']' rfl, hne '\x7b' rfl, hne '\x7d' rfl, hne ',' rfl,
    hne ':' rfl, hne '"' rfl, hne 'n' rfl, hne 't' rfl, hne 'f' rfl, h, if_false, or_true, if_true]

theorem tokens_ofNat {n : Nat} (hn : n < wordBound) {rest : List Char} (h : EndsNumber rest) :
    tokens (Text.ofNat n ++ rest) = .number (.ok (.natural n)) :: tokens rest := by
  obtain ⟨c, digits, hdigits⟩ := List.exists_cons_of_ne_nil (Nat.toDigits_ne_nil (n := n) (b := 10))
  have hc : c.isDigit = true := isDigit_of_mem_ofNat (n := n) (by
    rw [Text.ofNat, hdigits]
    exact List.mem_cons_self)
  have hspace : isSpace c = false := by
    simp only [isSpace, Bool.or_eq_false_iff, beq_eq_false_iff_ne]
    exact ⟨⟨⟨ne_of_isDigit hc (by decide), ne_of_isDigit hc (by decide)⟩,
      ne_of_isDigit hc (by decide)⟩, ne_of_isDigit hc (by decide)⟩
  have hnumber := numberToken_print hn h
  rw [Text.ofNat, hdigits, List.cons_append] at hnumber ⊢
  rw [tokens_cons _ hspace, tokenAt_digit _ hc, hnumber]

theorem tokens_printString (s : Text) (rest : List Char) :
    tokens (printString s ++ rest) = .string (.ok s) :: tokens rest := by
  have hstring : tokenAt '"' (s.flatMap escape ++ '"' :: rest) = (.string (.ok s), rest) :=
    stringToken_print s rest
  rw [printString, List.append_assoc, List.append_assoc, List.singleton_append,
    List.singleton_append, tokens_cons _ (by decide), hstring]

/-- What separates values ends a number. -/
theorem endsNumber_cons {c : Char} (rest : List Char)
    (h : c.isDigit = false ∧ c ≠ '.' ∧ c ≠ 'e' ∧ c ≠ 'E') : EndsNumber (c :: rest) := by
  intro d hd
  rwa [← Option.some.inj hd]

theorem endsNumber_nil : EndsNumber [] := fun _ hc => nomatch hc

mutual

/-- **A printed value is cut into the row that spells it.** -/
theorem tokens_print (j : Json) (hj : Whole j) {rest : List Char} (h : EndsNumber rest) :
    tokens (print j ++ rest) = row j ++ tokens rest := by
  match j with
  | .null => exact tokens_cons _ (by decide)
  | .bool true => exact tokens_cons _ (by decide)
  | .bool false => exact tokens_cons _ (by decide)
  | .number (.natural n) => exact tokens_ofNat hj h
  | .string s => exact tokens_printString s rest
  | .list items =>
    rw [Whole] at hj
    rw [print, row, List.append_assoc, List.append_assoc, List.singleton_append,
      List.singleton_append, tokens_cons _ (by decide)]
    have hopen : tokenAt '[' (printItems items ++ ']' :: rest) =
      (.openList, printItems items ++ ']' :: rest) := rfl
    have hclose : tokens (']' :: rest) = .closeList :: tokens rest := tokens_cons _ (by decide)
    rw [hopen, tokens_printItems items hj (endsNumber_cons rest (by decide)), hclose]
    simp
  | .object members =>
    rw [Whole] at hj
    rw [print, row, List.append_assoc, List.append_assoc, List.singleton_append,
      List.singleton_append, tokens_cons _ (by decide)]
    have hopen : tokenAt '\x7b' (printMembers members ++ '\x7d' :: rest) =
      (.openObject, printMembers members ++ '\x7d' :: rest) := rfl
    have hclose : tokens ('\x7d' :: rest) = .closeObject :: tokens rest :=
      tokens_cons _ (by decide)
    rw [hopen, tokens_printMembers members hj (endsNumber_cons rest (by decide)), hclose]
    simp

theorem tokens_printItems (items : List Json) (hitems : WholeItems items) {rest : List Char}
    (h : EndsNumber rest) : tokens (printItems items ++ rest) = rowItems items ++ tokens rest := by
  match items with
  | [] => rfl
  | [item] => exact tokens_print item hitems.1 h
  | item :: next :: more =>
    have hcomma : tokens (',' :: (printItems (next :: more) ++ rest)) =
      .comma :: tokens (printItems (next :: more) ++ rest) := tokens_cons _ (by decide)
    rw [printItems, rowItems, List.append_assoc, List.append_assoc, List.singleton_append,
      tokens_print item hitems.1 (endsNumber_cons _ (by decide)), hcomma,
      tokens_printItems (next :: more) hitems.2 h]
    · simp
    · simp
    · simp

theorem tokens_printMembers (members : List (Text × Json)) (hmembers : WholeMembers members)
    {rest : List Char} (h : EndsNumber rest) :
    tokens (printMembers members ++ rest) = rowMembers members ++ tokens rest := by
  match members with
  | [] => rfl
  | [(key, value)] =>
    have hcolon : tokens (':' :: (print value ++ rest)) = .colon :: tokens (print value ++ rest) :=
      tokens_cons _ (by decide)
    rw [printMembers, rowMembers, List.append_assoc, List.append_assoc, List.singleton_append,
      tokens_printString, hcolon, tokens_print value hmembers.1 h]
    rfl
  | (key, value) :: next :: more =>
    have hcolon (t : List Char) : tokens (':' :: t) = .colon :: tokens t :=
      tokens_cons _ (by decide)
    have hcomma (t : List Char) : tokens (',' :: t) = .comma :: tokens t :=
      tokens_cons _ (by decide)
    rw [printMembers, rowMembers]
    · simp only [List.append_assoc, List.cons_append, List.nil_append]
      rw [tokens_printString, hcolon, tokens_print value hmembers.1 (endsNumber_cons _ (by decide)),
        hcomma, tokens_printMembers (next :: more) hmembers.2 h]
    · simp
    · simp

end

theorem tokens_print_self {j : Json} (hj : Whole j) : tokens (print j) = row j := by
  have hprint := tokens_print j hj endsNumber_nil
  rw [List.append_nil] at hprint
  rw [hprint, tokens]
  exact List.append_nil _

/-! ## The machine on the row of a value -/

/-- What the machine comes to after a step. -/
def resume (s : Step) (ts : List Token) : Reading × List Token :=
  match s with
  | .proceed want stack => run want stack ts
  | .complete r => (r, ts)
  | .halted r => (r, [])

theorem resume_proceed (want : Want) (stack : List Frame) (ts : List Token) :
    resume (.proceed want stack) ts = run want stack ts := rfl

theorem settle_list (r : Reading) (items : List Reading) (stack : List Frame) :
    settle r (.list items :: stack) = .proceed .more (.list (r :: items) :: stack) := rfl

theorem settle_member (r : Reading) (members : List (Key × Reading)) (key : Key)
    (stack : List Frame) : settle r (.member members key :: stack) =
      .proceed .more (.object ((key, r) :: members) :: stack) := rfl

theorem run_cons (want : Want) (stack : List Frame) (t : Token) (ts : List Token) :
    run want stack (t :: ts) = resume (step want stack t) ts := by
  rw [run]
  cases step want stack t <;> rfl

/-- The places in which a value may stand. -/
def TakesValue (want : Want) : Prop :=
  want = .value ∨ want = .firstItem

theorem step_eq_stepValue {want : Want} (h : TakesValue want) {t : Token} (ht : t ≠ .closeList)
    (stack : List Frame) : step want stack t = stepValue stack t := by
  rcases h with rfl | rfl
  · cases t <;> rfl
  · cases t <;> first | rfl | exact absurd rfl ht

mutual

/-- **The machine reads the row of a value to its end**, and what it has read
is the complete reading of that value. -/
theorem run_row (j : Json) {want : Want} (h : TakesValue want) (stack : List Frame)
    (ts : List Token) :
    run want stack (row j ++ ts) = resume (settle (reading j) stack) ts := by
  match j with
  | .null =>
    rw [row, List.singleton_append, run_cons, step_eq_stepValue h Token.noConfusion]
    rfl
  | .bool b =>
    rw [row, List.singleton_append, run_cons, step_eq_stepValue h Token.noConfusion]
    rfl
  | .number n =>
    rw [row, List.singleton_append, run_cons, step_eq_stepValue h Token.noConfusion]
    rfl
  | .string s =>
    rw [row, List.singleton_append, run_cons, step_eq_stepValue h Token.noConfusion]
    rfl
  | .list [] =>
    rw [row, List.cons_append, run_cons, step_eq_stepValue h Token.noConfusion]
    rfl
  | .list (item :: more) =>
    rw [row, List.cons_append, run_cons, step_eq_stepValue h Token.noConfusion, List.append_assoc]
    exact run_rowItems (item :: more) (List.cons_ne_nil _ _) (.inr rfl) [] stack ts
  | .object [] =>
    rw [row, List.cons_append, run_cons, step_eq_stepValue h Token.noConfusion]
    rfl
  | .object ((key, value) :: more) =>
    rw [row, List.cons_append, run_cons, step_eq_stepValue h Token.noConfusion, List.append_assoc]
    exact run_rowMembers ((key, value) :: more) (List.cons_ne_nil _ _) (.inr rfl) [] stack ts

/-- The items of a list, behind those that were read before. -/
theorem run_rowItems (items : List Json) (hne : items ≠ []) {want : Want} (h : TakesValue want)
    (done : List Reading) (stack : List Frame) (ts : List Token) :
    run want (.list done :: stack) (rowItems items ++ .closeList :: ts) =
      resume (settle (.list (done.reverse ++ readings items) none) stack) ts := by
  match items with
  | [item] =>
    have hend : step .more (.list (reading item :: done) :: stack) .closeList =
      settle (.list (reading item :: done).reverse none) stack := rfl
    rw [rowItems, run_row item h, settle_list, resume_proceed, run_cons, hend, List.reverse_cons,
      readings, readings]
  | item :: next :: rest =>
    have hcomma : step .more (.list (reading item :: done) :: stack) .comma =
      .proceed .value (.list (reading item :: done) :: stack) := rfl
    have hrow : rowItems (item :: next :: rest) = row item ++ .comma :: rowItems (next :: rest) := by
      rw [rowItems]
      simp
    rw [hrow, List.append_assoc, run_row item h, settle_list, resume_proceed, List.cons_append,
      run_cons, hcomma, resume_proceed, run_rowItems (next :: rest) (List.cons_ne_nil _ _)
        (.inl rfl), List.reverse_cons, List.append_assoc, List.singleton_append]
    rfl

/-- The members of an object, behind those that were read before. -/
theorem run_rowMembers (members : List (Text × Json)) (hne : members ≠ []) {want : Want}
    (h : want = .key ∨ want = .firstKey) (done : List (Key × Reading)) (stack : List Frame)
    (ts : List Token) :
    run want (.object done :: stack) (rowMembers members ++ .closeObject :: ts) =
      resume (settle (.object (done.reverse ++ memberReadings members) none) stack) ts := by
  -- the four steps of a member: its key, the colon, the value, and what closes it
  have hkey (key : Text) : step want (.object done :: stack) (.string (.ok key)) =
      .proceed .colon (.member done (.ok key) :: stack) := by
    rcases h with rfl | rfl <;> rfl
  have hcolon (key : Text) : step .colon (.member done (.ok key) :: stack) .colon =
      .proceed .value (.member done (.ok key) :: stack) := rfl
  match members with
  | [(key, value)] =>
    have hend : step .more (.object ((.ok key, reading value) :: done) :: stack) .closeObject =
      settle (.object ((.ok key, reading value) :: done).reverse none) stack := rfl
    rw [rowMembers, List.cons_append, List.cons_append, run_cons, hkey, resume_proceed, run_cons,
      hcolon, resume_proceed, run_row value (.inl rfl), settle_member, resume_proceed, run_cons,
      hend, List.reverse_cons, memberReadings, memberReadings]
  | (key, value) :: (nextKey, next) :: rest =>
    have hcomma : step .more (.object ((.ok key, reading value) :: done) :: stack) .comma =
      .proceed .key (.object ((.ok key, reading value) :: done) :: stack) := rfl
    have hrow : rowMembers ((key, value) :: (nextKey, next) :: rest) = .string (.ok key) ::
        .colon :: (row value ++ .comma :: rowMembers ((nextKey, next) :: rest)) := by
      rw [rowMembers]
      simp
    rw [hrow, List.cons_append, List.cons_append, run_cons, hkey, resume_proceed, run_cons,
      hcolon, resume_proceed, List.append_assoc, run_row value (.inl rfl), settle_member,
      resume_proceed, List.cons_append, run_cons, hcomma, resume_proceed,
      run_rowMembers ((nextKey, next) :: rest) (List.cons_ne_nil _ _) (.inl rfl),
      List.reverse_cons, List.append_assoc, List.singleton_append]
    rfl

end

/-- **A printed value is read to its end**, and nothing stands behind it. -/
theorem read_print (j : Json) (hj : Whole j) : read (print j) = (reading j, false) := by
  have hrun : run .value [] (row j) = (reading j, []) := by
    have := run_row j (.inl rfl) [] []
    rwa [List.append_nil] at this
  rw [read, tokens_print_self hj, hrun]
  rfl

end Treedown.Json
