import Treedown.Node.Basic
import Treedown.Proofs.Markup.Picture
import Treedown.Proofs.Text.Lines
import Treedown.Proofs.Text.Trim
/-!
# Markup — the parameters of a macro, written and read

The parameters of an image macro stand between its brackets with commas
between them. A parameter may have a name, and its value may stand in
quotes. `Value` and `Parameter` are what can be written so that it is read
as what it is: their conditions say when it would not. Written parameters
are read back one by one, and reading them is writing them into the
attributes of a node (`put_eq_readParameters`).

An empty list of parameters cannot be told from a single empty one. The
attributes differ, but not the picture (`pictureOf_parameters`).
-/

namespace Treedown

namespace Markup

/-! ## Values -/

/-- The characters that may stand around a value. -/
def IsQuote (c : Char) : Prop :=
  c = '"' ∨ c = '\''

instance (c : Char) : Decidable (IsQuote c) :=
  inferInstanceAs (Decidable (_ ∨ _))

/-- The text stands in quotes, the same in front and behind. -/
def InQuotes (t : Text) : Prop :=
  ∃ mark inner, IsQuote mark ∧ t = mark :: (inner ++ [mark])

/-- The text ends neither a parameter nor the list of them. -/
def IsInside (t : Text) : Prop :=
  ',' ∉ t ∧ ']' ∉ t

instance (t : Text) : Decidable (IsInside t) :=
  inferInstanceAs (Decidable (_ ∧ _))

/-- **A value as it is written**: in quotes, or bare and then without white
space at its ends and without quotes that would be taken off. -/
inductive Value
  | quoted (mark : Char) (inner : Text) (hmark : IsQuote mark) (hinside : IsInside inner)
  | bare (t : Text) (htrim : t.trim = t) (hbare : ¬ InQuotes t) (hinside : IsInside t)

theorem not_inQuotes_nil : ¬ InQuotes [] := by
  rintro ⟨mark, inner, -, ht⟩
  cases ht

/-- A text that begins with something else is not in quotes. -/
theorem not_inQuotes_cons {c : Char} (hc : c ≠ '"' ∧ c ≠ '\'') (rest : Text) :
    ¬ InQuotes (c :: rest) := by
  rintro ⟨mark, inner, hmark, ht⟩
  obtain rfl := (List.cons.inj ht).1
  exact hmark.elim hc.1 hc.2

namespace Value

/-- The value as it stands between commas. -/
def written : Value → Text
  | quoted mark inner _ _ => mark :: (inner ++ [mark])
  | bare t _ _ _ => t

/-- What the value says. -/
def text : Value → Text
  | quoted _ inner _ _ => inner
  | bare t _ _ _ => t

end Value

theorem IsQuote.isBlank_eq_false {c : Char} (h : IsQuote c) : isBlank c = false := by
  rcases h with rfl | rfl <;> decide

/-- The quotes around a value end nothing either. -/
theorem isInside_written (v : Value) : IsInside v.written := by
  cases v with
  | quoted mark inner hmark hinside =>
    have hne : mark ≠ ',' ∧ mark ≠ ']' := by
      rcases hmark with rfl | rfl <;> decide
    simp only [IsInside, Value.written, List.mem_cons, List.mem_append, List.not_mem_nil, or_false,
      not_or]
    exact ⟨⟨hne.1.symm, hinside.1, hne.1.symm⟩, hne.2.symm, hinside.2, hne.2.symm⟩
  | bare t htrim hbare hinside => exact hinside

theorem trim_written (v : Value) : v.written.trim = v.written := by
  cases v with
  | quoted mark inner hmark hinside =>
    have hblank := hmark.isBlank_eq_false
    rw [Value.written, Text.trim, List.dropWhile_cons_of_neg (by simp [hblank]),
      ← List.cons_append]
    exact Text.dropEndWhile_concat _ hblank
  | bare t htrim hbare hinside => exact htrim

/-- **A value is read as what it says.** -/
theorem unquote_written (v : Value) : unquote v.written = v.text := by
  cases v with
  | quoted mark inner hmark hinside =>
    have hlast : (inner ++ [mark]).getLast? = some mark := List.getLast?_concat
    rw [Value.written, unquote, if_pos ⟨hmark, hlast⟩, List.dropLast_concat]
    rfl
  | bare t htrim hbare hinside =>
    rw [Value.written, Value.text]
    cases t with
    | nil => rfl
    | cons q rest =>
      rw [unquote, if_neg]
      -- quotes are taken off only where a value stands in them
      rintro ⟨hq, hlast⟩
      have hne : rest ≠ [] := by
        rintro rfl
        cases hlast
      rw [List.getLast?_eq_some_getLast hne, Option.some.injEq] at hlast
      refine hbare ⟨q, rest.dropLast, hq, ?_⟩
      rw [← hlast, List.dropLast_concat_getLast hne]

/-! ## Parameters -/

/-- The text would be read as a name and a value. -/
def ReadsNamed (t : Text) : Prop :=
  ∃ key value, t = key ++ '=' :: value ∧ isName key.trim = true

theorem not_readsNamed_of_not_mem {t : Text} (h : '=' ∉ t) : ¬ ReadsNamed t := by
  rintro ⟨key, value, rfl, -⟩
  exact h (List.mem_append_right _ List.mem_cons_self)

/-- **A parameter as it is written**, with a name or without. A bare value
stands alone only where it does not read as one with a name. -/
inductive Parameter
  | named (key : Text) (value : Value) (hkey : isName key = true)
  | positional (value : Value) (hvalue : InQuotes value.written ∨ ¬ ReadsNamed value.written)

namespace Parameter

/-- The parameter as it stands between commas. -/
def written : Parameter → Text
  | named key value _ => key ++ '=' :: value.written
  | positional value _ => value.written

/-- **The node with parameters written into its attributes**, in their order.
`position` counts the values without a name. -/
def put (node : Node) (position : Nat) : List Parameter → Node
  | [] => node
  | named key value _ :: rest => put (node.setAttribute key value.text) position rest
  | positional value _ :: rest => put (node.setPositional position value.text) (position + 1) rest

end Parameter

/-! ## Names -/

/-- A letter or a digit is no white space. -/
theorem isBlank_of_isAlphanum {c : Char} (h : c.isAlphanum = true) : isBlank c = false := by
  have hblanks : blanks.all (fun c => !c.isAlphanum) = true := by decide
  rw [← Bool.not_eq_true]
  intro hblank
  have hnot : (!c.isAlphanum) = true := of_isBlank hblanks hblank
  rw [h] at hnot
  cases hnot

/-- **What stands in a name.** -/
theorem of_mem_of_isName {key : Text} (h : isName key = true) {c : Char} (hc : c ∈ key) :
    c.isAlphanum = true ∨ c = '-' ∨ c = '_' := by
  rw [isName, Bool.and_eq_true, List.all_eq_true] at h
  simpa [or_assoc] using h.2 c hc

theorem ne_nil_of_isName {key : Text} (h : isName key = true) : key ≠ [] := by
  rintro rfl
  cases h

theorem isBlank_of_mem_of_isName {key : Text} (h : isName key = true) {c : Char} (hc : c ∈ key) :
    isBlank c = false := by
  rcases of_mem_of_isName h hc with halphanum | rfl | rfl
  · exact isBlank_of_isAlphanum halphanum
  · decide
  · decide

theorem not_mem_of_isName {key : Text} (h : isName key = true) {c : Char}
    (hc : c.isAlphanum = false ∧ c ≠ '-' ∧ c ≠ '_') : c ∉ key := by
  intro hmem
  rcases of_mem_of_isName h hmem with halphanum | hdash | hline
  · rw [hc.1] at halphanum
    cases halphanum
  · exact hc.2.1 hdash
  · exact hc.2.2 hline

/-- A name is its own trim, since it holds no white space. -/
theorem trim_of_isName {key : Text} (h : isName key = true) : key.trim = key := by
  have hkeep : ∀ c ∈ key, ¬ isBlank c = true := fun c hc =>
    Bool.not_eq_true _ ▸ isBlank_of_mem_of_isName h hc
  have hfront : key.dropWhile isBlank = key :=
    List.dropWhile_eq_self_iff.2 fun hpos => hkeep _ (List.getElem_mem hpos)
  obtain ⟨run, hrun, hkey⟩ := Text.dropEndWhile_append_run isBlank key
  have hnil : run = [] := by
    rw [List.eq_nil_iff_forall_not_mem]
    intro c hc
    exact hkeep c (by rw [hkey]; exact List.mem_append_right _ hc) (hrun c hc)
  rw [Text.trim, hfront, Text.trimEnd]
  rw [hnil, List.append_nil] at hkey
  exact hkey.symm

/-! ## Reading what is written -/

theorem Parameter.isInside_written (p : Parameter) : IsInside p.written := by
  cases p with
  | named key value hkey =>
    have hvalue := Markup.isInside_written value
    simp only [IsInside, written, List.mem_append, List.mem_cons, not_or]
    exact ⟨⟨not_mem_of_isName hkey (by decide), by decide, hvalue.1⟩,
      not_mem_of_isName hkey (by decide), by decide, hvalue.2⟩
  | positional value hvalue => exact Markup.isInside_written value

/-- White space stands at neither end of a parameter. -/
theorem Parameter.trim_written (p : Parameter) : p.written.trim = p.written := by
  cases p with
  | named key value hkey =>
    obtain ⟨c, rest, hcons⟩ := List.exists_cons_of_ne_nil (ne_nil_of_isName hkey)
    have hc : isBlank c = false :=
      isBlank_of_mem_of_isName hkey (by rw [hcons]; exact List.mem_cons_self)
    have hfront : (key ++ '=' :: value.written).dropWhile isBlank = key ++ '=' :: value.written := by
      rw [hcons, List.cons_append, List.dropWhile_cons_of_neg (by simp [hc])]
    have hvalue := Text.trimEnd_eq_self_of_trim (Markup.trim_written value)
    rw [written, Text.trim, hfront, Text.trimEnd_append_cons key _ (by decide), hvalue]
  | positional value hvalue => exact Markup.trim_written value

/-- **A parameter with a name is read as the name and what the value says.** -/
theorem namedParameter?_named {key : Text} (value : Value) (hkey : isName key = true) :
    namedParameter? (key ++ '=' :: value.written) = some (key, value.text) := by
  have hcut : Text.cutAt '=' (key ++ '=' :: value.written) = some (key, value.written) :=
    Text.cutAt_eq_some_iff.2 ⟨not_mem_of_isName hkey (by decide), rfl⟩
  simp only [namedParameter?, hcut, trim_of_isName hkey, hkey, if_true, trim_written,
    unquote_written]

/-- A text in quotes has no name in front: what stands before its equality
sign begins with the quote. -/
theorem not_readsNamed_of_inQuotes {t : Text} (h : InQuotes t) : ¬ ReadsNamed t := by
  obtain ⟨mark, inner, hmark, rfl⟩ := h
  rintro ⟨key, value, ht, hname⟩
  have hne : mark ≠ '=' := by
    rcases hmark with rfl | rfl <;> decide
  cases key with
  | nil => exact hne (List.cons.inj ht).1
  | cons c key =>
    obtain rfl := (List.cons.inj ht).1
    have htrim : Text.trim (mark :: key) = mark :: Text.trimEnd key := by
      rw [Text.trim, List.dropWhile_cons_of_neg (by simp [hmark.isBlank_eq_false])]
      exact Text.trimEnd_append_cons [] key hmark.isBlank_eq_false
    rw [htrim] at hname
    refine not_mem_of_isName hname ?_ List.mem_cons_self
    rcases hmark with rfl | rfl <;> decide

/-- **One without a name is not.** -/
theorem namedParameter?_positional {value : Value}
    (h : InQuotes value.written ∨ ¬ ReadsNamed value.written) :
    namedParameter? value.written = none := by
  have hnot : ¬ ReadsNamed value.written := h.elim not_readsNamed_of_inQuotes id
  rw [namedParameter?]
  split
  · rename_i key behind hcut
    rw [if_neg]
    intro hname
    exact hnot ⟨key, behind, (Text.cutAt_eq_some_iff.1 hcut).2, hname⟩
  · rfl

/-- **Written parameters are read back.** Reading them into the attributes of
a node is writing them there. -/
theorem put_eq_readParameters (ps : List Parameter) (kind : Kind) (f : Fields)
    (children : List Node) (position : Nat) :
    Parameter.put (.mk kind f children) position ps =
      .mk kind
        { f with attributes := readParameters f.attributes position (ps.map Parameter.written) }
        children := by
  induction ps generalizing f position with
  | nil => rfl
  | cons p ps ih =>
    rw [List.map_cons]
    cases p with
    | named key value hkey =>
      have hread : namedParameter? (Parameter.named key value hkey).written.trim =
          some (key, value.text) := by
        rw [Parameter.trim_written]
        exact namedParameter?_named value hkey
      rw [Parameter.put, Node.setAttribute, Node.modifyFields, ih, readParameters, hread]
    | positional value hvalue =>
      have hread : namedParameter? (Parameter.positional value hvalue).written.trim = none := by
        rw [Parameter.trim_written]
        exact namedParameter?_positional hvalue
      have htext : unquote (Parameter.positional value hvalue).written.trim = value.text := by
        rw [Parameter.trim_written]
        exact unquote_written value
      rw [Parameter.put, Node.setPositional, Node.modifyFields, ih, readParameters, hread, htext]

/-! ## The picture of a list of parameters -/

/-- The parameters with commas between them. -/
def writtenAll (ps : List Parameter) : Text :=
  [','].intercalate (ps.map Parameter.written)

/-- The picture of a single empty parameter. -/
theorem pictureOf_setPositional_nil (source : Text) :
    pictureOf (Attributes.empty.setPositional 1 []) source = pictureOf .empty source := by
  rfl

/-- **No parameters are as good as a single empty one.** -/
theorem pictureOf_parameters (t source : Text) :
    pictureOf (parameters t) source =
      pictureOf (readParameters .empty 1 (t.splitOn ',')) source := by
  rw [parameters]
  split
  · rename_i hblank
    -- a blank list would be read as one parameter that says nothing
    have hcomma : ',' ∉ t := by
      intro hmem
      exact absurd (Text.blank_iff.1 hblank ',' hmem) (by decide)
    have hsplit : t.splitOn ',' = [t] := by
      have hjoin : List.splitOn ',' ([','].intercalate [t]) = [t] :=
        List.splitOn_intercalate ',' (fun u hu => by rwa [List.mem_singleton.1 hu])
          (List.cons_ne_nil t [])
      rwa [List.intercalate_singleton] at hjoin
    have hread : readParameters .empty 1 [t] = Attributes.empty.setPositional 1 [] := by
      rw [readParameters, Text.trim_eq_nil_iff.2 hblank]
      rfl
    rw [hsplit, hread, pictureOf_setPositional_nil]
  · rfl

/-- Nothing in the list ends it. -/
theorem not_mem_writtenAll (ps : List Parameter) : ']' ∉ writtenAll ps := by
  refine Text.not_mem_intercalate (by decide) fun t ht => ?_
  obtain ⟨p, -, rfl⟩ := List.mem_map.1 ht
  exact p.isInside_written.2

/-- **The picture of written parameters** is that of the attributes that they
stand for. -/
theorem pictureOf_writtenAll (ps : List Parameter) (source : Text) :
    pictureOf (parameters (writtenAll ps)) source =
      pictureOf (readParameters .empty 1 (ps.map Parameter.written)) source := by
  cases ps with
  | nil => rfl
  | cons p rest =>
    have hsplit : (writtenAll (p :: rest)).splitOn ',' = (p :: rest).map Parameter.written := by
      refine List.splitOn_intercalate ',' (fun t ht => ?_) (by simp)
      obtain ⟨q, -, rfl⟩ := List.mem_map.1 ht
      exact q.isInside_written.1
    rw [pictureOf_parameters, hsplit]

end Markup

end Treedown
