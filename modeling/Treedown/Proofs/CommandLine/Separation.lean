import Treedown.CommandLine.Extra
import Treedown.Proofs.Node.Attributes
/-!
# Command line — extra parameters apart

Taking the extra parameters out loses nothing. An argument leaves for one of
two reasons, which the argument in front of it and its own first characters
decide (`stays`), so what is left is a filter of the arguments
(`separate_fst`). A value does not look like an option and is no extra
parameter itself. So every extra parameter is noticed wherever it stands, and
its value can be read off what stands behind it (`separate_snd`).

Both hold of any row of arguments, whatever was in front of it, unless the
last argument there was a parameter that takes the first one here for its
value. That is the only way in which two rows depend on each other
(`separate_append`).
-/

namespace Treedown

namespace CommandLine

variable {arg key value : Text} {args more behind : List Text}

/-! ## Parameters and values -/

/-- Whether an argument is an extra parameter. -/
def namesExtra (arg : Text) : Bool :=
  extraMark.isPrefixOf arg

/-- Whether an argument is a value where one is looked for: it does not look
like an option. -/
def givesValue (arg : Text) : Bool :=
  arg.head? ≠ some '-'

/-- **Whether an argument stays**, given the one in front of it. -/
def stays : Text × Option Text → Bool
  | (arg, before) => !namesExtra arg && !(before.any namesExtra && givesValue arg)

/-- The arguments, each with the one in front of it. -/
def withBefore (before : Option Text) (args : List Text) : List (Text × Option Text) :=
  args.zip (before :: args.map some)

/-- The value of a parameter in front of some arguments. -/
def valueIn : List Text → Text
  | [] => defaultValue
  | arg :: _ => if givesValue arg then arg else defaultValue

/-- The extra parameters of a row of arguments, in order. -/
def parametersIn : List Text → List (Text × Text)
  | [] => []
  | arg :: behind =>
    ((Text.after? extraMark arg).map fun key => (key, valueIn behind)).toList ++
      parametersIn behind

/-- **A parameter and what stands behind the last of its name.** -/
def LastOf (key : Text) (args behind : List Text) : Prop :=
  ∃ front, args = front ++ (extraMark ++ key) :: behind ∧ extraMark ++ key ∉ behind

/-- **Whether arguments go on with a value** that belongs to the last one in
front of them. -/
def TakesOver (args more : List Text) : Prop :=
  args.getLast?.any namesExtra = true ∧ more.head?.any givesValue = true

theorem namesExtra_eq_isSome (arg : Text) :
    namesExtra arg = (Text.after? extraMark arg).isSome := by
  rw [Bool.eq_iff_iff, namesExtra, List.isPrefixOf_iff_prefix, Option.isSome_iff_exists]
  exact exists_congr fun key => eq_comm.trans Text.after?_eq_some_iff.symm

theorem namesExtra_of_after? (h : Text.after? extraMark arg = some key) : namesExtra arg = true := by
  rw [namesExtra_eq_isSome, h, Option.isSome_some]

theorem namesExtra_eq_false_iff : namesExtra arg = false ↔ Text.after? extraMark arg = none := by
  rw [namesExtra_eq_isSome, Option.isSome_eq_false_iff, Option.isNone_iff_eq_none]

/-- A value is no extra parameter. -/
theorem namesExtra_of_givesValue (h : givesValue arg = true) : namesExtra arg = false := by
  rw [← Bool.not_eq_true, namesExtra, List.isPrefixOf_iff_prefix]
  rintro ⟨key, rfl⟩
  have hhead : (extraMark ++ key).head? = some '-' := rfl
  rw [givesValue, hhead] at h
  exact absurd h (by decide)

theorem not_stays_of_namesExtra (h : namesExtra arg = true) (before : Option Text) :
    ¬ stays (arg, before) = true := by
  rw [stays, h]
  exact Bool.false_ne_true

/-! ## What is left -/

theorem withBefore_cons (before : Option Text) (arg : Text) (rest : List Text) :
    withBefore before (arg :: rest) = (arg, before) :: withBefore (some arg) rest := rfl

/-- Behind another argument, what is left are those that stay, if no parameter
waits for a value. -/
theorem separate_fst_behind (args : List Text) {before : Option Text}
    (h : before.any namesExtra = true → args.head?.any givesValue = false) :
    (separate args).1 = ((withBefore before args).filter stays).map Prod.fst := by
  fun_induction separate args generalizing before with
  | case1 => rfl
  | case2 arg rest hnone ih =>
    have hplain : namesExtra arg = false := namesExtra_eq_false_iff.2 hnone
    have hstays : stays (arg, before) = true := by
      rw [stays, hplain]
      cases hbefore : before.any namesExtra with
      | false => rfl
      | true =>
        have hgives : givesValue arg = false := h hbefore
        rw [hgives]
        rfl
    have hrest : (separate rest).1 =
        ((withBefore (some arg) rest).filter stays).map Prod.fst := ih fun hextra =>
      absurd hextra (by rw [Option.any_some, hplain]; decide)
    rw [withBefore_cons, List.filter_cons_of_pos hstays, List.map_cons, hrest]
  | case3 arg key hkey =>
    rw [withBefore_cons,
      List.filter_cons_of_neg (not_stays_of_namesExtra (namesExtra_of_after? hkey) before)]
    rfl
  | case4 arg key value after hkey hdash ih =>
    -- the next argument is looked at again, and it waits for nothing
    have hrest : (separate (value :: after)).1 =
        ((withBefore (some arg) (value :: after)).filter stays).map Prod.fst := ih fun _ => by
      rw [List.head?_cons, Option.any_some, givesValue, hdash]
      rfl
    rw [withBefore_cons,
      List.filter_cons_of_neg (not_stays_of_namesExtra (namesExtra_of_after? hkey) before), hrest]
  | case5 arg key value after hkey hdash ih =>
    have hgives : givesValue value = true := decide_eq_true hdash
    have hleaves : ¬ stays (value, some arg) = true := by
      rw [stays, Option.any_some, namesExtra_of_after? hkey, hgives, Bool.not_eq_true]
      exact Bool.and_false _
    have hrest : (separate after).1 =
        ((withBefore (some value) after).filter stays).map Prod.fst := ih fun hvalue =>
      absurd hvalue (by rw [Option.any_some, namesExtra_of_givesValue hgives]; decide)
    rw [withBefore_cons, withBefore_cons,
      List.filter_cons_of_neg (not_stays_of_namesExtra (namesExtra_of_after? hkey) before),
      List.filter_cons_of_neg hleaves, hrest]

/-- **The arguments that are left are those that stay.** -/
theorem separate_fst (args : List Text) :
    (separate args).1 = ((withBefore none args).filter stays).map Prod.fst :=
  separate_fst_behind args fun hnone => absurd hnone (by decide)

/-- What is left of the arguments holds no extra parameter. -/
theorem after?_eq_none_of_mem (h : arg ∈ (split args).1) : Text.after? extraMark arg = none := by
  rw [split, separate_fst] at h
  obtain ⟨⟨arg, before⟩, hmem, rfl⟩ := List.mem_map.1 h
  have hstays := (List.mem_filter.1 hmem).2
  rw [stays, Bool.and_eq_true, Bool.not_eq_true'] at hstays
  exact namesExtra_eq_false_iff.1 hstays.1

/-- Arguments without extra parameters are left as they are. -/
theorem separate_of_forall (h : ∀ arg ∈ args, Text.after? extraMark arg = none) :
    separate args = (args, []) := by
  induction args with
  | nil => rfl
  | cons arg rest ih =>
    obtain ⟨harg, hrest⟩ := List.forall_mem_cons.1 h
    simp only [separate, harg, ih hrest]

/-- An argument that is no extra parameter stays in front, and has no part in
those behind it. -/
theorem split_cons (h : Text.after? extraMark arg = none) (args : List Text) :
    split (arg :: args) = (arg :: (split args).1, (split args).2) := by
  have hseparate : separate (arg :: args) = (arg :: (separate args).1, (separate args).2) := by
    simp only [separate, h]
  rw [split, split, hseparate]

/-! ## The parameters -/

/-- **Every extra parameter is noticed**, and its value is what stands behind
it. -/
theorem separate_snd (args : List Text) : (separate args).2 = parametersIn args := by
  fun_induction separate args with
  | case1 => rfl
  | case2 arg rest hnone ih =>
    rw [parametersIn, hnone, ih]
    rfl
  | case3 arg key hkey =>
    rw [parametersIn, hkey]
    rfl
  | case4 arg key value after hkey hdash ih =>
    have hgives : givesValue value = false := by
      rw [givesValue, hdash]
      rfl
    rw [parametersIn, hkey, valueIn, hgives, ih]
    rfl
  | case5 arg key value after hkey hdash ih =>
    -- the value is passed over, and there is no parameter in it
    have hgives : givesValue value = true := decide_eq_true hdash
    have hplain : Text.after? extraMark value = none :=
      namesExtra_eq_false_iff.1 (namesExtra_of_givesValue hgives)
    rw [parametersIn, hkey, valueIn, hgives, parametersIn, hplain, ih]
    rfl

theorem lastOf_cons_iff :
    LastOf key (arg :: args) behind ↔
      LastOf key args behind ∨
        arg = extraMark ++ key ∧ args = behind ∧ extraMark ++ key ∉ behind := by
  constructor
  · rintro ⟨front, heq, hlast⟩
    rcases List.cons_eq_append_iff.1 heq with ⟨rfl, hcons⟩ | ⟨front, rfl, hargs⟩
    · obtain ⟨rfl, rfl⟩ := List.cons.inj hcons
      exact .inr ⟨rfl, rfl, hlast⟩
    · exact .inl ⟨front, hargs, hlast⟩
  · rintro (⟨front, rfl, hlast⟩ | ⟨rfl, rfl, hlast⟩)
    · exact ⟨arg :: front, rfl, hlast⟩
    · exact ⟨[], rfl, hlast⟩

/-- Where a name is given there is a last time. -/
theorem exists_lastOf_iff : (∃ behind, LastOf key args behind) ↔ extraMark ++ key ∈ args := by
  induction args with
  | nil => exact iff_of_false (fun ⟨_, _, heq, _⟩ => by simp at heq) List.not_mem_nil
  | cons arg args ih =>
    simp only [lastOf_cons_iff, exists_or, ih, List.mem_cons, eq_comm (a := arg)]
    constructor
    · rintro (hmem | ⟨_, harg, -, -⟩)
      · exact .inr hmem
      · exact .inl harg
    · by_cases hmem : extraMark ++ key ∈ args
      · exact fun _ => .inl hmem
      · exact fun h => .inr ⟨args, h.resolve_right hmem, rfl, hmem⟩

/-- A parameter is looked for behind the first argument, and then there. -/
theorem lookup_parametersIn_cons (key arg : Text) (args : List Text) :
    (parametersIn (arg :: args)).reverse.lookup key =
      ((parametersIn args).reverse.lookup key).or
        (if arg = extraMark ++ key then some (valueIn args) else none) := by
  rw [parametersIn, List.reverse_append, List.lookup_append]
  cases harg : Text.after? extraMark arg with
  | none =>
    have hne : ¬ arg = extraMark ++ key := fun heq => by
      rw [Text.after?_eq_some_iff.2 heq] at harg
      cases harg
    rw [if_neg hne]
    rfl
  | some name =>
    obtain rfl := Text.after?_eq_some_iff.1 harg
    rw [Option.map_some, Option.toList_some, List.reverse_singleton, List.lookup_singleton]
    by_cases hname : name = key
    · subst hname
      rw [if_pos (beq_self_eq_true name), if_pos rfl]
    · rw [if_neg fun heq => hname (beq_iff_eq.1 heq).symm,
        if_neg fun heq => hname (List.append_cancel_left heq)]

/-- **The last of a name counts.** -/
theorem get?_split_eq_some_iff :
    (split args).2.get? key = some value ↔
      ∃ behind, LastOf key args behind ∧ value = valueIn behind := by
  rw [split, Attributes.get?_ofPairs, separate_snd]
  induction args generalizing value with
  | nil => exact iff_of_false nofun fun ⟨_, ⟨_, heq, _⟩, _⟩ => by simp at heq
  | cons arg args ih =>
    rw [lookup_parametersIn_cons]
    cases hrest : (parametersIn args).reverse.lookup key with
    | some found =>
      -- the name is given again, so the first argument does not count
      obtain ⟨last, hlast, -⟩ := ih.1 hrest
      have hmem : extraMark ++ key ∈ args := exists_lastOf_iff.1 ⟨last, hlast⟩
      rw [Option.some_or, ← hrest, ih]
      refine exists_congr fun behind => and_congr_left fun _ => ?_
      rw [lastOf_cons_iff, or_iff_left fun ⟨_, heq, hfree⟩ => hfree (heq ▸ hmem)]
    | none =>
      have hfree : extraMark ++ key ∉ args := fun hmem => by
        obtain ⟨last, hlast⟩ := exists_lastOf_iff.2 hmem
        rw [ih.2 ⟨last, hlast, rfl⟩] at hrest
        cases hrest
      rw [Option.none_or, Option.ite_none_right_eq_some]
      constructor
      · rintro ⟨rfl, hvalue⟩
        exact ⟨args, lastOf_cons_iff.2 (.inr ⟨rfl, rfl, hfree⟩), (Option.some.inj hvalue).symm⟩
      · rintro ⟨behind, hlast, rfl⟩
        rcases lastOf_cons_iff.1 hlast with hlast | ⟨rfl, rfl, -⟩
        · exact absurd (exists_lastOf_iff.1 ⟨behind, hlast⟩) hfree
        · exact ⟨rfl, rfl⟩

/-- The names are those that are given. -/
theorem mem_keys_split_iff : key ∈ (split args).2.keys ↔ extraMark ++ key ∈ args := by
  rw [Attributes.mem_keys_iff, Option.isSome_iff_exists, ← exists_lastOf_iff]
  simp only [get?_split_eq_some_iff, exists_comm (α := Text), exists_and_left, exists_eq, and_true]

/-! ## One row behind another -/

theorem withBefore_append (before : Option Text) (args more : List Text) :
    withBefore before (args ++ more) =
      withBefore before args ++ withBefore (args.getLast?.or before) more := by
  induction args generalizing before with
  | nil => rw [List.nil_append, List.getLast?_nil, Option.none_or]; rfl
  | cons arg args ih =>
    rw [List.cons_append, withBefore_cons, withBefore_cons, ih, List.getLast?_cons]
    cases args.getLast? <;> rfl

theorem valueIn_of_head? (h : args.head?.any givesValue = false) : valueIn args = defaultValue := by
  cases args with
  | nil => rfl
  | cons arg args =>
    have hgives : givesValue arg = false := h
    rw [valueIn, hgives]
    rfl

theorem parametersIn_append (h : ¬ TakesOver args more) :
    parametersIn (args ++ more) = parametersIn args ++ parametersIn more := by
  induction args with
  | nil => rfl
  | cons arg args ih =>
    rw [List.cons_append, parametersIn, parametersIn, List.append_assoc]
    cases args with
    | nil =>
      rw [List.nil_append, parametersIn, List.nil_append]
      cases harg : Text.after? extraMark arg with
      | none => rfl
      | some key =>
        -- the last parameter finds no value behind it either way
        have hmore : more.head?.any givesValue = false := by
          rw [← Bool.not_eq_true]
          exact fun hgives => h ⟨namesExtra_of_after? harg, hgives⟩
        rw [valueIn_of_head? hmore]
        rfl
    | cons second args =>
      rw [ih fun htakes => h ⟨by rw [List.getLast?_cons_cons]; exact htakes.1, htakes.2⟩]
      rfl

/-- **Rows of arguments are independent** of each other, unless the second
goes on with a value for the first. -/
theorem separate_append (h : ¬ TakesOver args more) :
    separate (args ++ more) =
      ((separate args).1 ++ (separate more).1, (separate args).2 ++ (separate more).2) := by
  have hmore : (separate more).1 =
      ((withBefore (args.getLast?.or none) more).filter stays).map Prod.fst :=
    separate_fst_behind more fun hextra => by
      rw [Option.or_none] at hextra
      exact Bool.not_eq_true _ ▸ fun hgives => h ⟨hextra, hgives⟩
  refine Prod.ext ?_ ?_
  · rw [separate_fst, withBefore_append, List.filter_append, List.map_append, ← separate_fst,
      ← hmore]
  · rw [separate_snd, parametersIn_append h, separate_snd, separate_snd]

/-! ## Nothing is lost -/

/-- **Taking the extra parameters out loses nothing.** What is left are the
arguments that stay, in order: all but the extra parameters and their values.
The names are exactly those that are given, each with the value of the last
time. Nothing is taken out of what is left a second time. And two rows of
arguments are taken apart like each of them, the values of the second over
those of the first, unless the second goes on with a value for the first. -/
theorem split_losesNothing (args : List Text) :
    (split args).1 = ((withBefore none args).filter stays).map Prod.fst ∧
      (∀ key, key ∈ (split args).2.keys ↔ extraMark ++ key ∈ args) ∧
      (∀ key value, (split args).2.get? key = some value ↔
        ∃ behind, LastOf key args behind ∧ value = valueIn behind) ∧
      (∀ arg ∈ (split args).1, ¬ extraMark <+: arg) ∧
      split (split args).1 = ((split args).1, .empty) ∧
      ∀ more, ¬ TakesOver args more →
        (split (args ++ more)).1 = (split args).1 ++ (split more).1 ∧
          ∀ key, (split (args ++ more)).2.get? key =
            ((split more).2.get? key).or ((split args).2.get? key) := by
  refine ⟨separate_fst args, fun key => mem_keys_split_iff, fun key value => get?_split_eq_some_iff,
    fun arg harg hprefix => ?_, ?_, fun more h => ⟨?_, ?_⟩⟩
  · obtain ⟨key, hkey⟩ := hprefix
    have hnone := after?_eq_none_of_mem harg
    rw [Text.after?_eq_some_iff.2 hkey.symm] at hnone
    cases hnone
  · rw [split, separate_of_forall fun arg harg => after?_eq_none_of_mem harg]
    rfl
  · rw [split, separate_append h]
    rfl
  · intro key
    rw [split, split, split, Attributes.get?_ofPairs, Attributes.get?_ofPairs,
      Attributes.get?_ofPairs, separate_append h, List.reverse_append, List.lookup_append]

/-- Arguments with a name given twice, the second time without a value. -/
def repeatedSuffix : List Text :=
  ["mdpp", "--extra-suffix", ".a", "t.json", "--extra-log", "--extra-suffix"]

/-- Arguments that may stand behind them. -/
def outputOption : List Text := ["-o", "o.md"]

/-- The second time counts, and an option behind it is no value of it. -/
theorem split_losesNothing_repeatedSuffix :
    LastOf "suffix" repeatedSuffix [] ∧ ¬ TakesOver repeatedSuffix outputOption ∧
      (split repeatedSuffix).2.get? "suffix" = some "true".toList ∧
      (split (repeatedSuffix ++ outputOption)).1 =
        "mdpp".toList :: "t.json".toList :: outputOption ∧
      ∀ key, (split (repeatedSuffix ++ outputOption)).2.get? key =
        ((split outputOption).2.get? key).or ((split repeatedSuffix).2.get? key) := by
  have hlast : LastOf "suffix" repeatedSuffix [] :=
    ⟨["mdpp", "--extra-suffix", ".a", "t.json", "--extra-log"], rfl, List.not_mem_nil⟩
  have htakes : ¬ TakesOver repeatedSuffix outputOption := fun h => absurd h.2 (by decide)
  obtain ⟨-, -, hvalue, -, -, happend⟩ := split_losesNothing repeatedSuffix
  obtain ⟨hleft, hparameters⟩ := happend outputOption htakes
  exact ⟨hlast, htakes, (hvalue "suffix" "true").2 ⟨[], hlast, rfl⟩, hleft, hparameters⟩

end CommandLine

end Treedown
