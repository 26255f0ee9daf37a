import Mathlib.Data.List.Find
import Treedown.Proofs.CommandLine.Output
import Treedown.Proofs.CommandLine.Separation
/-!
# Command line — settings by extra parameters

A setting can have several names, and of those that are given the first one
counts (`firstGiven?`). Each setting takes that one name and no other, and the
names of two settings have nothing in common, so what is taken is the same
whichever settings come before (`get?_takeAll`). So all settings can be read
off the parameters at once (`asked`), and what is left are the unknown names,
and those that were passed over as another name of their setting came first
(`apply_takesKnown`).

A name that is passed over is reported as unknown, although it is known
(`apply_leavesAlias`).
-/

namespace Treedown

namespace CommandLine

variable {p q : Parameters} {key value : Text} {names other : List Text}

/-! ## Names of settings -/

/-- **The names of all settings**, those of one setting together. -/
def settingNames : List (List Text) :=
  [["idprefix"], ["outfilesuffix", "suffix"], ["multiline", "multiline-tables"], ["video-width"],
    ["video-height"], ["log-level", "log"]]

/-- The names of the choice about tables. -/
def tableNames : List Text := ["multiline", "multiline-tables"]

/-- The first of several names that is given. -/
def firstGiven? (p : Parameters) (names : List Text) : Option Text :=
  names.find? p.contains

/-- What is given under that name. -/
def given (p : Parameters) (names : List Text) : Option Text :=
  names.findSome? p.get?

/-- Two settings without a common name. -/
def Apart (names other : List Text) : Prop :=
  ∀ name ∈ names, name ∉ other

instance : DecidableRel Apart := fun names other =>
  inferInstanceAs (Decidable (∀ name ∈ names, name ∉ other))

/-- **A known name is passed over** if another name of its setting is given
and comes first. -/
def PassedOver (p : Parameters) (key : Text) : Prop :=
  ∃ names ∈ settingNames, key ∈ names ∧ ∃ first, firstGiven? p names = some first ∧ first ≠ key

/-- **The settings that are asked for.** A setting without a given name stays
as it is. -/
def asked (s : Settings) (p : Parameters) : Settings where
  options :=
    { idPrefix := (given p ["idprefix"]).getD s.options.idPrefix
      suffix := (given p ["outfilesuffix", "suffix"]).getD s.options.suffix
      rebuildTables :=
        ((given p ["multiline", "multiline-tables"]).bind truth?).getD s.options.rebuildTables
      videoWidth := (given p ["video-width"]).getD s.options.videoWidth
      videoHeight := (given p ["video-height"]).getD s.options.videoHeight }
  level := (given p ["log-level", "log"]).getD s.level

/-! ## One setting -/

theorem take_eq (p : Parameters) (names : List Text) :
    take p names = (given p names, (firstGiven? p names).elim p p.erase) := by
  induction names with
  | nil => rfl
  | cons name names ih =>
    rw [take, given, firstGiven?, List.findSome?_cons, List.find?_cons, Attributes.contains]
    cases hget : p.get? name with
    | none => exact ih
    | some value => rfl

/-- **Only the name that counts is taken.** -/
theorem get?_take_eq_some_iff :
    (take p names).2.get? key = some value ↔
      p.get? key = some value ∧ firstGiven? p names ≠ some key := by
  rw [take_eq]
  cases hfirst : firstGiven? p names with
  | none => exact (and_iff_left nofun).symm
  | some first =>
    rw [Option.elim_some, get?_erase, Option.ite_none_left_eq_some, and_comm]
    exact and_congr_right fun _ => not_congr (eq_comm.trans Option.some_inj.symm)

theorem firstGiven?_eq_none (h : given p names = none) : firstGiven? p names = none := by
  rw [firstGiven?, List.find?_eq_none]
  intro name hname
  rw [Attributes.contains, List.findSome?_eq_none_iff.1 h name hname]
  decide

/-- Only the values under the names count. -/
theorem given_congr (h : ∀ name ∈ names, p.get? name = q.get? name) :
    given p names = given q names := by
  induction names with
  | nil => rfl
  | cons name names ih =>
    obtain ⟨hname, hnames⟩ := List.forall_mem_cons.1 h
    rw [given, given, List.findSome?_cons, List.findSome?_cons, hname, ← given, ← given, ih hnames]

theorem firstGiven?_congr (h : ∀ name ∈ names, p.get? name = q.get? name) :
    firstGiven? p names = firstGiven? q names :=
  List.find?_congr fun name hname => by rw [Attributes.contains, Attributes.contains, h name hname]

/-- A setting leaves the names of all others. -/
theorem get?_take_of_not_mem (h : key ∉ names) : (take p names).2.get? key = p.get? key := by
  have hfirst : firstGiven? p names ≠ some key := fun hfirst => h (List.mem_of_find?_eq_some hfirst)
  refine Option.ext fun value => ?_
  rw [get?_take_eq_some_iff, and_iff_left hfirst]

/-! ## One setting after the other -/

/-- The parameters that are left behind several settings. -/
def takeAll (p : Parameters) (groups : List (List Text)) : Parameters :=
  groups.foldl (fun p names => (take p names).2) p

theorem takeAll_cons (p : Parameters) (names : List Text) (groups : List (List Text)) :
    takeAll p (names :: groups) = takeAll (take p names).2 groups := rfl

theorem takeAll_concat (p : Parameters) (groups : List (List Text)) (names : List Text) :
    takeAll p (groups ++ [names]) = (take (takeAll p groups) names).2 := by
  rw [takeAll, List.foldl_append, List.foldl_cons, List.foldl_nil, ← takeAll]

/-- **What is left behind several settings**: each has taken its own name. -/
theorem get?_takeAll_eq_some_iff {groups : List (List Text)}
    (h : groups.Pairwise Apart) :
    (takeAll p groups).get? key = some value ↔
      p.get? key = some value ∧ ∀ names ∈ groups, firstGiven? p names ≠ some key := by
  induction groups generalizing p with
  | nil => simp [takeAll]
  | cons names groups ih =>
    obtain ⟨hnames, hgroups⟩ := List.pairwise_cons.1 h
    have hlater : ∀ later ∈ groups, firstGiven? (take p names).2 later = firstGiven? p later :=
      fun later hmem => firstGiven?_congr fun name hname =>
        get?_take_of_not_mem fun hown => hnames later hmem name hown hname
    rw [takeAll_cons, ih hgroups, get?_take_eq_some_iff, List.forall_mem_cons, and_assoc]
    refine and_congr_right fun _ => and_congr_right fun _ => ?_
    exact forall₂_congr fun later hmem => by rw [hlater later hmem]

section

variable {groups : List (List Text)} (hapart : ∀ earlier ∈ groups, Apart earlier names)

include hapart

/-- Settings with other names have no part in what is given for this one. -/
theorem given_takeAll : given (takeAll p groups) names = given p names := by
  induction groups generalizing p with
  | nil => rfl
  | cons earlier groups ih =>
    obtain ⟨hearlier, hgroups⟩ := List.forall_mem_cons.1 hapart
    rw [takeAll_cons, ih hgroups]
    exact given_congr fun name hname => get?_take_of_not_mem fun hown => hearlier name hown hname

/-- **A setting is changed** to what is given, or to what it was. -/
theorem override_eq {set : Settings → Text → Settings} (get : Settings → Text)
    (hset : ∀ s, set s (get s) = s) (s : Settings) :
    override names set (s, takeAll p groups) =
      (set s ((given p names).getD (get s)), takeAll p (groups ++ [names])) := by
  have htake := take_eq (takeAll p groups) names
  rw [override, takeAll_concat]
  simp only [htake, given_takeAll hapart]
  cases hgiven : given p names with
  | some value => rfl
  | none =>
    rw [firstGiven?_eq_none ((given_takeAll hapart).trans hgiven), Option.getD_none, hset]
    rfl

end

/-- So is the choice about tables, if what is given is a truth value. -/
theorem overrideTables_eq {groups : List (List Text)}
    (hapart : ∀ earlier ∈ groups, Apart earlier tableNames) (s : Settings)
    (hvalid : ∀ word, given p tableNames = some word → (truth? word).isSome) :
    overrideTables (s, takeAll p groups) = .ok
      ({ s with options := { s.options with
          rebuildTables := ((given p tableNames).bind truth?).getD s.options.rebuildTables } },
        takeAll p (groups ++ [tableNames])) := by
  have htake : take (takeAll p groups) ["multiline", "multiline-tables"] = _ :=
    take_eq (takeAll p groups) tableNames
  rw [overrideTables, takeAll_concat, take_eq _ tableNames]
  simp only [htake, given_takeAll hapart]
  cases hgiven : given p tableNames with
  | none =>
    rw [firstGiven?_eq_none ((given_takeAll hapart).trans hgiven)]
    rfl
  | some word =>
    obtain ⟨choice, hchoice⟩ := Option.isSome_iff_exists.1 (hvalid word hgiven)
    simp only [hchoice, Option.bind_some, Option.getD_some]

/-- Any other word is an error. -/
theorem overrideTables_eq_error {groups : List (List Text)} {word : Text}
    (hapart : ∀ earlier ∈ groups, Apart earlier tableNames) (s : Settings)
    (hword : given p tableNames = some word) (h : truth? word = none) :
    overrideTables (s, takeAll p groups) = .error word := by
  have htake : take (takeAll p groups) ["multiline", "multiline-tables"] = _ :=
    take_eq (takeAll p groups) tableNames
  rw [overrideTables]
  simp only [htake, given_takeAll hapart, hword, h]

/-! ## All settings -/

/-- No name stands for two settings. -/
theorem apart_settingNames : settingNames.Pairwise Apart := by decide

theorem eq_of_mem_settingNames :
    ∀ names ∈ settingNames, ∀ other ∈ settingNames, ∀ name ∈ names, name ∈ other → other = names := by
  decide

/-- **All settings at once.** -/
theorem apply_eq (s : Settings)
    (hvalid : ∀ word, given p tableNames = some word → (truth? word).isSome) :
    apply s p = .ok (asked s p, takeAll p settingNames) := by
  have hstart : apply s p = apply s (takeAll p []) := rfl
  rw [hstart, apply, override_eq (by decide) (·.options.idPrefix) fun _ => rfl,
    override_eq (by decide) (·.options.suffix) fun _ => rfl, overrideTables_eq (by decide) _ hvalid]
  simp only [bind, Except.bind, pure, Except.pure]
  rw [override_eq (by decide) (·.options.videoWidth) fun _ => rfl,
    override_eq (by decide) (·.options.videoHeight) fun _ => rfl,
    override_eq (by decide) (·.level) fun _ => rfl]
  rfl

/-- What counts for tables must be a truth value. -/
theorem isSome_truth?_of_apply {x : Settings × Parameters} {s : Settings} (h : apply s p = .ok x)
    (word : Text) (hword : given p tableNames = some word) : (truth? word).isSome = true := by
  have hstart : apply s p = apply s (takeAll p []) := rfl
  rw [hstart, apply, override_eq (by decide) (·.options.idPrefix) fun _ => rfl,
    override_eq (by decide) (·.options.suffix) fun _ => rfl] at h
  obtain ⟨state, htables, -⟩ := bind_eq_ok_iff.1 h
  by_contra hfalse
  rw [overrideTables_eq_error (by decide) _ hword (Option.not_isSome_iff_eq_none.1 hfalse)] at htables
  cases htables

/-- Of a setting with a given name one name counts. -/
theorem firstGiven?_of_mem (h : key ∈ names) (hgiven : p.get? key = some value) :
    ∃ first, firstGiven? p names = some first := by
  rw [← Option.isSome_iff_exists, firstGiven?, List.find?_isSome]
  exact ⟨key, h, by rw [Attributes.contains, hgiven]; rfl⟩

/-- **What is left**: the unknown names, and those that were passed over. -/
theorem get?_takeAll_settingNames :
    (takeAll p settingNames).get? key = some value ↔
      p.get? key = some value ∧ (key ∉ settingNames.flatten ∨ PassedOver p key) := by
  rw [get?_takeAll_eq_some_iff apart_settingNames]
  refine and_congr_right fun hgiven => ⟨fun hleft => ?_, ?_⟩
  · refine or_iff_not_imp_left.2 fun hknown => ?_
    obtain ⟨names, hnames, hkey⟩ := List.mem_flatten.1 (not_not.1 hknown)
    obtain ⟨first, hfirst⟩ := firstGiven?_of_mem hkey hgiven
    exact ⟨names, hnames, hkey, first, hfirst, fun heq => hleft names hnames (heq ▸ hfirst)⟩
  · rintro (hunknown | ⟨names, hnames, hkey, first, hfirst, hne⟩) own hown hcounts
    · exact hunknown (List.mem_flatten.2 ⟨own, hown, List.mem_of_find?_eq_some hcounts⟩)
    · -- the name would count for its setting, where another one does
      rw [eq_of_mem_settingNames names hnames own hown key hkey
        (List.mem_of_find?_eq_some hcounts), hfirst] at hcounts
      exact hne (Option.some.inj hcounts)

/-! ## A run -/

section

variable {files : Files} {environment : Option Text} {args : List Text} {config : Option Text}
  {extra : Parameters} {command : Command} {s : Settings}

theorem exists_apply_of_settings
    (h : settings files config extra = .error (.unknownParameter key)) :
    ∃ loaded changed rest, apply loaded extra = .ok (changed, rest) ∧ key ∈ rest.keys := by
  rw [settings] at h
  cases hload : Settings.load files (layers config) with
  | error fault =>
    rw [hload] at h
    cases h
  | ok loaded =>
    rw [hload] at h
    cases happly : apply loaded extra with
    | error word =>
      simp only [Except.mapError, bind, Except.bind, happly] at h
      cases h
    | ok x =>
      obtain ⟨changed, rest⟩ := x
      simp only [Except.mapError, bind, Except.bind, happly] at h
      refine ⟨loaded, changed, rest, happly, ?_⟩
      cases hkeys : rest.keys with
      | nil =>
        simp only [hkeys] at h
        cases h
      | cons first others =>
        simp only [hkeys] at h
        cases h
        exact List.mem_cons_self

theorem ending_finish_ne {product : Product} (h : product.2 ≠ .error (.unknownParameter key))
    (output : Option Text) :
    (finish files output product).ending ≠ .failed (.unknownParameter key) := by
  obtain ⟨log, result⟩ := product
  intro hfailed
  cases result with
  | error e => exact h (congrArg _ (Ending.failed.inj hfailed))
  | ok t =>
    cases output with
    | none => cases hfailed
    | some path =>
      simp only [finish] at hfailed
      cases hwrite : files.writeText path t with
      | ok after =>
        rw [hwrite] at hfailed
        cases hfailed
      | error cause =>
        rw [hwrite] at hfailed
        cases hfailed

/-- No command looks at extra parameters. -/
theorem ending_execute_ne :
    (execute files s command).ending ≠ .failed (.unknownParameter key) := by
  rw [execute_eq_finish]
  refine ending_finish_ne (fun hfailed => ?_) _
  cases command with
  | convert input backend output =>
    simp only [Command.product, convert] at hfailed
    split at hfailed
    · cases hfailed
    · split at hfailed
      · cases hfailed
      · -- what fails here is the rendering
        dsimp only at hfailed
        generalize Backend.render _ _ _ = outcome at hfailed
        cases outcome <;> cases hfailed
  | includes input suffix output =>
    simp only [Command.product, substituteIn] at hfailed
    split at hfailed <;> cases hfailed

/-- **Only a name that does not count is reported.** -/
theorem of_ending_run (h : (run files environment args).ending = .failed (.unknownParameter key)) :
    extraMark ++ key ∈ args ∧
      (key ∉ settingNames.flatten ∨ PassedOver (split args).2 key) := by
  have hcourse := course_run files environment args
  generalize run files environment args = r at h hcourse
  cases hcourse with
  | misused => cases h
  | listed => cases h
  | idle => cases h
  | performed => exact absurd h ending_execute_ne
  | unfiltered _ _ hfilter =>
    obtain rfl := Ending.failed.inj h
    rw [filter] at hfilter
    split at hfilter <;> cases hfilter
  | unsettled _ hsettings =>
    obtain rfl := Ending.failed.inj h
    obtain ⟨loaded, changed, rest, happly, hkey⟩ := exists_apply_of_settings hsettings
    obtain rfl : takeAll (split args).2 settingNames = rest := by
      rw [apply_eq loaded (isSome_truth?_of_apply happly)] at happly
      exact (Prod.mk.inj (Except.ok.inj happly)).2
    obtain ⟨value, hvalue⟩ := Option.isSome_iff_exists.1 (Attributes.mem_keys_iff.1 hkey)
    obtain ⟨hgiven, hreason⟩ := get?_takeAll_settingNames.1 hvalue
    refine ⟨mem_keys_split_iff.1 (Attributes.mem_keys_iff.2 ?_), hreason⟩
    rw [hgiven, Option.isSome_some]

end

/-- **Extra parameters are taken by the settings that know them.** If what is
given for tables are truth values, each setting becomes what is given under
the first of its names that is given, and stays as it was without one. The
parameters that are left are those with an unknown name, and those that were
passed over because another name of their setting counts; they keep their
values. So just the unknown names are left where no given name is passed
over. And only the name of a parameter that is left is ever reported. -/
theorem apply_takesKnown (s : Settings) (p : Parameters)
    (hvalid : ∀ name ∈ tableNames, ∀ word, p.get? name = some word →
      (truth? word).isSome = true) :
    (∃ rest, apply s p = .ok (asked s p, rest) ∧
      (∀ key value, rest.get? key = some value ↔
        p.get? key = some value ∧ (key ∉ settingNames.flatten ∨ PassedOver p key)) ∧
      ((∀ key value, rest.get? key = some value ↔
          p.get? key = some value ∧ key ∉ settingNames.flatten) ↔
        ∀ key, (p.get? key).isSome = true → ¬ PassedOver p key)) ∧
    ∀ files environment args key,
      (run files environment args).ending = .failed (.unknownParameter key) →
      extraMark ++ key ∈ args ∧
        (key ∉ settingNames.flatten ∨ PassedOver (split args).2 key) := by
  have happly : apply s p = .ok (asked s p, takeAll p settingNames) := by
    refine apply_eq s fun word hword => ?_
    obtain ⟨name, hname, hget⟩ := List.exists_of_findSome?_eq_some hword
    exact hvalid name hname word hget
  refine ⟨⟨_, happly, fun key value => get?_takeAll_settingNames, fun hleft key hgiven hover => ?_,
    fun hnone key value => get?_takeAll_settingNames.trans (and_congr_right fun hgiven => ?_)⟩,
    fun files environment args key => of_ending_run⟩
  · -- what is passed over is left, and its name is known
    obtain ⟨value, hvalue⟩ := Option.isSome_iff_exists.1 hgiven
    have ⟨names, hnames, hkey, _⟩ := hover
    have hunknown := ((hleft key value).1 (get?_takeAll_settingNames.2 ⟨hvalue, .inr hover⟩)).2
    exact hunknown (List.mem_flatten.2 ⟨names, hnames, hkey⟩)
  · exact or_iff_left (hnone key (by rw [hgiven, Option.isSome_some]))

/-- An unknown parameter among known ones, one of them under its second
name. -/
def themeParameters : Parameters :=
  .ofPairs [("theme", "dark"), ("suffix", ".b"), ("multiline-tables", "NO")]

/-- It is left, and it is reported. -/
theorem apply_takesKnown_theme :
    (∀ name ∈ tableNames, ∀ word, themeParameters.get? name = some word →
        (truth? word).isSome = true) ∧
      asked .standard themeParameters =
        { Settings.standard with
          options := { Options.standard with suffix := ".b", rebuildTables := false } } ∧
      (∃ rest, apply .standard themeParameters = .ok (asked .standard themeParameters, rest) ∧
        rest.get? "theme" = some "dark".toList) ∧
      (run .empty none ["mdpp", "t.json", "--extra-theme"]).ending =
        .failed (.unknownParameter "theme") ∧
      ("theme".toList ∉ settingNames.flatten ∨
        PassedOver (split ["mdpp", "t.json", "--extra-theme"]).2 "theme") := by
  have hvalid : ∀ name ∈ tableNames, ∀ word, themeParameters.get? name = some word →
      (truth? word).isSome = true := fun name hname word hword => by
    have hall : ∀ name ∈ tableNames, (themeParameters.get? name).all fun word =>
        (truth? word).isSome := by decide
    have hword' := hall name hname
    rwa [hword, Option.all_some] at hword'
  have hunknown : "theme".toList ∉ settingNames.flatten := by decide
  have hrun : (run .empty none ["mdpp", "t.json", "--extra-theme"]).ending =
      .failed (.unknownParameter "theme") := by rfl
  obtain ⟨⟨rest, hrest, hleft, -⟩, hreport⟩ := apply_takesKnown .standard themeParameters hvalid
  have hasked : asked .standard themeParameters =
      { Settings.standard with
        options := { Options.standard with suffix := ".b", rebuildTables := false } } := by decide
  have hgiven : themeParameters.get? "theme" = some "dark".toList := by decide
  have htheme : rest.get? "theme" = some "dark".toList :=
    (hleft "theme" "dark").2 ⟨hgiven, .inl hunknown⟩
  have hreported := (hreport .empty none _ "theme" hrun).2
  exact ⟨hvalid, hasked, ⟨rest, hrest, htheme⟩, hrun, hreported⟩

/-- Both names of a suffix. -/
def bothSuffixes : Parameters :=
  .ofPairs [("outfilesuffix", ".a"), ("suffix", ".b")]

/-- **A known name is reported as unknown** where the other name of its setting
is given as well. -/
theorem apply_leavesAlias :
    (∀ name ∈ tableNames, bothSuffixes.get? name = none) ∧
      "suffix".toList ∈ settingNames.flatten ∧
      (¬ ∃ changed rest, apply .standard bothSuffixes = .ok (changed, rest) ∧
        ∀ key ∈ rest.keys, key ∉ settingNames.flatten) ∧
      (run .empty none
        ["mdpp", "t.json", "--extra-outfilesuffix", ".a", "--extra-suffix", ".b"]).ending =
        .failed (.unknownParameter "suffix") := by
  refine ⟨by decide, by decide, ?_, rfl⟩
  rintro ⟨changed, rest, happly, hrest⟩
  have hleft : apply .standard bothSuffixes =
      .ok (asked .standard bothSuffixes, .ofPairs [("suffix", ".b")]) := rfl
  obtain rfl : Attributes.ofPairs [("suffix", ".b")] = rest :=
    congrArg Prod.snd (Except.ok.inj (hleft.symm.trans happly))
  exact hrest "suffix" (by decide) (by decide)

end CommandLine

end Treedown
