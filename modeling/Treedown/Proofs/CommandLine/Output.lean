import Treedown.Proofs.CommandLine.Effects
/-!
# Command line — where the output goes

A command comes to a text, and the text is printed or written to a file.
Where it goes says nothing about what it is (`execute_eq_finish`): there is
one backend only, so the name of the output does not choose another, and
everything that is read has been read before the text is written. So the path
may be that of the input, of a file with settings or of the source of a
table. `sameOutput_run` puts this for whole runs, and says with it what the
text is: the library's own, with the settings that layers and extra
parameters amount to.

Two command lines may give the same extra parameters in different orders.
They mean the same, since parameters are looked up by name (`Agree`).
-/

namespace Treedown

namespace CommandLine

/-! ## Steps that can fail -/

section

variable {ε ε' α β : Type} {x : Except ε α} {b : β}

/-- Two steps come to something if the first does and the second goes on from
there. -/
theorem bind_eq_ok_iff {f : α → Except ε β} :
    x >>= f = .ok b ↔ ∃ a, x = .ok a ∧ f a = .ok b := by
  cases x with
  | error e => exact iff_of_false (nomatch ·) fun ⟨_, h, _⟩ => nomatch h
  | ok a => exact ⟨fun h => ⟨a, rfl, h⟩, fun ⟨_, h, hb⟩ => Except.ok.inj h ▸ hb⟩

/-- Success has no part in the wording of an error. -/
theorem mapError_eq_ok_iff {f : ε → ε'} {a : α} : x.mapError f = .ok a ↔ x = .ok a := by
  cases x with
  | error e => exact iff_of_false (nomatch ·) (nomatch ·)
  | ok a' => exact ⟨fun h => congrArg _ (Except.ok.inj h), fun h => congrArg _ (Except.ok.inj h)⟩

end

/-! ## Extra parameters -/

section

variable {p q : Parameters} {s : Settings}

/-- **The same parameters**, in whatever order. -/
def Agree (p q : Parameters) : Prop :=
  ∀ key, p.get? key = q.get? key

theorem get?_erase (p : Attributes) (key other : Text) :
    (p.erase key).get? other = if other = key then none else p.get? other := by
  rw [Attributes.get?, Attributes.get?, Attributes.erase]
  by_cases h : other = key
  · rw [if_pos h, h]
    exact Files.lookup_filter_self p.entries
  · rw [if_neg h]
    exact Files.lookup_filter_ne h p.entries

theorem Agree.erase (h : Agree p q) (key : Text) : Agree (p.erase key) (q.erase key) := by
  intro other
  rw [get?_erase, get?_erase, h other]

/-- No parameter is left. -/
theorem keys_eq_nil_iff : p.keys = [] ↔ ∀ key, p.get? key = none := by
  constructor
  · intro h key
    rw [Attributes.get?, List.map_eq_nil_iff.1 h]
    rfl
  · intro h
    cases hentries : p.entries with
    | nil => rw [Attributes.keys, hentries, List.map_nil]
    | cons e rest =>
      have hfirst := h e.1
      rw [Attributes.get?, hentries, List.lookup_cons, beq_self_eq_true] at hfirst
      cases hfirst

/-- The same is taken from the same parameters, and leaves the same. -/
theorem Agree.take (h : Agree p q) {names : List Text} {value : Option Text} {rest : Parameters}
    (hp : take p names = (value, rest)) :
    ∃ rest', take q names = (value, rest') ∧ Agree rest rest' := by
  induction names with
  | nil =>
    cases hp
    exact ⟨q, rfl, h⟩
  | cons key names ih =>
    rw [CommandLine.take, h key] at hp
    rw [CommandLine.take]
    cases hget : q.get? key with
    | none => exact ih (by simpa [hget] using hp)
    | some found =>
      simp only [hget, Prod.mk.injEq] at hp
      obtain ⟨rfl, rfl⟩ := hp
      exact ⟨q.erase key, rfl, h.erase key⟩

/-- The same settings, and the same parameters that have not been looked at. -/
inductive SameState : Settings × Parameters → Settings × Parameters → Prop
  | mk (s : Settings) {p q : Parameters} (h : Agree p q) : SameState (s, p) (s, q)

variable {x y z : Settings × Parameters}

theorem SameState.override (h : SameState x y) (names : List Text)
    (change : Settings → Text → Settings) :
    SameState (override names change x) (override names change y) := by
  obtain ⟨s, hagree⟩ := h
  rename_i p q
  unfold CommandLine.override
  obtain ⟨⟨value, rest⟩, hp⟩ : ∃ taken, CommandLine.take p names = taken := ⟨_, rfl⟩
  obtain ⟨rest', hq, hrest⟩ := hagree.take hp
  simp only [hp, hq]
  cases value with
  | none => exact .mk s hagree
  | some value => exact .mk (change s value) hrest

theorem SameState.overrideTables (h : SameState x y) (hx : overrideTables x = .ok z) :
    ∃ z', overrideTables y = .ok z' ∧ SameState z z' := by
  obtain ⟨s, hagree⟩ := h
  rename_i p q
  unfold CommandLine.overrideTables at hx ⊢
  obtain ⟨⟨value, rest⟩, hp⟩ :
      ∃ taken, CommandLine.take p ["multiline", "multiline-tables"] = taken := ⟨_, rfl⟩
  obtain ⟨rest', hq, hrest⟩ := hagree.take hp
  simp only [hp] at hx
  simp only [hq]
  cases value with
  | none =>
    cases hx
    exact ⟨_, rfl, .mk s hagree⟩
  | some word =>
    cases htruth : truth? word with
    | none =>
      simp only [htruth] at hx
      cases hx
    | some b =>
      simp only [htruth] at hx ⊢
      cases hx
      exact ⟨_, rfl, .mk _ hrest⟩

/-- **The same parameters change settings alike**, whatever their order. -/
theorem Agree.apply (h : Agree p q) (hx : apply s p = .ok x) :
    ∃ y, apply s q = .ok y ∧ SameState x y := by
  obtain ⟨z, hz, hx⟩ := bind_eq_ok_iff.1 hx
  obtain ⟨z', hz', hsame⟩ :=
    (((SameState.mk s h).override _ _).override _ _).overrideTables hz
  obtain rfl := Except.ok.inj hx
  exact ⟨_, bind_eq_ok_iff.2 ⟨z', hz', rfl⟩, ((hsame.override _ _).override _ _).override _ _⟩

end

/-! ## Settings -/

section

variable {files : Files} {config : Option Text} {extra : Parameters} {s : Settings}

/-- **Settings that a run takes**: the layers can be loaded, and each extra
parameter changes what comes of them. -/
def Settles (files : Files) (config : Option Text) (extra : Parameters) (s : Settings) : Prop :=
  ∃ loaded rest, Settings.load files (layers config) = .ok loaded ∧
    apply loaded extra = .ok (s, rest) ∧ ∀ key, rest.get? key = none

theorem settings_eq_ok_iff :
    settings files config extra = .ok s ↔ Settles files config extra s := by
  simp only [settings, bind_eq_ok_iff, mapError_eq_ok_iff, Settles, Prod.exists]
  constructor
  · rintro ⟨loaded, hload, changed, rest, happly, hkeys⟩
    split at hkeys
    · rename_i hnil
      obtain rfl := Except.ok.inj hkeys
      exact ⟨loaded, rest, hload, happly, keys_eq_nil_iff.1 hnil⟩
    · cases hkeys
  · rintro ⟨loaded, rest, hload, happly, hnone⟩
    refine ⟨loaded, hload, s, rest, happly, ?_⟩
    rw [keys_eq_nil_iff.2 hnone]
    rfl

/-- The order of the extra parameters plays no part. -/
theorem Settles.of_agree {extra' : Parameters} (h : Settles files config extra s)
    (hagree : Agree extra extra') : Settles files config extra' s := by
  obtain ⟨loaded, rest, hload, happly, hnone⟩ := h
  obtain ⟨y, hy, hsame⟩ := hagree.apply happly
  cases hsame with
  | mk _ hrest => exact ⟨loaded, _, hload, hy, fun key => (hrest key).symm.trans (hnone key)⟩

end

/-! ## What a command comes to -/

section

variable {files : Files} {s : Settings} {command : Command} {input t : Text} {o : Options}

/-- The command with another output, or with none. -/
def Command.withOutput (output : Option Text) : Command → Command
  | .convert input backend _ => .convert input backend output
  | .includes input suffix _ => .includes input suffix output

/-- The arguments with another output of their command. -/
def Arguments.withOutput (a : Arguments) (output : Option Text) : Arguments :=
  { a with command := a.command.map (·.withOutput output) }

/-- **What a command comes to**, wherever that goes. -/
def Command.product (files : Files) (s : Settings) : Command → Product
  | .convert input backend _ =>
    CommandLine.convert files s.options input (backend.getD defaultBackend)
  | .includes input suffix _ => substituteIn files (suffix.getD s.options.suffix) input

@[simp] theorem output?_withOutput (output : Option Text) (command : Command) :
    (command.withOutput output).output? = output := by
  cases command <;> rfl

@[simp] theorem product_withOutput (output : Option Text) (command : Command) :
    (command.withOutput output).product files s = command.product files s := by
  cases command <;> rfl

/-- The name of an output chooses no other backend than the one that is taken
anyway. -/
theorem detect?_standard (path : Text) :
    Registry.standard.detect? path = none ∨
      Registry.standard.detect? path = some defaultBackend := by
  cases h : Registry.standard.detect? path with
  | none => exact .inl rfl
  | some name =>
    obtain ⟨extension, -, h⟩ := Option.bind_eq_some_iff.1 h
    obtain ⟨b, hb, h⟩ := Option.bind_eq_some_iff.1 h
    have hmem : b ∈ [Backend.markdown] := List.mem_of_find?_eq_some hb
    obtain rfl := List.mem_singleton.1 hmem
    exact .inr h.symm

theorem selectBackend_eq (named output : Option Text) :
    selectBackend named output = named.getD defaultBackend := by
  cases named with
  | some name => rfl
  | none =>
    cases output with
    | none => rfl
    | some path =>
      rcases detect?_standard path with h | h
      · rw [selectBackend, Option.none_or, Option.bind_some, h]
      · rw [selectBackend, Option.none_or, Option.bind_some, h]
        rfl

/-- **The output is looked at last.** -/
theorem execute_eq_finish (files : Files) (s : Settings) (command : Command) :
    execute files s command = finish files command.output? (command.product files s) := by
  cases command with
  | convert input backend output => rw [execute, selectBackend_eq]; rfl
  | includes input suffix output => rfl

/-- A command that comes to nothing fails. -/
theorem finish_error {product : Product} {e : RunError} (h : product.2 = .error e)
    (output : Option Text) : finish files output product = ⟨.failed e, product.1, files⟩ := by
  obtain ⟨log, text⟩ := product
  cases h
  rfl

/-- A text that goes nowhere else is printed. -/
theorem finish_none {product : Product} (h : product.2 = .ok t) :
    finish files none product = ⟨.printed t, product.1, files⟩ := by
  obtain ⟨log, text⟩ := product
  cases h
  rfl

/-- A text that can be written is. -/
theorem finish_some {product : Product} {path : Text} {after : Files} (h : product.2 = .ok t)
    (hwrite : files.writeText path t = .ok after) :
    finish files (some path) product = ⟨.wrote path t, product.1 ++ [writtenRecord path], after⟩ := by
  obtain ⟨log, text⟩ := product
  cases h
  simp only [finish, hwrite]

/-- A tree that is rendered is what the library renders. -/
theorem convert_eq_ok_iff : (convert files o input defaultBackend).2 = .ok t ↔
    ∃ json, files.readText input = .ok json ∧ Render.renderJson ⟨o, files⟩ json = .ok t := by
  have hrendered : (convert files o input defaultBackend).2 = .ok t ↔
      ∃ root, files.loadTree input = .ok root ∧ Render.renderTree ⟨o, files⟩ root = .ok t := by
    have hget : Registry.standard.get defaultBackend = .ok .markdown := rfl
    rw [convert, hget]
    cases hload : files.loadTree input with
    | error e => exact iff_of_false (nomatch ·) fun ⟨_, h, _⟩ => nomatch h
    | ok root =>
      simp only [Backend.markdown, mapError_eq_ok_iff, Except.ok.injEq, exists_eq_left']
  rw [hrendered]
  simp only [Files.loadTree, Files.load, Render.renderJson, bind_eq_ok_iff, mapError_eq_ok_iff]
  constructor
  · rintro ⟨root, ⟨json, hread, hjson⟩, hroot⟩
    exact ⟨json, hread, root, hjson, hroot⟩
  · rintro ⟨json, hread, root, hjson, hroot⟩
    exact ⟨root, ⟨json, hread, hjson⟩, hroot⟩

/-- Includes that are replaced are those that the library replaces. -/
theorem substituteIn_eq_ok_iff {suffix : Text} : (substituteIn files suffix input).2 = .ok t ↔
    ∃ source, files.readText input = .ok source ∧ t = Include.substitute suffix source := by
  rw [substituteIn, Files.load]
  cases files.readText input with
  | error cause => exact iff_of_false (nomatch ·) fun ⟨_, h, _⟩ => nomatch h
  | ok source => simp [Except.mapError, eq_comm]

end

/-! ## Runs -/

section

variable {files : Files} {environment : Option Text} {args args' : List Text} {a : Arguments}
  {command : Command} {s : Settings} {f : Log.Filter} {t : Text}

theorem run_of_performs (h : Performs files environment args command s f) :
    run files environment args =
      { execute files s command with log := (execute files s command).log.filter f.shows } := by
  obtain ⟨a, hparse, hsettings, hfilter, hlist, hcommand⟩ := h
  have hready : (do
      let s ← settings files a.config (split args).2
      return (s, ← filter (logDirective a.verbose environment s.level)) :
        Except RunError (Settings × Log.Filter)) = .ok (s, f) :=
    bind_eq_ok_iff.2 ⟨s, hsettings, bind_eq_ok_iff.2 ⟨f, hfilter, rfl⟩⟩
  simp only [run, hparse, start, hready, hlist, hcommand, Bool.false_eq_true, if_false]

/-- **What a run takes** before it comes to its command: settings, and a filter
of the log. -/
structure Accepts (files : Files) (environment : Option Text) (extra : Parameters) (a : Arguments)
    (s : Settings) : Prop where
  settles : Settles files a.config extra s
  filter : (Log.filter? (logDirective a.verbose environment s.level)).isSome = true

theorem filter_eq_ok_iff {directive : Text} :
    filter directive = .ok f ↔ Log.filter? directive = some f := by
  rw [filter]
  cases Log.filter? directive with
  | none => exact iff_of_false (nomatch ·) (nomatch ·)
  | some f' =>
    exact ⟨fun h => congrArg _ (Except.ok.inj h), fun h => congrArg _ (Option.some.inj h)⟩

theorem exists_performs_iff (hparse : parseLoosely (split args).1 = .ok a)
    (hlist : a.listBackends = false) :
    (∃ f, Performs files environment args command s f) ↔
      a.command = some command ∧ Accepts files environment (split args).2 a s := by
  constructor
  · rintro ⟨f, a', hparse', hsettings, hfilter, -, hcommand⟩
    obtain rfl := Except.ok.inj (hparse.symm.trans hparse')
    exact ⟨hcommand, settings_eq_ok_iff.1 hsettings,
      Option.isSome_iff_exists.2 ⟨f, filter_eq_ok_iff.1 hfilter⟩⟩
  · rintro ⟨hcommand, hsettles, hfilter⟩
    obtain ⟨f, hfilter⟩ := Option.isSome_iff_exists.1 hfilter
    exact ⟨f, a, hparse, settings_eq_ok_iff.2 hsettles, filter_eq_ok_iff.2 hfilter, hlist, hcommand⟩

/-- The output that arguments ask for. -/
def Arguments.output? (a : Arguments) : Option Text :=
  a.command.bind Command.output?

/-- **A run succeeds and prints a text.** -/
def Run.Prints (r : Run) (t : Text) : Prop :=
  r.ending.code = 0 ∧ r.ending.stdout = t

/-- **A run succeeds and leaves a text at a path**, and prints nothing. -/
def Run.Leaves (r : Run) (path t : Text) : Prop :=
  r.ending.code = 0 ∧ r.ending.stdout = [] ∧ r.files.readText path = .ok t

/-- **A run that prints the text of its command** has come to this text. -/
theorem prints_run_iff (hparse : parseLoosely (split args).1 = .ok a)
    (hlist : a.listBackends = false) (hout : a.output? = none) :
    (run files environment args).Prints t ↔
      ∃ command s f, Performs files environment args command s f ∧
        (command.product files s).2 = .ok t := by
  -- no command that is carried out has an output
  have hnone {command : Command} {s : Settings} {f : Log.Filter}
      (h : Performs files environment args command s f) : command.output? = none := by
    have hcommand := ((exists_performs_iff hparse hlist).1 ⟨f, h⟩).1
    rwa [Arguments.output?, hcommand, Option.bind_some] at hout
  constructor
  · rintro ⟨hcode, rfl⟩
    have hcourse := course_run files environment args
    generalize run files environment args = r at hcourse hcode ⊢
    cases hcourse with
    | misused hmisused =>
      rw [hparse] at hmisused
      cases hmisused
    | unsettled | unfiltered | idle => cases hcode
    | listed hlisted hall =>
      obtain rfl := Except.ok.inj (hparse.symm.trans hlisted)
      rw [hlist] at hall
      cases hall
    | @performed command s f hperforms =>
      refine ⟨command, s, f, hperforms, ?_⟩
      rw [execute_eq_finish, hnone hperforms] at hcode ⊢
      cases hproduct : (command.product files s).2 with
      | error e =>
        rw [finish_error hproduct] at hcode
        cases hcode
      | ok t =>
        rw [finish_none hproduct]
        rfl
  · rintro ⟨command, s, f, hperforms, hproduct⟩
    rw [run_of_performs hperforms, execute_eq_finish, hnone hperforms, finish_none hproduct]
    exact ⟨rfl, rfl⟩

/-- The same for arguments that ask for a certain command. -/
theorem prints_run_iff_of_command (hparse : parseLoosely (split args).1 = .ok a)
    (hlist : a.listBackends = false) (hcommand : a.command = some command)
    (hout : command.output? = none) :
    (run files environment args).Prints t ↔
      ∃ s, Accepts files environment (split args).2 a s ∧ (command.product files s).2 = .ok t := by
  rw [prints_run_iff hparse hlist (by rw [Arguments.output?, hcommand, Option.bind_some, hout])]
  constructor
  · rintro ⟨command', s, f, hperforms, hproduct⟩
    obtain ⟨hcommand', haccepts⟩ := (exists_performs_iff hparse hlist).1 ⟨f, hperforms⟩
    obtain rfl := Option.some.inj (hcommand.symm.trans hcommand')
    exact ⟨s, haccepts, hproduct⟩
  · rintro ⟨s, haccepts, hproduct⟩
    obtain ⟨f, hperforms⟩ := (exists_performs_iff hparse hlist).2 ⟨hcommand, haccepts⟩
    exact ⟨command, s, f, hperforms, hproduct⟩

/-- The same command with another output is carried out with the same
settings. -/
theorem Performs.withOutput (h : Performs files environment args command s f)
    (hparse : parseLoosely (split args).1 = .ok a) {output : Option Text}
    (hparse' : parseLoosely (split args').1 = .ok (a.withOutput output))
    (hextra : Agree (split args).2 (split args').2) :
    Performs files environment args' (command.withOutput output) s f := by
  obtain ⟨a', ha, hsettings, hfilter, hlist, hcommand⟩ := h
  obtain rfl := Except.ok.inj (hparse.symm.trans ha)
  have hsettles := (settings_eq_ok_iff.1 hsettings).of_agree hextra
  refine ⟨a.withOutput output, hparse', settings_eq_ok_iff.2 hsettles, hfilter, hlist, ?_⟩
  rw [Arguments.withOutput, hcommand]
  rfl

/-- **One output, wherever it goes.** The arguments `args` are understood as
`a` and name no output. -/
structure SameOutput (files : Files) (environment : Option Text) (args : List Text)
    (a : Arguments) : Prop where
  /-- What is printed is what is left at a path that the arguments name in
  addition, whatever else is read from there. -/
  sent {args' : List Text} {path t : Text}
    (hparse : parseLoosely (split args').1 = .ok (a.withOutput (some path)))
    (hextra : Agree (split args).2 (split args').2) (hpath : files.Writable path)
    (hprints : (run files environment args).Prints t) :
    (run files environment args').Leaves path t
  /-- A tree is rendered as the library renders it. -/
  converted {input : Text} {backend : Option Text} (t : Text)
    (hcommand : a.command = some (.convert input backend none))
    (hbackend : backend = none ∨ backend = some defaultBackend) :
    (run files environment args).Prints t ↔
      ∃ s json, Accepts files environment (split args).2 a s ∧ files.readText input = .ok json ∧
        Render.renderJson ⟨s.options, files⟩ json = .ok t
  /-- The includes of a source are replaced as the library replaces them. -/
  substituted {input : Text} {suffix : Option Text} (t : Text)
    (hcommand : a.command = some (.includes input suffix none)) :
    (run files environment args).Prints t ↔
      ∃ s source, Accepts files environment (split args).2 a s ∧
        files.readText input = .ok source ∧
        t = Include.substitute (suffix.getD s.options.suffix) source

/-- **The output of a run is the same wherever it goes**, and it is that of the
library. -/
theorem sameOutput_run (files : Files) (environment : Option Text)
    (hparse : parseLoosely (split args).1 = .ok a) (hlist : a.listBackends = false)
    (hout : a.output? = none) : SameOutput files environment args a where
  sent hparse' hextra hpath hprints := by
    obtain ⟨command, s, f, hperforms, hproduct⟩ := (prints_run_iff hparse hlist hout).1 hprints
    obtain ⟨after, hwrite⟩ := (Files.exists_writeText_iff _).2 hpath
    rw [run_of_performs (hperforms.withOutput hparse hparse' hextra), execute_eq_finish,
      output?_withOutput, product_withOutput, finish_some hproduct hwrite]
    exact ⟨rfl, rfl, Files.readText_of_writeText hwrite⟩
  converted {input backend} t hcommand hbackend := by
    have hnamed (s : Settings) : (Command.product files s (.convert input backend none)).2 =
        (convert files s.options input defaultBackend).2 := by
      rcases hbackend with rfl | rfl
      · rfl
      · rfl
    rw [prints_run_iff_of_command hparse hlist hcommand rfl]
    simp only [hnamed, convert_eq_ok_iff, exists_and_left]
  substituted t hcommand := by
    rw [prints_run_iff_of_command hparse hlist hcommand rfl]
    simp only [Command.product, substituteIn_eq_ok_iff, exists_and_left]

/-- A tree that is a table, and the source of the table. -/
def tableAndSource : Files :=
  ⟨[(["t.json"], .text (Node.encode ((Node.ofKind (.known .table)).withGrid
      { header := some ["a", "b"]
        rows := []
        columns := none
        source := some ⟨some "t.adoc", none, none⟩ }))),
    (["t.adoc"], .text "|===\n|a |b\n|c |d\ne\n|===\n")]⟩

/-- The table is written over its source. -/
theorem sameOutput_run_overSource :
    SameOutput tableAndSource none ["mdpp", "convert", "t.json"]
        ⟨false, none, 0, some (.convert "t.json" none none)⟩ ∧
      (run tableAndSource none ["mdpp", "convert", "t.json"]).Prints
        "<!-- multiline -->\n| a | b  |\n|---|----|\n| c | d  |\n|   | e  |" ∧
      (run tableAndSource none ["mdpp", "convert", "t.json", "-o", "t.adoc"]).Leaves "t.adoc"
        "<!-- multiline -->\n| a | b  |\n|---|----|\n| c | d  |\n|   | e  |" := by
  have hsame : SameOutput tableAndSource none ["mdpp", "convert", "t.json"]
      ⟨false, none, 0, some (.convert "t.json" none none)⟩ :=
    sameOutput_run tableAndSource none rfl rfl rfl
  have hprints : (run tableAndSource none ["mdpp", "convert", "t.json"]).Prints
      "<!-- multiline -->\n| a | b  |\n|---|----|\n| c | d  |\n|   | e  |" := by
    unfold Run.Prints
    decide +kernel
  have hpath : tableAndSource.Writable "t.adoc" := .file rfl (by decide)
  exact ⟨hsame, hprints, hsame.sent rfl (fun _ => rfl) hpath hprints⟩

end

end CommandLine

end Treedown
