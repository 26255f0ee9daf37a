import Treedown.CommandLine.Run
import Treedown.Proofs.Files.Writing
/-!
# Command line — what a run changes

A run is all or nothing (`allOrNothing_run`): when it fails, nothing is
printed and the files are as before, and when it succeeds at most one file has
changed, the one that the command was told to write. There are many ways for
a run to end before its command is carried out, and `course_run` lists them in
the order in which a run comes to them. What is left are the ends of a command
(`finished_execute`), and these differ in the product only, whatever the
command is.
-/

namespace Treedown

namespace CommandLine

variable {files : Files} {environment : Option Text} {args : List Text}

/-! ## The end of a command -/

/-- The path that a command writes its text to, unless it prints it. -/
def Command.output? : Command → Option Text
  | .convert _ _ output | .includes _ _ output => output

/-- **The ends of a command** whose text goes to an output. -/
inductive Finished (files : Files) (output : Option Text) : Run → Prop
  /-- There is no text, or it cannot be written. -/
  | failed (e : RunError) (log : List Log.Record) : Finished files output ⟨.failed e, log, files⟩
  | printed (t : Text) (log : List Log.Record) :
      output = none → Finished files output ⟨.printed t, log, files⟩
  | wrote {path t : Text} {after : Files} (log : List Log.Record) :
      output = some path → files.writeText path t = .ok after →
      Finished files output ⟨.wrote path t, log, after⟩

theorem finished_finish (files : Files) (output : Option Text) (product : Product) :
    Finished files output (finish files output product) := by
  obtain ⟨log, text⟩ := product
  cases text with
  | error e => exact .failed e log
  | ok t =>
    cases output with
    | none => exact .printed t log rfl
    | some path =>
      simp only [finish]
      cases hwrite : files.writeText path t with
      | error cause => exact .failed _ log
      | ok after => exact .wrote _ rfl hwrite

/-- Commands end alike, whatever they do. -/
theorem finished_execute (files : Files) (s : Settings) (command : Command) :
    Finished files command.output? (execute files s command) := by
  cases command with
  | convert input backend output => exact finished_finish files output _
  | includes input suffix output => exact finished_finish files output _

/-- What is shown of the log has no part in the end. -/
theorem Finished.withLog {output : Option Text} {r : Run} (h : Finished files output r)
    (log : List Log.Record) : Finished files output { r with log := log } := by
  cases h with
  | failed e => exact .failed e log
  | printed t _ hout => exact .printed t log hout
  | wrote _ hout hwrite => exact .wrote log hout hwrite

/-! ## The way to a command -/

/-- **A run carries out a command**: its arguments are understood and ask for
the command and for no list of backends, and there are settings and a filter
of the log. -/
def Performs (files : Files) (environment : Option Text) (args : List Text) (command : Command)
    (s : Settings) (f : Log.Filter) : Prop :=
  ∃ a, parseLoosely (split args).1 = .ok a ∧ settings files a.config (split args).2 = .ok s ∧
    filter (logDirective a.verbose environment s.level) = .ok f ∧ a.listBackends = false ∧
    a.command = some command

/-- **The courses of a run**, in the order in which a run comes to its
exits. -/
inductive Course (files : Files) (environment : Option Text) (args : List Text) : Run → Prop
  /-- The arguments are not understood, or ask for help. -/
  | misused {e : UsageError} : parseLoosely (split args).1 = .error e →
      Course files environment args ⟨.usage e, [], files⟩
  /-- The settings cannot be read, or not be changed as the arguments ask. -/
  | unsettled {a : Arguments} {e : RunError} : parseLoosely (split args).1 = .ok a →
      settings files a.config (split args).2 = .error e →
      Course files environment args ⟨.failed e, [], files⟩
  /-- The log cannot be filtered as asked. -/
  | unfiltered {a : Arguments} {s : Settings} {e : RunError} :
      parseLoosely (split args).1 = .ok a → settings files a.config (split args).2 = .ok s →
      filter (logDirective a.verbose environment s.level) = .error e →
      Course files environment args ⟨.failed e, [], files⟩
  /-- The backends are listed, whether or not there is a command. -/
  | listed {a : Arguments} : parseLoosely (split args).1 = .ok a → a.listBackends = true →
      Course files environment args ⟨.printed listing, [], files⟩
  /-- There is nothing to do. -/
  | idle {a : Arguments} : parseLoosely (split args).1 = .ok a → a.listBackends = false →
      a.command = none → Course files environment args ⟨.failed .noCommand, [], files⟩
  | performed {command : Command} {s : Settings} {f : Log.Filter} :
      Performs files environment args command s f →
      Course files environment args
        { execute files s command with log := (execute files s command).log.filter f.shows }

/-- Every run takes one of these courses. -/
theorem course_run (files : Files) (environment : Option Text) (args : List Text) :
    Course files environment args (run files environment args) := by
  simp only [run]
  cases hparse : parseLoosely (split args).1 with
  | error e => exact .misused hparse
  | ok a =>
    simp only [start]
    cases hsettings : settings files a.config (split args).2 with
    | error e => exact .unsettled hparse hsettings
    | ok s =>
      cases hfilter : filter (logDirective a.verbose environment s.level) with
      | error e =>
        simp only [bind, Except.bind, hfilter]
        exact .unfiltered hparse hsettings hfilter
      | ok f =>
        -- from here on nothing can go wrong but for the command
        simp only [bind, Except.bind, pure, Except.pure, hfilter]
        by_cases hlist : a.listBackends = true
        · rw [if_pos hlist]
          exact .listed hparse hlist
        · rw [if_neg hlist]
          have hlist : a.listBackends = false := Bool.not_eq_true _ ▸ hlist
          cases hcommand : a.command with
          | none => exact .idle hparse hlist hcommand
          | some command =>
            exact .performed ⟨a, hparse, hsettings, hfilter, hlist, hcommand⟩

/-! ## The whole run -/

/-- **All or nothing.** A run that fails has no effects, and one that succeeds
has changed at most the file that its command was told to write. -/
structure AllOrNothing (files : Files) (environment : Option Text) (args : List Text) (r : Run) :
    Prop where
  failure : r.ending.code ≠ 0 → r.ending.stdout = [] ∧ r.files = files
  success : r.ending.code = 0 → r.files = files ∨
    ∃ command s f path t place entry, Performs files environment args command s f ∧
      command.output? = some path ∧ files.look path = .ok (place, entry) ∧
      r.ending = .wrote path t ∧ r.ending.stdout = [] ∧
      r.files.at? place = some (.text t) ∧
      ∀ other, other ≠ place → r.files.at? other = files.at? other

/-- Help and the version are printed and are no failure; any other wrong use of
the program is one, and its usage is not printed on standard output. -/
theorem AllOrNothing.misused (e : UsageError) :
    AllOrNothing files environment args ⟨.usage e, [], files⟩ where
  failure hcode := by
    refine ⟨?_, rfl⟩
    cases e with
    | help | version => exact absurd rfl hcode
    | _ => rfl
  success _ := .inl rfl

theorem AllOrNothing.failed (e : RunError) (log : List Log.Record) :
    AllOrNothing files environment args ⟨.failed e, log, files⟩ where
  failure _ := ⟨rfl, rfl⟩
  success _ := .inl rfl

theorem AllOrNothing.printed (t : Text) (log : List Log.Record) :
    AllOrNothing files environment args ⟨.printed t, log, files⟩ where
  failure hcode := absurd rfl hcode
  success _ := .inl rfl

/-- **A run of the program is all or nothing**, whatever its arguments, the
files and the environment are. -/
theorem allOrNothing_run (files : Files) (environment : Option Text) (args : List Text) :
    AllOrNothing files environment args (run files environment args) := by
  have hcourse := course_run files environment args
  generalize run files environment args = r at hcourse ⊢
  cases hcourse with
  | misused => exact .misused _
  | unsettled => exact .failed _ _
  | unfiltered => exact .failed _ _
  | listed => exact .printed _ _
  | idle => exact .failed _ _
  | @performed command s f hperforms =>
    -- what has been done shows in the end of the command, not in its log
    have hend := (finished_execute files s command).withLog
      ((execute files s command).log.filter f.shows)
    generalize { execute files s command with
      log := (execute files s command).log.filter f.shows } = r at hend ⊢
    cases hend with
    | failed e log => exact .failed e log
    | printed t log => exact .printed t log
    | @wrote path t after log hout hwrite =>
      obtain ⟨place, entry, hlook, hat, hothers⟩ := Files.exists_place_of_writeText hwrite
      refine ⟨fun hcode => absurd rfl hcode, fun _ => .inr ?_⟩
      exact ⟨command, s, f, path, t, place, entry, hperforms, hout, hlook, rfl, rfl, hat, hothers⟩

end CommandLine

end Treedown
