import Treedown.CommandLine.Run
import Treedown.Proofs.CommandLine.Separation
/-!
# Command line — the command that may be left out

The name of the first command may be left out, and naming it changes nothing
(`run_nameDefaultCommand`). Arguments that begin with a word that is no
command are never understood as they stand: whatever comes behind the word,
reading stops at it (`parse_of_leadsWithInput`). So what they amount to, be
it a command, an error or a request for help, is what comes of reading them
a second time, and that is how the arguments with the name are read at once.

The extra parameters are taken out before. The name stands in front of them
all and is no extra parameter, so neither does it take a value nor is it
taken for one (`split_cons`).
-/

namespace Treedown

namespace CommandLine

variable {program first : Text} {args rest : List Text}

/-! ## Reading twice -/

/-- The name of the first command. -/
def defaultCommand : Text := "convert"

theorem after?_extraMark_defaultCommand : Text.after? extraMark defaultCommand = none := by decide

/-- **The first argument is an input** that stands where a command should: it
does not look like an option, names no command and does not ask for help. -/
structure LeadsWithInput (first : Text) : Prop where
  noOption : first.head? ≠ some '-'
  noConvert : first ≠ "convert".toList
  noIncludes : first ≠ "rewrite-includes".toList
  noHelp : first ≠ "help".toList

namespace LeadsWithInput

theorem ofWord?_eq_none (h : LeadsWithInput first) : Scope.ofWord? first = none := by
  rw [Scope.ofWord?, if_neg h.noConvert, if_neg h.noIncludes]

theorem isCommandWord_eq_false (h : LeadsWithInput first) : isCommandWord first = false := by
  rw [isCommandWord, h.ofWord?_eq_none, Option.isSome_none, Bool.or_false]
  exact decide_eq_false h.noHelp

theorem looks_eq_word (h : LeadsWithInput first) : looks first = .word := by
  unfold looks
  split
  · exact absurd rfl h.noOption
  · exact absurd rfl h.noOption
  · exact absurd rfl h.noOption
  · rfl

end LeadsWithInput

/-- **Reading stops at an input in front of which no command stands.** -/
theorem parse_of_leadsWithInput (program : Text) (h : LeadsWithInput first) (rest : List Text) :
    parse (program :: first :: rest) = .error .unknownCommand := by
  have hword : first ≠ helpWord := h.noHelp
  -- the word is refused before anything behind it is looked at
  have hscan : scan .root {} false (first :: rest) = .error .unknownCommand := by
    rw [scan]
    simp only [Progress.awaits, hword, h.ofWord?_eq_none, h.looks_eq_word]
    rfl
  rw [parse, List.tail_cons, hscan]
  rfl

/-- So the name of the command is put in for it. -/
theorem parseLoosely_of_leadsWithInput (program : Text) (h : LeadsWithInput first)
    (rest : List Text) :
    parseLoosely (program :: first :: rest) = parse (program :: defaultCommand :: first :: rest) := by
  have hname : withDefaultCommand? (program :: first :: rest) =
      some (program :: defaultCommand :: first :: rest) := by
    rw [withDefaultCommand?, if_neg]
    · rfl
    · simp [h.noOption, h.isCommandWord_eq_false]
  rw [parseLoosely, parse_of_leadsWithInput program h, hname]

/-- Arguments with the name are read once. -/
theorem parseLoosely_defaultCommand (program : Text) (args : List Text) :
    parseLoosely (program :: defaultCommand :: args) = parse (program :: defaultCommand :: args) := by
  have hname : withDefaultCommand? (program :: defaultCommand :: args) = none := by
    rw [withDefaultCommand?, if_pos]
    rfl
  rw [parseLoosely, hname]
  cases parse (program :: defaultCommand :: args) <;> rfl

/-! ## The whole run -/

/-- **Naming the default command changes nothing.** Where an input leads the
arguments without their extra parameters, the run is the one that has the
name of the command right behind that of the program: it ends alike, with
the same code and the same output, and leaves the same log and the same
files. -/
theorem run_nameDefaultCommand (files : Files) (environment : Option Text)
    (hsplit : (split (program :: args)).1 = program :: first :: rest) (h : LeadsWithInput first) :
    run files environment (program :: defaultCommand :: args) =
      run files environment (program :: args) := by
  have hmem : program ∈ (split (program :: args)).1 := by
    rw [hsplit]
    exact List.mem_cons_self
  -- the name of the program is still there, so it took no argument with it
  have hprogram : Text.after? extraMark program = none := after?_eq_none_of_mem hmem
  have hargs : (split args).1 = first :: rest := by
    rw [split_cons hprogram] at hsplit
    exact (List.cons.inj hsplit).2
  have hparse : parseLoosely (program :: defaultCommand :: first :: rest) =
      parseLoosely (program :: first :: rest) := by
    rw [parseLoosely_defaultCommand, parseLoosely_of_leadsWithInput program h]
  simp only [run, split_cons hprogram, split_cons after?_extraMark_defaultCommand, hargs, hparse]

/-- An input that comes behind an extra parameter with a value of its own,
and a request for help that only the command understands. -/
theorem run_nameDefaultCommand_behindExtra :
    (split ["mdpp", "--extra-idprefix", "sec-", "t.json", "-h"]).1 =
        "mdpp".toList :: "t.json".toList :: ["-h"] ∧
      LeadsWithInput "t.json" ∧
      run .empty none ["mdpp", "convert", "--extra-idprefix", "sec-", "t.json", "-h"] =
        run .empty none ["mdpp", "--extra-idprefix", "sec-", "t.json", "-h"] := by
  have hsplit : (split ["mdpp", "--extra-idprefix", "sec-", "t.json", "-h"]).1 =
      "mdpp".toList :: "t.json".toList :: ["-h"] := by decide
  have hinput : LeadsWithInput "t.json" := ⟨by decide, by decide, by decide, by decide⟩
  exact ⟨hsplit, hinput, run_nameDefaultCommand .empty none hsplit hinput⟩

end CommandLine

end Treedown
