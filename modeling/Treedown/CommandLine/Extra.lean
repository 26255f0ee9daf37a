import Treedown.Settings.Basic
/-!
# Command line — extra parameters

An argument `--extra-KEY` sets one of the settings. The argument behind it
is its value, unless it looks like an option or is missing; the value is
then `true`. `split` takes the extra parameters out of the arguments, and
`apply` changes settings by those it knows and leaves the others.
-/

namespace Treedown

namespace CommandLine

/-- Extra parameters are named texts, as the attributes of a node are; the
value of the last one of a name counts. -/
abbrev Parameters := Attributes

/-- What an extra parameter starts with. -/
def extraMark : Text := "--extra-"

/-- The value of a parameter that is given none. -/
def defaultValue : Text := "true"

/-- The arguments that are no extra parameters, and the extra parameters in
order. -/
def separate : List Text → List Text × List (Text × Text)
  | [] => ([], [])
  | arg :: rest =>
    match Text.after? extraMark arg, rest with
    | none, rest => (arg :: (separate rest).1, (separate rest).2)
    | some key, [] => ([], [(key, defaultValue)])
    | some key, value :: after =>
      if value.head? = some '-' then
        ((separate (value :: after)).1, (key, defaultValue) :: (separate (value :: after)).2)
      else ((separate after).1, (key, value) :: (separate after).2)

/-- **The arguments without the extra parameters, and these.** -/
def split (args : List Text) : List Text × Parameters :=
  ((separate args).1, .ofPairs (separate args).2)

/-- The truth value that a word stands for, in either case. -/
def truth? (word : Text) : Option Bool :=
  let word := word.lower
  if ["true", "1", "yes", "y"].any (·.toList == word) then some true
  else if ["false", "0", "no", "n"].any (·.toList == word) then some false
  else none

/-- The value of the first of several names that is there, and the
parameters without that name. -/
def take (p : Parameters) : List Text → Option Text × Parameters
  | [] => (none, p)
  | key :: rest =>
    match p.get? key with
    | some value => (some value, p.erase key)
    | none => take p rest

/-- A setting changed by the first of several names that is there. -/
def override (names : List Text) (change : Settings → Text → Settings)
    (state : Settings × Parameters) : Settings × Parameters :=
  match take state.2 names with
  | (some value, rest) => (change state.1 value, rest)
  | (none, _) => state

/-- The settings with another choice about tables. A value that is no truth
value is the error. -/
def overrideTables (state : Settings × Parameters) : Except Text (Settings × Parameters) :=
  match take state.2 ["multiline", "multiline-tables"] with
  | (none, _) => .ok state
  | (some word, rest) =>
    match truth? word with
    | some b =>
      .ok ({ state.1 with options := { state.1.options with rebuildTables := b } }, rest)
    | none => .error word

/-- **Settings changed by extra parameters**, and the parameters that say
nothing about them. The error is a value that is no truth value. -/
def apply (s : Settings) (p : Parameters) : Except Text (Settings × Parameters) := do
  let state := override ["idprefix"]
    (fun s v => { s with options := { s.options with idPrefix := v } }) (s, p)
  let state := override ["outfilesuffix", "suffix"]
    (fun s v => { s with options := { s.options with suffix := v } }) state
  let state ← overrideTables state
  let state := override ["video-width"]
    (fun s v => { s with options := { s.options with videoWidth := v } }) state
  let state := override ["video-height"]
    (fun s v => { s with options := { s.options with videoHeight := v } }) state
  return override ["log-level", "log"] (fun s v => { s with level := v }) state

end CommandLine

end Treedown
