import Treedown.Text.Casing
import Treedown.Text.Quoted
/-!
# The log

What a run reports about its way is a row of records. Each has a level and
the name of the part that it comes from. A filter, written as directives
with commas between them, says which of them are shown: a directive sets a
level for the parts whose names start in some way, and the one that says
the most about a part decides.
-/

namespace Treedown

namespace Log

/-- **How much a record matters**, the most first. -/
inductive Level
  | error
  | warn
  | info
  | debug
  | trace
  deriving DecidableEq, Repr

namespace Level

/-- The name of a level. -/
def name : Level → Text
  | .error => "ERROR"
  | .warn => "WARN"
  | .info => "INFO"
  | .debug => "DEBUG"
  | .trace => "TRACE"

/-- The place of a level, counted from one. -/
def rank : Level → Nat
  | .error => 1
  | .warn => 2
  | .info => 3
  | .debug => 4
  | .trace => 5

end Level

/-- **A record.** -/
structure Record where
  level : Level
  /-- The part that it comes from. -/
  source : Text
  message : Text
  /-- Names and values. -/
  fields : List (Text × Text)
  deriving DecidableEq

/-- A record on a line. -/
def Record.line (r : Record) : Text :=
  [' '].intercalate
    (r.level.name :: r.message :: r.fields.map fun (name, value) => name ++ '=' :: value)

/-! ## Filters -/

/-- What a filter says about the parts whose names start with `source`:
records up to `limit` are shown. -/
structure Directive where
  source : Text
  limit : Nat
  deriving DecidableEq, Repr

/-- Directives, of which the closest to a part counts. -/
abbrev Filter := List Directive

/-- The words for the limits, from none to all. -/
def limitNames : List Text :=
  ["off", "error", "warn", "info", "debug", "trace"]

/-- The limit that a word or a digit stands for. No word stands for
errors. -/
def limit? (t : Text) : Option Nat :=
  if t.isEmpty then some 1
  else match limitNames.findIdx? (· = Text.lower t) with
    | some n => some n
    | none => (List.range limitNames.length).find? fun n => Text.ofNat n = t

/-- Whether a character may stand in front of the name of a part. -/
def startsSource (c : Char) : Bool :=
  c.isAlphanum || c == '_' || c == ':' || c == '-'

/-- The directive that a text stands for: a limit for all parts, a limit
for some, or the name of parts of which everything is shown. -/
def directive? (t : Text) : Option Directive :=
  match limit? t with
  | some n => some ⟨[], n⟩
  | none =>
    if !(t.head?.any startsSource) then none
    else match Text.cutAt '=' t with
      | some (source, limit) => (limit? limit).map (⟨source, ·⟩)
      | none => some ⟨t, Level.trace.rank⟩

/-- **The filter that a text stands for.** An empty one shows errors. -/
def filter? (t : Text) : Option Filter :=
  match (t.splitOn ',').filter (!·.isEmpty) with
  | [] => some [⟨[], Level.error.rank⟩]
  | texts => texts.mapM fun t => directive? (Text.trim t)

/-- The better of two directives for a part: the one with the longer name,
and of two with one name the later. -/
def closer (source : Text) (best : Option Directive) (d : Directive) : Option Directive :=
  if !d.source.isPrefixOf source then best
  else match best with
    | none => some d
    | some b => if b.source.length ≤ d.source.length then some d else some b

/-- **Whether a filter shows a record.** -/
def Filter.shows (f : Filter) (r : Record) : Bool :=
  match f.foldl (closer r.source) none with
  | some d => r.level.rank ≤ d.limit
  | none => false

end Log

end Treedown
