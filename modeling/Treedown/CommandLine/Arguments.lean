import Treedown.Text.Basic
/-!
# Command line — arguments

The program has two commands, each with options of its own, and a few
options that may stand before or behind the name of the command. `parse`
reads arguments from left to right and stops at the first that does not
fit. An option that waits for its value takes the next argument that does
not look like an option, even the name of a command. That an option was
given twice, or without a value, is noticed when the next one comes.
-/

namespace Treedown

namespace CommandLine

/-- **Why arguments are not understood**, or what they ask for instead of a
run. -/
inductive UsageError
  | help
  | version
  | noArguments
  /-- An option without its value. -/
  | noValue
  /-- A value for an option that takes none. -/
  | surplusValue
  /-- An option that was given before. -/
  | repeated
  | unknownArgument
  | unknownCommand
  | noInput
  deriving DecidableEq, Repr

/-- Options without a value. -/
inductive Flag
  | listBackends
  | verbose
  | help
  | version
  deriving DecidableEq, Repr

/-- Options with a value. -/
inductive Valued
  | config
  | backend
  | output
  | suffix
  deriving DecidableEq, Repr

/-- An option. -/
inductive Switch
  | flag (f : Flag)
  | valued (v : Valued)
  deriving DecidableEq, Repr

/-- Where an argument stands: in front of a command, or behind one. -/
inductive Scope
  | root
  | convert
  | includes
  deriving DecidableEq, Repr

namespace Scope

/-- The command that a word names. -/
def ofWord? (word : Text) : Option Scope :=
  if word = "convert".toList then some .convert
  else if word = "rewrite-includes".toList then some .includes
  else none

/-- The options that may stand here, with their long names and their short
ones. -/
def switches (s : Scope) : List (String × Option Char × Switch) :=
  [("list-backends", none, .flag .listBackends), ("config", none, .valued .config),
    ("verbose", some 'v', .flag .verbose), ("help", some 'h', .flag .help)] ++
  match s with
  | .root => [("version", some 'V', .flag .version)]
  | .convert =>
    [("backend", some 'b', .valued .backend), ("output", some 'o', .valued .output)]
  | .includes =>
    [("suffix", none, .valued .suffix), ("output", some 'o', .valued .output)]

/-- The option with a long name. -/
def long? (s : Scope) (name : Text) : Option Switch :=
  (s.switches.find? fun e => e.1.toList = name).map (·.2.2)

/-- The option with a short name. -/
def short? (s : Scope) (c : Char) : Option Switch :=
  (s.switches.find? fun e => e.2.1 = some c).map (·.2.2)

end Scope

/-- The word that asks for help. -/
def helpWord : Text := "help"

/-- Whether a word names a command or asks for help. -/
def isCommandWord (word : Text) : Bool :=
  word = helpWord || (Scope.ofWord? word).isSome

/-! ## What has been read -/

/-- **What has been given** in one place. -/
structure Given where
  listBackends : Bool := false
  verbose : Option Nat := none
  config : Option Text := none
  backend : Option Text := none
  output : Option Text := none
  suffix : Option Text := none
  input : Option Text := none
  deriving DecidableEq

namespace Given

/-- What was given to an option with a value. -/
def get? (g : Given) : Valued → Option Text
  | .config => g.config
  | .backend => g.backend
  | .output => g.output
  | .suffix => g.suffix

/-- The same with a value given to an option. -/
def put (g : Given) (value : Text) : Valued → Given
  | .config => { g with config := some value }
  | .backend => { g with backend := some value }
  | .output => { g with output := some value }
  | .suffix => { g with suffix := some value }

/-- Whether nothing has been given. -/
def isNone (g : Given) : Bool :=
  g = {}

end Given

/-- What has been given, and the option that may still be waiting for its
value or has just taken it. -/
structure Progress where
  given : Given := {}
  pending : Option (Valued × Option Text) := none

/-- What a reader of arguments comes to. -/
abbrev Read (α : Type) := Except UsageError α

namespace Progress

/-- Whether an option waits for its value. -/
def awaits (p : Progress) : Bool :=
  p.pending.any (·.2.isNone)

/-- The last option put among what has been given. -/
def settle (p : Progress) : Read Progress :=
  match p.pending with
  | none => .ok p
  | some (_, none) => .error .noValue
  | some (v, some value) =>
    if (p.given.get? v).isSome then .error .repeated
    else .ok { given := p.given.put value v }

/-- An option without a value. -/
def raise (p : Progress) (f : Flag) : Read Progress := do
  let p ← p.settle
  match f with
  | .help => throw .help
  | .version => throw .version
  | .listBackends =>
    if p.given.listBackends then throw .repeated
    else return { p with given := { p.given with listBackends := true } }
  | .verbose =>
    return { p with given :=
      { p.given with verbose := some (min 255 (p.given.verbose.getD 0 + 1)) } }

/-- An option whose value comes with it. -/
def assign (p : Progress) (v : Valued) (value : Text) : Read Progress := do
  let p ← p.settle
  settle { p with pending := some (v, some value) }

/-- An option whose value is still to come. -/
def await (p : Progress) (v : Valued) : Read Progress := do
  let p ← p.settle
  return { p with pending := some (v, none) }

/-- A long option, without the dashes. -/
def readLong (p : Progress) (s : Scope) (body : Text) : Read Progress :=
  let (name, value) :=
    match Text.cutAt '=' body with
    | some (name, value) => (name, some value)
    | none => (body, none)
  match s.long? name, value with
  | none, _ => .error .unknownArgument
  | some (.flag _), some _ => .error .surplusValue
  | some (.flag f), none => p.raise f
  | some (.valued v), some value => p.assign v value
  | some (.valued v), none => p.await v

/-- Short options in one argument; the first with a value takes what
follows it there. -/
def readShort (s : Scope) : Progress → List Char → Read Progress
  | p, [] => .ok p
  | p, c :: rest =>
    match s.short? c with
    | none => .error .unknownArgument
    | some (.flag f) => do readShort s (← p.raise f) rest
    | some (.valued v) =>
      match rest with
      | [] => p.await v
      | '=' :: value => p.assign v value
      | value => p.assign v value

/-- An argument that is neither an option nor the value of one. -/
def readWord (p : Progress) (s : Scope) (afterDashes : Bool) (word : Text) : Read Progress :=
  match s with
  | .root =>
    if afterDashes && isCommandWord word then .error .unknownArgument else .error .unknownCommand
  | _ =>
    if p.given.input.isSome then .error .unknownArgument
    else do
      let p ← p.settle
      return { p with given := { p.given with input := some word } }

end Progress

/-! ## Reading -/

/-- What an argument looks like. -/
inductive Looks
  /-- Two dashes, behind which nothing is an option. -/
  | dashes
  | long (body : Text)
  | short (body : List Char)
  | word

/-- What an argument looks like. A lone dash is a word. -/
def looks : Text → Looks
  | '-' :: '-' :: [] => .dashes
  | '-' :: '-' :: body => .long body
  | '-' :: c :: rest => .short (c :: rest)
  | _ => .word

/-- What asking for help with some words comes to. -/
def helpOn : List Text → UsageError
  | [] => .help
  | [word] => if isCommandWord word then .help else .unknownCommand
  | _ => .unknownCommand

/-- **The arguments of one place.** In front of a command, reading ends with
its name. -/
def scan (s : Scope) (p : Progress) (afterDashes : Bool) :
    List Text → Read (Progress × Option (Scope × List Text))
  | [] => .ok (p, none)
  | word :: rest =>
    let command := s = .root && !afterDashes && !p.awaits
    if command && word = helpWord then .error (helpOn rest)
    else match if command then Scope.ofWord? word else none with
      | some command => .ok (p, some (command, rest))
      | none =>
        match if afterDashes then .word else looks word with
        | .dashes => scan s p true rest
        | .long body => do scan s (← p.readLong s body) false rest
        | .short body => do scan s (← p.readShort s body) false rest
        | .word =>
          match if afterDashes then none else p.pending with
          | some (v, none) => scan s { p with pending := some (v, some word) } false rest
          | _ => do scan s (← p.readWord s afterDashes word) afterDashes rest

/-- **A command.** -/
inductive Command
  | convert (input : Text) (backend output : Option Text)
  | includes (input : Text) (suffix output : Option Text)
  deriving DecidableEq

/-- **Arguments that were understood.** -/
structure Arguments where
  listBackends : Bool
  config : Option Text
  verbose : Nat
  command : Option Command
  deriving DecidableEq

/-- The command of a place with what was given there. -/
def commandOf (s : Scope) (input : Text) (g : Given) : Option Command :=
  match s with
  | .root => none
  | .convert => some (.convert input g.backend g.output)
  | .includes => some (.includes input g.suffix g.output)

/-- What was given in front of a command and behind it; the latter
counts. -/
def joined (front behind : Given) (command : Option Command) : Arguments where
  listBackends := behind.listBackends || front.listBackends
  config := behind.config.or front.config
  verbose := (behind.verbose.or front.verbose).getD 0
  command := command

/-- **Arguments read**, the name of the program among them. -/
def parse (args : List Text) : Read Arguments := do
  let (front, command) ← scan .root {} false args.tail
  match command with
  | none =>
    let front ← front.settle
    if front.given.isNone then throw .noArguments
    return joined front.given {} none
  | some (s, rest) =>
    let (behind, _) ← scan s {} false rest
    let behind ← behind.settle
    match behind.given.input with
    | none => throw .noInput
    | some input =>
      let front ← front.settle
      return joined front.given behind.given (commandOf s input behind.given)

/-- The arguments with the name of the first command put in, if the first
argument may be meant for that command. -/
def withDefaultCommand? : List Text → Option (List Text)
  | program :: first :: rest =>
    if first.head? = some '-' || isCommandWord first then none
    else some (program :: "convert" :: first :: rest)
  | _ => none

/-- **Arguments read**; where they are not understood, the name of the first
command may have been left out. -/
def parseLoosely (args : List Text) : Read Arguments :=
  match parse args with
  | .ok a => .ok a
  | .error e =>
    match withDefaultCommand? args with
    | some args => parse args
    | none => .error e

end CommandLine

end Treedown
