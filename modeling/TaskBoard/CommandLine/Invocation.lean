import TaskBoard.CommandLine.Flag
import TaskBoard.Settings.Layer

/-!
# Invocations

The words of a command line, read from left to right.  Words before a command and words
after it are read alike and kept apart; a flag may be given once on either side, and what
stands after the command wins.  A variable of the environment counts for what neither side
gives.

The first thing that stops a reader decides.  A value that follows its flag as a word of its
own is looked at only when the next flag comes, or at the end; the end of a command comes
before the end of the words in front of it.

    help that was asked for first is given, whatever follows    (read_help)
-/

namespace TaskBoard.CommandLine

/-- The flags that have been given, each with its value. -/
structure Given where
  values : List (Flag × String)
  /-- A flag whose value is not settled: it may be there, or still to come. -/
  pending : Option (Flag × Option String)

namespace Given

def start : Given := ⟨[], none⟩

/-- The value of a flag. -/
def value? (g : Given) (f : Flag) : Option String := g.values.lookup f

/-- Whether the next word is a value. -/
def awaits (g : Given) : Bool :=
  match g.pending with
  | some (_, none) => true
  | _ => false

/-- Enters a flag with its value. -/
def enter (g : Given) (f : Flag) (v : String) : Except Stop Given :=
  if (g.value? f).isSome then .error .repeated
  else match f.refusal? v with
    | some stop => .error stop
    | none => .ok { g with values := (f, v) :: g.values }

/-- Enters the flag that is pending. -/
def settle (g : Given) : Except Stop Given :=
  match g.pending with
  | none => .ok g
  | some (_, none) => .error .missingValue
  | some (f, some v) => enter { g with pending := none } f v

/-- Takes a flag, with a value if one is attached to it. -/
def take (g : Given) (f : Flag) (attached : Option String) : Except Stop Given := do
  let g ← g.settle
  match f, attached with
  | .help, _ => throw .help
  | .version, _ => throw .version
  | .noAuth, _ => g.enter .noAuth ""
  | f, some v => g.enter f v
  | f, none => pure { g with pending := some (f, none) }

end Given

/-! ## Words -/

/-- A word of two dashes and the name of a flag, perhaps with `=` and a value. -/
def readLong (level : Level) (g : Given) (word : List Char) : Except Stop Given :=
  let name := String.ofList (word.takeWhile (· ≠ '='))
  let attached := match word.dropWhile (· ≠ '=') with
    | [] => none
    | _ :: v => some (String.ofList v)
  match level.flags.find? (·.name == name) with
  | none => .error .unknownArgument
  | some f => if attached.isSome && !f.takesValue then .error .unwantedValue else g.take f attached

/-- The letters of a word with one dash.  What follows the letter of a flag with a value is
that value, with or without a `=` in front. -/
def readLetters (level : Level) (g : Given) : List Char → Except Stop Given
  | [] => .ok g
  | c :: cs =>
    match level.flags.find? (·.letter? == some c) with
    | none => .error .unknownArgument
    | some f =>
      if f.takesValue then
        match cs with
        | [] => g.take f none
        | '=' :: v => g.take f (some (String.ofList v))
        | v => g.take f (some (String.ofList v))
      else do readLetters level (← g.take f none) cs

/-- A command. -/
inductive Command
  | start
  /-- Print a token for a user. -/
  | token (user : String)
  deriving Repr, DecidableEq

/-- The words of the commands, and where the words behind them stand. -/
def commands : List (String × Level) := [("start", .start), ("token", .token)]

/-- Whether a word is a command or asks for help. -/
def isCommand (word : String) : Bool := word == "help" || (commands.lookup word).isSome

/-- The end of a request for help on the given words. -/
def helpOn : List String → Stop
  | [] => .help
  | [word] => if isCommand word then .help else .unknownCommand
  | _ => .unknownCommand

/-- What stops at a word that is no flag and no command. -/
def stray (level : Level) : Stop :=
  match level with
  | .top => .unknownCommand
  | _ => .unknownArgument

/-- The words behind two dashes: there must not be any. -/
def readRest (level : Level) (g : Given) : List String → Except Stop Given
  | [] => .ok g
  | word :: _ => .error (if isCommand word then .unknownArgument else stray level)

/-- Reads words up to a command; the command, and the words behind it. -/
def read (level : Level) (g : Given) :
    List String → Except Stop (Given × Option (Level × List String))
  | [] => .ok (g, none)
  | word :: rest =>
    let plain : Except Stop (Given × Option (Level × List String)) :=
      match g.pending with
      | some (f, none) => read level { g with pending := some (f, some word) } rest
      | _ => .error (stray level)
    if level = .top ∧ !g.awaits ∧ word = "help" then .error (helpOn rest)
    else match (if level = .top ∧ !g.awaits then commands.lookup word else none) with
      | some next => .ok (g, some (next, rest))
      | none =>
        match word.toList with
        | ['-', '-'] => (readRest level g rest).map fun g => (g, none)
        | '-' :: '-' :: long => do read level (← readLong level g long) rest
        | ['-'] => plain
        | '-' :: letters => do read level (← readLetters level g letters) rest
        | _ => plain

/-! ## The environment -/

/-- The value of a variable. -/
abbrev Environment := String → Option String

/-- The value that the environment has for a flag. -/
def Flag.fromEnvironment? (f : Flag) (env : Environment) : Option String := f.environmentName?.bind env

/-- The end of the words of a level: nothing is pending any more, and the environment has
no bad value for a flag that is not among them. -/
def Given.finish (env : Environment) (g : Given) : Except Stop Given := do
  let g ← g.settle
  let refusals := Flag.settings.filterMap fun f =>
    if (g.value? f).isSome then none else (f.fromEnvironment? env).bind f.refusal?
  match refusals with
  | [] => pure g
  | stop :: _ => throw stop

/-! ## Invocations -/

/-- What a command line asks for. -/
structure Invocation where
  /-- The command; without one the server is started. -/
  command : Option Command
  host : Option String
  socket : Option Nat
  noAuth : Bool
  /-- The settings file to be read. -/
  config : Option String
  sessionSecret : Option String
  postgresUrl : Option String
  cacheTtl : Option Nat
  deriving Repr, DecidableEq

/-- The invocation by the words before a command and those after it. -/
def invocation (env : Environment) (command : Option Command) (before after : Given) :
    Invocation :=
  let value? (f : Flag) : Option String :=
    after.value? f <|> before.value? f <|> f.fromEnvironment? env
  { command := command
    host := value? .host
    socket := (value? .socket).bind readSocket?
    noAuth := (value? .noAuth).isSome
    config := value? .config
    sessionSecret := value? .sessionSecret
    postgresUrl := value? .postgresUrl
    cacheTtl := (value? .cacheTtl).bind readSeconds? }

/-- The command of a level whose words are read. -/
def command? (level : Level) (g : Given) : Except Stop Command :=
  match level with
  | .token =>
    match g.value? .user with
    | some user => .ok (.token user)
    | none => .error .missingUser
  | _ => .ok .start

/-- The invocation by the words of a command line. -/
def Invocation.ofWords (env : Environment) (words : List String) : Except Stop Invocation := do
  let (before, next) ← read .top .start words
  match next with
  | none =>
    let before ← before.finish env
    pure (invocation env none before .start)
  | some (level, rest) =>
    let (after, _) ← read level .start rest
    let after ← after.finish env
    let command ← command? level after
    let before ← before.finish env
    pure (invocation env (some command) before after)

/-- The settings that a command line gives. -/
def Invocation.layer (i : Invocation) : Layer :=
  { Layer.empty with
    host := i.host
    socket := i.socket
    authEnabled := if i.noAuth then some false else none
    sessionSecret := i.sessionSecret
    url := i.postgresUrl
    cacheTtl := i.cacheTtl }

/-! ## Lemmas -/

theorem read_help (level : Level) (rest : List String) :
    read level .start ("--help" :: rest) = .error .help := by
  cases level <;> rfl

theorem take_of_pending {g : Given} {f : Flag} (h : g.pending = some (f, none)) (other : Flag)
    (attached : Option String) : g.take other attached = .error .missingValue := by
  simp only [Given.take, Given.settle, h]
  rfl

end TaskBoard.CommandLine
