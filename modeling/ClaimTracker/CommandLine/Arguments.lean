import ClaimTracker.CommandLine.Parameter
import ClaimTracker.Text.Blank

/-!
# Arguments

Arguments are taken in their order. A value may be attached to its parameter or stand in the argument
after it, where it must not look like a parameter. A value is read when the next parameter or switch
comes, or at the end, so that a problem met before then is reported in its stead. The first argument
that can be no parameter names the command, to which all later ones belong. After two dashes on their
own nothing may follow.

What the arguments do not give, the environment may give. Its values are checked for each level that
does not give them, for the level of the command first.
-/

namespace ClaimTracker.CommandLine

abbrev Environment := String → Option String

def Parameter.inEnvironment (env : Environment) (p : Parameter) :
    Option (Except UsageError p.Value) :=
  (p.variableName?.bind env).map p.read

/-- The parameters and switches that are given at a level. -/
structure Given where
  values : (p : Parameter) → Option p.Value
  switches : List Switch

namespace Given

def nothing : Given where
  values _ := none
  switches := []

def insert (g : Given) (p : Parameter) (a : p.Value) : Given :=
  { g with values := fun q => if h : q = p then some (h ▸ a) else g.values q }

/-- Gives a parameter a value, its first. -/
def assign (g : Given) (p : Parameter) (s : String) : Except UsageError Given :=
  if (g.values p).isSome then .error .repeatedArgument else (p.read s).map (g.insert p)

/-- Whether nothing of a level is given, neither here nor by the environment. -/
def isEmpty (g : Given) (env : Environment) (level : Level) : Bool :=
  g.switches.isEmpty &&
    level.parameters.all fun p => (g.values p).isNone && (p.inEnvironment env).isNone

/-- Refuses an environment in which a parameter of a level that is not given here has a value that it
may not have. -/
def check (g : Given) (env : Environment) (level : Level) : Except UsageError Unit :=
  level.parameters.forM fun p =>
    match g.values p, p.inEnvironment env with
    | none, some (.error e) => .error e
    | _, _ => .ok ()

end Given

/-- How far the arguments of a level have been taken. -/
structure Progress where
  given : Given := .nothing
  /-- A parameter whose value has not been read, and the value if it has come. -/
  unread : Option (Parameter × Option String) := none
  /-- Whether two dashes on their own have come. -/
  ended : Bool := false

namespace Progress

/-- Whether the next argument is a value, unless it looks like a parameter. -/
def isWaiting (w : Progress) : Bool :=
  match w.unread with
  | some (_, none) => true
  | _ => false

def settle (w : Progress) : Except UsageError Progress :=
  match w.unread with
  | none => .ok w
  | some (_, none) => .error .invalidValue
  | some (p, some s) => (w.given.assign p s).map fun given => { w with given, unread := none }

def flip (w : Progress) (s : Switch) : Except UsageError Progress := do
  let w ← w.settle
  match s with
  | .help => .error .help
  | .version => .error .version
  | s =>
    if w.given.switches.contains s then .error .repeatedArgument
    else return { w with given := { w.given with switches := s :: w.given.switches } }

def take (w : Progress) (n : Named) (value : Option String) : Except UsageError Progress :=
  match n, value with
  | .switch _, some _ => .error .superfluousValue
  | .switch s, none => w.flip s
  | .parameter p, some value => do
    let w ← w.settle
    return { w with given := ← w.given.assign p value }
  | .parameter p, none => do
    let w ← w.settle
    return { w with unread := some (p, none) }

/-- Takes an argument that has two dashes in front, and these characters after them. -/
def takeName (level : Level) (w : Progress) (l : List Char) : Except UsageError Progress :=
  let (name, value) := match Text.cut '=' l with
    | some (name, value) => (name, some (String.ofList value))
    | none => (l, none)
  match level.byName? (String.ofList name) with
  | some n => w.take n value
  | none => .error .unknownArgument

/-- Takes an argument that has one dash in front, and these letters after it. What follows the letter
of a parameter is its value, with or without an equals sign between them. -/
def takeLetters (level : Level) (w : Progress) : List Char → Except UsageError Progress
  | [] => .ok w
  | c :: l =>
    match level.byLetter? c with
    | none => .error .unknownArgument
    | some (.switch s) => do
      let w ← w.flip s
      w.takeLetters level l
    | some (.parameter p) =>
      match l with
      | [] => w.take (.parameter p) none
      | '=' :: value => w.take (.parameter p) (some (String.ofList value))
      | value => w.take (.parameter p) (some (String.ofList value))

end Progress

def helpCommand : String := "help"

def isCommand (s : String) : Bool :=
  s == helpCommand || (Command.ofName? s).isSome

def stray (level : Level) (ended : Bool) (s : String) : UsageError :=
  match level with
  | .top => if ended && isCommand s then .unknownArgument else .unknownCommand
  | .command _ => .unknownArgument

/-- What an argument does to a level that names no command by it. -/
def Progress.next (level : Level) (w : Progress) (s : String) : Except UsageError Progress :=
  if w.ended then .error (stray level w.ended s)
  else
    match s.toList with
    | ['-', '-'] => .ok { w with ended := true }
    | '-' :: '-' :: l => w.takeName level l
    | '-' :: c :: l => w.takeLetters level (c :: l)
    | _ =>
      match w.unread with
      | some (p, none) => .ok { w with unread := some (p, some s) }
      | _ => .error (stray level w.ended s)

def takeAll (level : Level) (w : Progress) (args : List String) : Except UsageError Progress :=
  args.foldlM (Progress.next level) w

/-- Reads what has not been read, and has the environment checked. -/
def Progress.finish (env : Environment) (level : Level) (w : Progress) :
    Except UsageError Given := do
  let w ← w.settle
  w.given.check env level
  return w.given

def wantHelp (topics : List String) : UsageError :=
  match topics with
  | [] => .help
  | [topic] => if isCommand topic then .help else .unknownCommand
  | _ => .unknownCommand

structure Arguments where
  command : Command
  before : Given
  /-- What is given from the command on. -/
  after : Given

namespace Arguments

def commandless (env : Environment) (w : Progress) : Except UsageError Arguments := do
  let given ← w.finish env .top
  if given.isEmpty env .top then .error .helpForNothing else .error .missingCommand

def takeFrom (env : Environment) (w : Progress) : List String → Except UsageError Arguments
  | [] => commandless env w
  | s :: args =>
    if !w.ended && !w.isWaiting && s == helpCommand then .error (wantHelp args)
    else
      match (if w.ended || w.isWaiting then none else Command.ofName? s) with
      | some command => do
        let level := .command command
        let after ← (← takeAll level {} args).finish env level
        let before ← w.finish env .top
        return ⟨command, before, after⟩
      | none => do
        let w ← w.next .top s
        takeFrom env w args

def ofList (env : Environment) (args : List String) : Except UsageError Arguments :=
  takeFrom env {} args

/-- The value of a parameter: what the arguments give, from the command on or before it, and else
what the environment gives. -/
def value? (a : Arguments) (env : Environment) (p : Parameter) : Option p.Value :=
  ((a.after.values p).or (a.before.values p)).or
    ((p.inEnvironment env).bind Except.toOption)

def has (a : Arguments) (s : Switch) : Bool :=
  a.after.switches.contains s

end Arguments

end ClaimTracker.CommandLine
