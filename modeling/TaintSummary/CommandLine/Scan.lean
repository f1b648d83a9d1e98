import TaintSummary.CommandLine.Option

/-!
# Scanning arguments

The arguments at one place are taken from left to right. An option whose value is the next argument stays open until another
option or an operand comes, or until the end; only then its value is looked at. After two hyphens everything is an operand.
-/

namespace TaintSummary.CommandLine

/-- What is wrong with a command line. -/
inductive UsageError
  | missingEverything
  | invalidSubcommand
  | unknownArgument
  | invalidValue
  | missingArgument
  | conflict
  | missingSubcommand
  | tooManyValues
  deriving DecidableEq

/-- What help is asked for. -/
inductive Topic
  /-- The program or a command, in short or in full. -/
  | place (p : Place) (full : Bool)
  /-- The command that shows help. -/
  | helpCommand
  deriving DecidableEq

/-- Why a command line asks for no run. -/
inductive Stop
  | help (topic : Topic)
  | version
  | usage (e : UsageError)
  deriving DecidableEq

/-- What has been found at a place. -/
structure Scan where
  /-- The options with their values; flags have an empty value. -/
  options : List (Opt × Text)
  operands : List Text
  /-- The open option and the value it has so far. -/
  pending : Option (Opt × Option Text)
  /-- Two hyphens have been met. -/
  trailing : Bool
  deriving DecidableEq

namespace Scan

/-- Nothing has been found. -/
def empty : Scan := ⟨[], [], none, false⟩

/-- The value of an option. -/
def value? (s : Scan) (o : Opt) : Option Text := (s.options.find? fun e => e.1 = o).map Prod.snd

/-- The option is there. -/
def has (s : Scan) (o : Opt) : Bool := (s.value? o).isSome

/-- The next argument is the value of the open option. -/
def isAwaiting (s : Scan) : Bool :=
  match s.pending with
  | some (_, none) => true
  | _ => false

/-- The option put down; it may not be there already, and has to accept the value. -/
def put (s : Scan) (o : Opt) (value : Text) : Except Stop Scan :=
  if s.has o then .error (.usage .conflict)
  else if o.accepts value then .ok { s with options := s.options ++ [(o, value)] }
  else .error (.usage .invalidValue)

/-- The open option closed. -/
def close (s : Scan) : Except Stop Scan :=
  match s.pending with
  | none => .ok s
  | some (_, none) => .error (.usage .invalidValue)
  | some (o, some value) => { s with pending := none }.put o value

/-- A flag: help and the version end the scan. -/
def flag (s : Scan) (p : Place) (o : Opt) (full : Bool) : Except Stop Scan :=
  s.close.bind fun s =>
    match o with
    | .help => .error (.help (.place p full))
    | .version => .error .version
    | o => s.put o []

/-- An option with its value. -/
def assign (s : Scan) (o : Opt) (value : Text) : Except Stop Scan := s.close.bind fun s => s.put o value

/-- An option whose value comes next. -/
def await (s : Scan) (o : Opt) : Except Stop Scan := s.close.map fun s => { s with pending := some (o, none) }

/-- The text after two hyphens: a long name, perhaps with a value after an equals sign. -/
def long (s : Scan) (p : Place) (text : Text) : Except Stop Scan :=
  let (name, value) : Text × Option Text :=
    match Text.cut? '=' text with
    | some (name, value) => (name, some value)
    | none => (text, none)
  match p.long? name, value with
  | none, _ => .error (.usage .unknownArgument)
  | some o, some value => if o.takesValue then s.assign o value else .error (.usage .tooManyValues)
  | some o, none => if o.takesValue then s.await o else s.flag p o true

/-- The text after one hyphen: short names of flags, and of an option that has what follows as its value. -/
def cluster (s : Scan) (p : Place) : Text → Except Stop Scan
  | [] => .ok s
  | c :: rest =>
    match p.shortNamed? c with
    | none => .error (.usage .unknownArgument)
    | some o =>
      if o.takesValue then
        match rest with
        | [] => s.await o
        | '=' :: value => s.assign o value
        | value => s.assign o value
      else (s.flag p o false).bind fun s => cluster s p rest

/-- An operand where there is none: the error tells whether it could have been meant as a command. -/
def excess (s : Scan) (p : Place) (text : Text) : UsageError :=
  match p with
  | .main =>
    if s.trailing ∧ (text = helpCommand ∨ (Place.ofName? text).isSome) then .unknownArgument else .invalidSubcommand
  | _ => .unknownArgument

/-- An operand. -/
def operand (s : Scan) (p : Place) (text : Text) : Except Stop Scan :=
  if s.operands.length < p.operands.length then
    s.close.map fun s => { s with operands := s.operands ++ [text] }
  else .error (.usage (s.excess p text))

/-- An argument that is no option. -/
def word (s : Scan) (p : Place) (text : Text) : Except Stop Scan :=
  match s.pending with
  | some (o, none) => .ok { s with pending := some (o, some text) }
  | _ => s.operand p text

/-- The next argument. -/
def step (s : Scan) (p : Place) (arg : Text) : Except Stop Scan :=
  if s.trailing then s.operand p arg
  else match arg with
    | ['-', '-'] => .ok { s with trailing := true }
    | '-' :: '-' :: text => s.long p text
    | '-' :: c :: rest => s.cluster p (c :: rest)
    | text => s.word p text

/-- All arguments at a place. -/
def all (p : Place) : Scan → List Text → Except Stop Scan
  | s, [] => s.close
  | s, arg :: rest => (s.step p arg).bind fun s => all p s rest

/-- The help that the words after the help command ask for. -/
def helpTopic : List Text → Stop
  | [] => .help (.place .main true)
  | [name] =>
    if name = helpCommand then .help .helpCommand
    else match Place.ofName? name with
      | some p => .help (.place p true)
      | none => .usage .invalidSubcommand
  | _ => .usage .invalidSubcommand

/-- The arguments up to the command: what was found, the place after the command, and the arguments there. -/
def main : Scan → List Text → Except Stop (Scan × Option (Place × List Text))
  | s, [] => s.close.map fun s => (s, none)
  | s, arg :: rest =>
    let next := (s.step .main arg).bind fun s => main s rest
    if s.trailing || s.isAwaiting then next
    else if arg = helpCommand then .error (helpTopic rest)
    else match Place.ofName? arg with
      | some p => .ok (s, some (p, rest))
      | none => next

end Scan

end TaintSummary.CommandLine
