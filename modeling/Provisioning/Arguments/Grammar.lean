/-! # Command lines

A level of a command line has parameters with names, may have one argument without a name, and may
have commands, each of which opens a level of its own for the words behind it. The words of a level
are read from left to right.

* A long parameter is written `--name value` or `--name=value`, a short one `-n value`, `-nvalue` or
  `-n=value`; several short ones may share a dash.
* A word that begins with a dash, other than the dash alone, is never the value of the parameter in
  front of it.
* Behind the word `--` only the argument without a name can stand.
* A parameter that is absent takes its value from the environment, if it has a variable there.

A value is put into the settings no sooner than the next argument is met. A word that the level does
not know is therefore refused before a faulty value in front of it, and only a parameter that was
taken up is counted as given.
-/

namespace Provisioning.Arguments

/-- What is wrong with a value. -/
inductive ValueFault where
  | missing
  /-- A path without characters. -/
  | emptyPath
  /-- None of the words that can be chosen from. -/
  | noChoice
  | unreadable
  deriving DecidableEq, Repr

/-- Why a command line is not carried out. -/
inductive Refusal where
  /-- The operator asks for help. -/
  | help
  /-- The operator asks for the program's version. -/
  | version
  /-- There is nothing on a line that needs a command. -/
  | nothingGiven
  | missingCommand
  | unknownCommand (word : String)
  | missingArgument (name : String)
  | unknownArgument (word : String)
  /-- A parameter was given twice. -/
  | repeated (name : String)
  /-- A value is attached to a parameter that takes none. -/
  | unwantedValue (name : String)
  | badValue (name : String) (fault : ValueFault)
  deriving DecidableEq, Repr

namespace Refusal

/-- The status that the program ends with. -/
def status : Refusal → Nat
  | help | version => 0
  | _ => 2

/-- What the operator is told. -/
def message : Refusal → String
  | help => "help is asked for"
  | version => "the version is asked for"
  | nothingGiven | missingCommand => "a command is required"
  | unknownCommand word => "unknown command " ++ word
  | missingArgument name => "the argument " ++ name ++ " is required"
  | unknownArgument word => "unexpected argument " ++ word
  | repeated name => "the argument " ++ name ++ " cannot be given twice"
  | unwantedValue name => "the argument " ++ name ++ " takes no value"
  | badValue name .missing => "the argument " ++ name ++ " needs a value"
  | badValue name _ => "the value of the argument " ++ name ++ " is not valid"

end Refusal

/-- Puts a value into the settings, unless something is wrong with it. -/
abbrev Put (σ : Type) := String → σ → Except ValueFault σ

/-- What a parameter does. -/
inductive Effect (σ : Type) where
  /-- It takes a value. -/
  | value (put : Put σ)
  /-- It changes the settings by being there. -/
  | flag (change : σ → σ)
  /-- It ends the reading. -/
  | refuse (refusal : Refusal)

structure Parameter (σ : Type) where
  name : String
  short : Option Char := none
  effect : Effect σ
  /-- The variable of the environment that stands in for an absent parameter. -/
  envVar : Option String := none
  required : Bool := false

/-- The argument that has no name in front of it. -/
structure Operand (σ : Type) where
  name : String
  put : Put σ

/-- What can stand on a level of a command line that has settings in `σ` and commands in `κ`. -/
structure Grammar (σ κ : Type) where
  parameters : List (Parameter σ)
  operand : Option (Operand σ) := none
  commands : List (String × κ) := []

/-- An argument whose value is still to come or still to be put into the settings. -/
structure Pending (σ : Type) where
  name : String
  put : Put σ
  value : Option String

/-- How far a level has been read. -/
structure Reading (σ : Type) where
  settings : σ
  /-- The names of the arguments that have been given. -/
  given : List String := []
  /-- The argument that was met last. -/
  pending : Option (Pending σ) := none
  /-- Whether the argument without a name has been met. -/
  operandMet : Bool := false

/-- What a word looks like. -/
inductive Shape where
  | terminator
  | long (name : String) (value : Option String)
  | short (letters : List Char)
  | plain

/-- The value behind an equals sign, if there is one. -/
def valueBehindSign : List Char → Option String
  | [] => none
  | _ :: value => some (String.ofList value)

def Shape.ofWord (word : String) : Shape :=
  match word.toList with
  | ['-', '-'] => .terminator
  | '-' :: '-' :: rest =>
    .long (String.ofList (rest.takeWhile (· != '='))) (valueBehindSign (rest.dropWhile (· != '=')))
  | '-' :: letter :: rest => .short (letter :: rest)
  | _ => .plain

/-- The value that is attached to a short parameter. -/
def attachedValue : List Char → Option String
  | [] => none
  | '=' :: value => some (String.ofList value)
  | value => some (String.ofList value)

namespace Reading

variable {σ : Type}

/-- Whether the next word may be the value of the argument that was met last. -/
def awaitsValue (reading : Reading σ) : Bool :=
  match reading.pending with
  | some pending => pending.value.isNone
  | none => false

/-- Count an argument as given and change the settings. -/
def give (name : String) (change : σ → Except ValueFault σ) (reading : Reading σ) :
    Except Refusal (Reading σ) :=
  if name ∈ reading.given then .error (.repeated name)
  else match change reading.settings with
    | .ok settings => .ok { reading with settings, given := name :: reading.given }
    | .error fault => .error (.badValue name fault)

/-- Put the value of the argument that was met last into the settings. -/
def settle (reading : Reading σ) : Except Refusal (Reading σ) :=
  match reading.pending with
  | none => .ok reading
  | some pending => match pending.value with
    | none => .error (.badValue pending.name .missing)
    | some value => { reading with pending := none }.give pending.name (pending.put value)

/-- Take up a parameter and the value that is attached to it, if there is one. -/
def take (parameter : Parameter σ) (attached : Option String) (reading : Reading σ) :
    Except Refusal (Reading σ) :=
  match parameter.effect, attached with
  | .value put, some value => do
    let reading ← reading.settle
    reading.give parameter.name (put value)
  | .value put, none => do
    let reading ← reading.settle
    pure { reading with pending := some ⟨parameter.name, put, none⟩ }
  | .flag change, none => do
    let reading ← reading.settle
    reading.give parameter.name fun settings => .ok (change settings)
  | .refuse refusal, none => do
    let _ ← reading.settle
    .error refusal
  | _, some _ => .error (.unwantedValue parameter.name)

/-- Take up the value of the argument that was met last. -/
def supply (value : String) (reading : Reading σ) : Reading σ :=
  let pending := reading.pending.map fun pending => { pending with value := some value }
  { reading with pending }

end Reading

namespace Grammar

variable {σ κ : Type}

/-- The refusal of a word that has no place on the grammar. A command is known behind `--`, but it
cannot stand there. -/
def stray (grammar : Grammar σ κ) (behindTerminator : Bool) (word : String) : Refusal :=
  if grammar.commands.isEmpty then .unknownArgument word
  else if behindTerminator && (grammar.commands.lookup word).isSome then .unknownArgument word
  else .unknownCommand word

/-- Take up a word that is neither a parameter nor the value of one. -/
def takeOperand (grammar : Grammar σ κ) (behindTerminator : Bool) (word : String)
    (reading : Reading σ) : Except Refusal (Reading σ) :=
  match grammar.operand, reading.operandMet with
  | some operand, false => do
    let reading ← reading.settle
    pure { reading with pending := some ⟨operand.name, operand.put, some word⟩, operandMet := true }
  | _, _ => .error (grammar.stray behindTerminator word)

/-- Take up the words behind `--`. -/
def readOperands (grammar : Grammar σ κ) : List String → Reading σ → Except Refusal (Reading σ)
  | [], reading => .ok reading
  | word :: rest, reading => do
    let reading ← grammar.takeOperand true word reading
    grammar.readOperands rest reading

/-- Take up the short parameters behind a dash. -/
def readLetters (grammar : Grammar σ κ) : List Char → Reading σ → Except Refusal (Reading σ)
  | [], reading => .ok reading
  | letter :: rest, reading =>
    match grammar.parameters.find? (·.short = some letter) with
    | none => .error (.unknownArgument ("-" ++ letter.toString))
    | some parameter => match parameter.effect with
      | .value _ => reading.take parameter (attachedValue rest)
      | _ => do
        let reading ← reading.take parameter none
        grammar.readLetters rest reading

/-- Read the words of a level, up to a command of the grammar. -/
def read (grammar : Grammar σ κ) :
    List String → Reading σ → Except Refusal (Reading σ × Option (κ × List String))
  | [], reading => .ok (reading, none)
  | word :: rest, reading =>
    match (if reading.awaitsValue then none else grammar.commands.lookup word) with
    | some command => .ok (reading, some (command, rest))
    | none => match Shape.ofWord word with
      | .terminator => do
        let reading ← grammar.readOperands rest reading
        pure (reading, none)
      | .long name value =>
        match grammar.parameters.find? (·.name = name) with
        | none => .error (.unknownArgument word)
        | some parameter => do
          let reading ← reading.take parameter value
          grammar.read rest reading
      | .short letters => do
        let reading ← grammar.readLetters letters reading
        grammar.read rest reading
      | .plain =>
        if reading.awaitsValue then grammar.read rest (reading.supply word)
        else do
          let reading ← grammar.takeOperand false word reading
          grammar.read rest reading

/-- Give an absent parameter the value of its variable. -/
def fill (environment : List (String × String)) (reading : Reading σ) (parameter : Parameter σ) :
    Except Refusal (Reading σ) :=
  match parameter.effect, parameter.envVar.bind (List.lookup · environment) with
  | .value put, some value =>
    if parameter.name ∈ reading.given then .ok reading else reading.give parameter.name (put value)
  | _, _ => .ok reading

/-- The names of the arguments that must be given. -/
def requiredNames (grammar : Grammar σ κ) : List String :=
  (grammar.parameters.filter (·.required)).map (·.name) ++ (grammar.operand.map (·.name)).toList

/-- The settings once all the words of a level have been read. -/
def finish (grammar : Grammar σ κ) (environment : List (String × String)) (reading : Reading σ) :
    Except Refusal σ := do
  let reading ← reading.settle
  let reading ← grammar.parameters.foldlM (fill environment) reading
  match grammar.requiredNames.find? (· ∉ reading.given) with
  | some name => .error (.missingArgument name)
  | none => pure reading.settings

/-- Read a level that has no commands. -/
def readAll (grammar : Grammar σ κ) (environment : List (String × String)) (settings : σ)
    (words : List String) : Except Refusal σ := do
  let (reading, _) ← grammar.read words { settings }
  grammar.finish environment reading

end Grammar

end Provisioning.Arguments
