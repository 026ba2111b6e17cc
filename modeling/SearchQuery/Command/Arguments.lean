import SearchQuery.Number.Decimal

/-!
# Command-line arguments

The arguments name one command, its operands and its options. Options that belong to every command
may stand before or after its name; the one after it counts. An option with a value takes the value
after `=` or from the next argument, and may be given once. After `--` every argument is an operand.
-/

set_option autoImplicit false

namespace SearchQuery.Command

inductive UsageError where
  | displayHelp
  | displayVersion
  | displayHelpOnMissing
  | missingSubcommand
  | invalidSubcommand
  | unknownArgument
  | missingRequired
  | valueValidation
  | invalidValue
  | argumentConflict
  | tooManyValues
deriving DecidableEq, Repr

def UsageError.kind : UsageError → String
  | .displayHelp => "DisplayHelp"
  | .displayVersion => "DisplayVersion"
  | .displayHelpOnMissing => "DisplayHelpOnMissingArgumentOrSubcommand"
  | .missingSubcommand => "MissingSubcommand"
  | .invalidSubcommand => "InvalidSubcommand"
  | .unknownArgument => "UnknownArgument"
  | .missingRequired => "MissingRequiredArgument"
  | .valueValidation => "ValueValidation"
  | .invalidValue => "InvalidValue"
  | .argumentConflict => "ArgumentConflict"
  | .tooManyValues => "TooManyValues"

inductive Name where
  | parse
  | translate
  | sql
  | filter
  | params
deriving DecidableEq, Repr

def Name.ofText? (text : String) : Option Name :=
  if text == "parse" then some .parse
  else if text == "translate" then some .translate
  else if text == "sql" then some .sql
  else if text == "filter" then some .filter
  else if text == "params" then some .params
  else none

inductive Flag where
  | help
  | version
  | verbose
  | schema
  | maxDepth
  | maxLength
  | offset
  | input
  | reserved
  | nameStart
deriving DecidableEq, Repr

namespace Flag

def takesValue : Flag → Bool
  | .help => false
  | .version => false
  | .verbose => false
  | _ => true

def isKnown (command : Option Name) : Flag → Bool
  | .version => command.isNone
  | .offset => command == some .sql
  | .input => command == some .filter
  | .reserved => command == some .params
  | .nameStart => command == some .params
  | _ => true

def ofLong? (command : Option Name) (text : String) : Option Flag :=
  let named : List (String × Flag) :=
    [("help", .help), ("version", .version), ("verbose", .verbose), ("schema", .schema),
      ("max-depth", .maxDepth), ("max-length", .maxLength), ("offset", .offset),
      ("input", .input), ("reserved", .reserved), ("prefix", .nameStart)]
  (named.lookup text).filter (isKnown command)

def ofShort? (command : Option Name) (letter : Char) : Option Flag :=
  let named : List (Char × Flag) :=
    [('h', .help), ('V', .version), ('v', .verbose), ('i', .input)]
  (named.lookup letter).filter (isKnown command)

end Flag

structure Settings where
  verbose : Bool := false
  schema : Option String := none
  maxDepth : Option Nat := none
  maxLength : Option Nat := none
  offset : Option Nat := none
  input : Option String := none
  reserved : List String := []
  nameStart : Option String := none
  operands : List String := []
deriving DecidableEq, Repr

def readPath (text : String) : Except UsageError String :=
  if text.isEmpty then .error .invalidValue else .ok text

/-- A natural number of 64 bits; a plus sign may stand before it. -/
def readCount (text : String) : Except UsageError Nat :=
  let row :=
    match text.toList with
    | '+' :: rest => rest
    | characters => characters
  match Decimal.readNat? row with
  | none => .error .valueValidation
  | some value => if value < Decimal.wordBound then .ok value else .error .valueValidation

def assignOnce {α : Type} (current : Option α) (value : Except UsageError α) :
    Except UsageError (Option α) :=
  if current.isSome then .error .argumentConflict else value.map some

namespace Settings

def assign (settings : Settings) (flag : Flag) (text : String) : Except UsageError Settings :=
  match flag with
  | .schema => do
      let schema ← assignOnce settings.schema (readPath text)
      return { settings with schema := schema }
  | .maxDepth => do
      let maxDepth ← assignOnce settings.maxDepth (readCount text)
      return { settings with maxDepth := maxDepth }
  | .maxLength => do
      let maxLength ← assignOnce settings.maxLength (readCount text)
      return { settings with maxLength := maxLength }
  | .offset => do
      let offset ← assignOnce settings.offset (readCount text)
      return { settings with offset := offset }
  | .input => do
      let input ← assignOnce settings.input (readPath text)
      return { settings with input := input }
  | .nameStart => do
      let nameStart ← assignOnce settings.nameStart (.ok text)
      return { settings with nameStart := nameStart }
  | .reserved => .ok { settings with reserved := settings.reserved ++ [text] }
  | _ => .ok settings

def switch (settings : Settings) (flag : Flag) : Except UsageError Settings :=
  match flag with
  | .help => .error .displayHelp
  | .version => .error .displayVersion
  | .verbose =>
      if settings.verbose then .error .argumentConflict else .ok { settings with verbose := true }
  | _ => .ok settings

def isUsed (settings : Settings) : Bool :=
  settings.verbose || settings.schema.isSome || settings.maxDepth.isSome ||
    settings.maxLength.isSome

end Settings

/-- The option that was read last, and its value once that is known. An option is checked only when
something else follows it. -/
structure Pending where
  flag : Flag
  value : Option String
deriving DecidableEq, Repr

structure Reader where
  settings : Settings := {}
  pending : Option Pending := none
  trailing : Bool := false
deriving DecidableEq, Repr

namespace Reader

def settle (reader : Reader) : Except UsageError Reader :=
  match reader.pending with
  | none => .ok reader
  | some ⟨_, none⟩ => .error .invalidValue
  | some ⟨flag, some value⟩ => do
      let settings ← reader.settings.assign flag value
      return { reader with settings := settings, pending := none }

def awaitsValue (reader : Reader) : Bool :=
  match reader.pending with
  | some ⟨_, none⟩ => true
  | _ => false

def takeFlag (reader : Reader) (flag : Flag) (attached : Option String) :
    Except UsageError Reader := do
  let settled ← reader.settle
  if flag.takesValue then
    match attached with
    | none => return { settled with pending := some ⟨flag, none⟩ }
    | some value =>
        let settings ← settled.settings.assign flag value
        return { settled with settings := settings }
  else
    let settings ← settled.settings.switch flag
    return { settled with settings := settings }

def takeLong (command : Option Name) (reader : Reader) (text : List Char) :
    Except UsageError Reader :=
  let name := String.ofList (text.takeWhile (· != '='))
  let attached :=
    match text.dropWhile (· != '=') with
    | [] => none
    | _ :: value => some (String.ofList value)
  match Flag.ofLong? command name with
  | none => .error .unknownArgument
  | some flag =>
      if !flag.takesValue && attached.isSome then .error .tooManyValues
      else reader.takeFlag flag attached

/-- Reads an argument after its single dash: letters in a row, of which the last may have a value
attached to it. -/
def takeShort (command : Option Name) (reader : Reader) : List Char → Except UsageError Reader
  | [] => .ok reader
  | letter :: rest =>
      match Flag.ofShort? command letter with
      | none => .error .unknownArgument
      | some flag =>
          if flag.takesValue then
            match rest with
            | [] => reader.takeFlag flag none
            | '=' :: value => reader.takeFlag flag (some (String.ofList value))
            | value => reader.takeFlag flag (some (String.ofList value))
          else do
            let next ← reader.takeFlag flag none
            takeShort command next rest

/-- Reads an operand of a command. Only `params` has more than one. -/
def takeOperand (command : Name) (reader : Reader) (text : String) : Except UsageError Reader :=
  if command != .params && !reader.settings.operands.isEmpty then
    .error .unknownArgument
  else do
    let settled ← reader.settle
    return { settled with
      settings := { settled.settings with operands := settled.settings.operands ++ [text] } }

inductive Shape where
  | escape
  | long (text : List Char)
  | short (text : List Char)
  | word
deriving DecidableEq, Repr

def Shape.ofText (text : String) : Shape :=
  match text.toList with
  | ['-', '-'] => .escape
  | '-' :: '-' :: rest => .long rest
  | ['-'] => .word
  | '-' :: rest => .short rest
  | _ => .word

/-- Reads one argument that starts with a dash, or the value of an option. There is no result for
other words. -/
def takeDashed (command : Option Name) (reader : Reader) (text : String) :
    Except UsageError (Option Reader) :=
  if reader.trailing then
    .ok none
  else
    match Shape.ofText text with
    | .escape => .ok (some { reader with trailing := true })
    | .long rest => (reader.takeLong command rest).map some
    | .short rest => (reader.takeShort command rest).map some
    | .word =>
        match reader.pending with
        | some ⟨flag, none⟩ => .ok (some { reader with pending := some ⟨flag, some text⟩ })
        | _ => .ok none

def runCommand (command : Name) (reader : Reader) : List String → Except UsageError Reader
  | [] => reader.settle
  | text :: rest => do
      match ← reader.takeDashed (some command) text with
      | some next => next.runCommand command rest
      | none =>
          let next ← reader.takeOperand command text
          next.runCommand command rest

end Reader

inductive Action where
  | parse (query : String)
  | translate (query : String)
  | sql (query : String) (offset : Nat)
  | filter (query input : String)
  | params (parameters reserved : List String) (nameStart : String)
deriving DecidableEq, Repr

def Action.ofSettings (command : Name) (settings : Settings) : Except UsageError Action :=
  match settings.operands with
  | [] => .error .missingRequired
  | query :: _ =>
    match command with
    | .parse => .ok (.parse query)
    | .translate => .ok (.translate query)
    | .sql => .ok (.sql query (settings.offset.getD 0))
    | .filter =>
        match settings.input with
        | none => .error .missingRequired
        | some input => .ok (.filter query input)
    | .params =>
        .ok (.params settings.operands settings.reserved (settings.nameStart.getD ""))

structure Invocation where
  verbose : Bool
  schema : Option String
  maxDepth : Option Nat
  maxLength : Option Nat
  action : Action
deriving DecidableEq, Repr

/-- The settings before the command and those after it; the latter count. -/
def Invocation.ofSettings (outer inner : Settings) (action : Action) : Invocation :=
  { verbose := outer.verbose || inner.verbose
    schema := inner.schema <|> outer.schema
    maxDepth := inner.maxDepth <|> outer.maxDepth
    maxLength := inner.maxLength <|> outer.maxLength
    action := action }

/-- Reads the arguments after `help`: the name of at most one command, or `help` itself. -/
def readHelp : List String → UsageError
  | [] => .displayHelp
  | [topic] =>
      if (Name.ofText? topic).isSome || topic == "help" then .displayHelp else .invalidSubcommand
  | _ => .invalidSubcommand

def Reader.runRoot (reader : Reader) : List String → Except UsageError Invocation
  | [] => do
      let settled ← reader.settle
      if settled.settings.isUsed then .error .missingSubcommand else .error .displayHelpOnMissing
  | text :: rest =>
      let isName := !reader.trailing && !reader.awaitsValue
      match Name.ofText? text with
      | some command =>
          if isName then do
            let inner ← Reader.runCommand command {} rest
            let action ← Action.ofSettings command inner.settings
            let outer ← reader.settle
            return .ofSettings outer.settings inner.settings action
          else if reader.trailing then
            .error .unknownArgument
          else do
            match ← reader.takeDashed none text with
            | some next => next.runRoot rest
            | none => .error .invalidSubcommand
      | none =>
          if isName && text == "help" then
            .error (readHelp rest)
          else if reader.trailing && text == "help" then
            .error .unknownArgument
          else do
            match ← reader.takeDashed none text with
            | some next => next.runRoot rest
            | none => .error .invalidSubcommand

def readArguments (arguments : List String) : Except UsageError Invocation :=
  Reader.runRoot {} arguments

end SearchQuery.Command
