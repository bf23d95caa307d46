import ConsoleReplay.Number.Word
import ConsoleReplay.Text.Digit

/-!
# Command lines

The program does one of three things: it replays a log, sums one up, or shows the
screen at the end of an output.  Options may stand before and after the operands,
and each at most once; a double hyphen ends them.

## Main definitions

* `Task`, `Invocation` — what the program is asked to do.
* `Argument.ofString` — what one argument looks like.
* `Given.ofArguments? names args` — the operands and the values of options.
* `Invocation.ofArguments? args` — what a command line asks for.
-/

namespace ConsoleReplay

/-- How a session is printed. -/
inductive Format
  | json
  | text
  deriving DecidableEq, Repr

/-- What the program can do. -/
inductive Task
  /-- Print the frames of a session log. -/
  | replay (file : String) (format : Format)
  /-- Print the summary of a session log. -/
  | summary (file : String)
  /-- Print the screen at the end of an output, which comes from the standard input
  unless there is a file.  A size that is not given is taken from the settings. -/
  | screen (file : Option String) (width height : Option Nat)
  deriving DecidableEq, Repr

/-- What the program is asked to do. -/
structure Invocation where
  /-- The file with the settings; without it the user's own are taken. -/
  settings : Option String
  task : Task
  deriving DecidableEq, Repr

/-! ### Single arguments -/

/-- What an argument looks like. -/
inductive Argument
  | operand
  /-- The mark after which all arguments are operands. -/
  | operandsFollow
  /-- An option by name, perhaps with its value after an equals sign. -/
  | option (name : String) (value : Option String)
  /-- An option of a single letter, of which there are none. -/
  | letters
  deriving DecidableEq, Repr

/-- What an argument looks like.  A hyphen alone is an operand. -/
def Argument.ofString (arg : String) : Argument :=
  match arg.toList with
  | ['-', '-'] => .operandsFollow
  | '-' :: '-' :: cs =>
    let name := cs.takeWhile (· != '=')
    let value := match cs.dropWhile (· != '=') with
      | _ :: cs => some (String.ofList cs)
      | [] => none
    .option (.ofList name) value
  | '-' :: _ :: _ => .letters
  | _ => .operand

/-- The number that an argument gives: decimal digits, perhaps after a plus sign, for a number of 64
bits.  Nothing else may stand around the digits. -/
def naturalOf? (arg : String) : Option Nat :=
  let cs := match arg.toList with
    | '+' :: cs => cs
    | cs => cs
  let n := Text.ofDigits 10 (cs.map Text.digitValue)
  if !cs.isEmpty && cs.all Char.isDigit && n < wordLimit then some n else none

/-- The path that an argument gives. -/
def pathOf? (arg : String) : Option String := if arg.isEmpty then none else some arg

/-- The format that an argument gives. -/
def formatOf? (arg : String) : Option Format :=
  if arg = "json" then some .json else if arg = "text" then some .text else none

/-! ### The arguments of a command -/

/-- The operands of a command and the values of its options.  It holds texts: what they mean is up
to the command. -/
structure Given where
  operands : List String := []
  values : List (String × String) := []

namespace Given

/-- One more operand, before the others. -/
def withOperand (g : Given) (s : String) : Given := { g with operands := s :: g.operands }

/-- One more option, which must not be there already. -/
def withValue? (g : Given) (name value : String) : Option Given :=
  if (g.values.lookup name).isSome then none
  else some { g with values := (name, value) :: g.values }

/-- The operands and the values of options, where the command takes options with
the given names.  The value of an option is the text after its equals sign, or else
the next argument, which must look like an operand. -/
def ofArguments? (names : List String) : List String → Option Given
  | [] => some {}
  | arg :: args =>
    match Argument.ofString arg with
    | .operand => (ofArguments? names args).map (·.withOperand arg)
    | .operandsFollow => some { operands := args }
    | .letters => none
    | .option name (some value) =>
      if names.contains name then
        (ofArguments? names args).bind (·.withValue? name value)
      else none
    | .option name none =>
      match args with
      | [] => none
      | value :: args =>
        if names.contains name && Argument.ofString value = .operand then
          (ofArguments? names args).bind (·.withValue? name value)
        else none

/-- The value of an option that may be missing. -/
def value? (g : Given) (name : String) (read : String → Option α) : Option (Option α) :=
  match g.values.lookup name with
  | some value => (read value).map some
  | none => some none

/-- The only operand. -/
def operand? (g : Given) : Option String :=
  match g.operands with
  | [s] => pathOf? s
  | _ => none

/-- The only operand, if there is one at all. -/
def operandIfAny? (g : Given) : Option (Option String) :=
  match g.operands with
  | [] => some none
  | [s] => (pathOf? s).map some
  | _ => none

end Given

/-! ### Whole command lines -/

namespace Invocation

/-- The name of the option for the file with the settings, which every command and
the program itself take. -/
def settingsOption : String := "config"

/-- What a command and its arguments ask for. -/
def ofCommand? (command : String) (args : List String) : Option Invocation :=
  match command with
  | "replay" => do
    let given ← Given.ofArguments? [settingsOption, "format"] args
    let format ← given.value? "format" formatOf?
    return ⟨← given.value? settingsOption pathOf?,
      .replay (← given.operand?) (format.getD .json)⟩
  | "summary" => do
    let given ← Given.ofArguments? [settingsOption] args
    return ⟨← given.value? settingsOption pathOf?, .summary (← given.operand?)⟩
  | "screen" => do
    let given ← Given.ofArguments? [settingsOption, "width", "height"] args
    return ⟨← given.value? settingsOption pathOf?,
      .screen (← given.operandIfAny?) (← given.value? "width" naturalOf?)
        (← given.value? "height" naturalOf?)⟩
  | _ => none

/-- The same with a file for the settings that was named before the command.  One
named after the command comes first. -/
def withSettings (path : String) (invocation : Invocation) : Invocation :=
  { invocation with settings := some (invocation.settings.getD path) }

/-- What a command line asks for, or nothing if it is not well-formed. -/
def ofArguments? : List String → Option Invocation
  | [] => none
  | arg :: args =>
    match Argument.ofString arg, args with
    | .operand, args => ofCommand? arg args
    | .option name (some value), command :: args => do
      if name ≠ settingsOption then none
      return (← ofCommand? command args).withSettings (← pathOf? value)
    | .option name none, value :: command :: args => do
      if name ≠ settingsOption ∨ Argument.ofString value ≠ .operand then none
      return (← ofCommand? command args).withSettings (← pathOf? value)
    | _, _ => none

/-- The files that an invocation reads, the user's own settings aside. -/
def paths (invocation : Invocation) : List String :=
  let task := match invocation.task with
    | .replay file _ | .summary file => [file]
    | .screen file _ _ => file.toList
  invocation.settings.toList ++ task

/-- Whether an invocation reads the standard input. -/
def readsInput (invocation : Invocation) : Bool := invocation.task matches .screen none _ _

end Invocation

end ConsoleReplay
