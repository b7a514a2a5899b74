/-!
# Options of a command line

Options have a long name and may have a short one; some take a value, which may be attached or be
the next argument. A value that is an argument of its own is looked at only when the next option
is met, or at the end, so that an argument that is no option wins over a bad value before it.
-/
namespace CleanSql.CommandLine

inductive UsageFault where
  | helpWanted
  | versionWanted
  | noCommand
  | unknownCommand
  | unknownArgument
  /-- A value that is missing, or that the option does not take. -/
  | badValue
  /-- A value for an option that takes none. -/
  | surplusValue
  /-- An option given twice. -/
  | repeatedOption
  | missingOption
  deriving DecidableEq, Repr

inductive OptionEffect (α : Type) where
  | mark (put : α → α)
  /-- The option takes a value, or refuses it. -/
  | value (put : String → Option (α → α))
  | stop (fault : UsageFault)

structure CommandOption (α : Type) where
  long : String
  short : Option Char
  effect : OptionEffect α

structure OptionProgress (α : Type) where
  request : α
  /-- The long names of the options that count. -/
  seen : List String := []
  /-- The last option if its value is still to be looked at, or still to come. -/
  pending : Option (CommandOption α × Option String) := none

namespace OptionProgress

variable {α : Type}

/-- Lets an option count that was not given before. -/
def count (o : CommandOption α) (put : α → α) (p : OptionProgress α) : OptionProgress α :=
  { request := put p.request, seen := o.long :: p.seen, pending := none }

def carryOut (o : CommandOption α) (value : Option String) (p : OptionProgress α) :
    Except UsageFault (OptionProgress α) :=
  match o.effect, value with
  | .stop fault, _ => .error fault
  | .value _, none => .error .badValue
  | .mark put, _ => if p.seen.contains o.long then .error .repeatedOption else .ok (p.count o put)
  | .value put, some v =>
    if p.seen.contains o.long then .error .repeatedOption
    else
      match put v with
      | none => .error .badValue
      | some change => .ok (p.count o change)

def settle (p : OptionProgress α) : Except UsageFault (OptionProgress α) :=
  match p.pending with
  | none => .ok p
  | some (o, value) => { p with pending := none }.carryOut o value

def meet (o : CommandOption α) (p : OptionProgress α) : Except UsageFault (OptionProgress α) := do
  let p ← p.settle
  match o.effect with
  | .value _ => pure { p with pending := some (o, none) }
  | _ => p.carryOut o none

def meetWith (o : CommandOption α) (value : String) (p : OptionProgress α) :
    Except UsageFault (OptionProgress α) := do
  (← p.settle).carryOut o (some value)

/-- An option by its long name, with what stands behind an equals sign. -/
def readLong (options : List (CommandOption α)) (name : String) (value : Option String)
    (p : OptionProgress α) : Except UsageFault (OptionProgress α) :=
  match options.find? (·.long = name) with
  | none => .error .unknownArgument
  | some o =>
    match o.effect, value with
    | _, none => p.meet o
    | .value _, some v => p.meetWith o v
    | _, some _ => .error .surplusValue

/-- Options by their short names, one after the other. One that takes a value takes all that
follows. -/
def readShort (options : List (CommandOption α)) :
    List Char → OptionProgress α → Except UsageFault (OptionProgress α)
  | [], p => .ok p
  | c :: rest, p =>
    match options.find? (·.short = some c) with
    | none => .error .unknownArgument
    | some o =>
      match o.effect, rest with
      | .value _, '=' :: v => p.meetWith o (String.ofList v)
      | .value _, v@(_ :: _) => p.meetWith o (String.ofList v)
      | _, _ => do readShort options rest (← p.meet o)

inductive ArgumentShape where
  /-- Two dashes: no options follow. -/
  | divider
  | long (name : String) (value : Option String)
  | short (letters : List Char)
  | plain

/-- A single dash is a plain argument. -/
def ArgumentShape.of (argument : String) : ArgumentShape :=
  match argument.toList with
  | ['-', '-'] => divider
  | '-' :: '-' :: cs =>
    long (String.ofList (cs.takeWhile (· ≠ '=')))
      (match cs.dropWhile (· ≠ '=') with
        | [] => none
        | _ :: v => some (String.ofList v))
  | '-' :: c :: cs => short (c :: cs)
  | _ => plain

def readAll (options : List (CommandOption α)) :
    List String → OptionProgress α → Except UsageFault (OptionProgress α)
  | [], p => p.settle
  | argument :: rest, p =>
    match ArgumentShape.of argument with
    | .divider => if rest.isEmpty then p.settle else .error .unknownArgument
    | .long name value => do readAll options rest (← p.readLong options name value)
    | .short letters => do readAll options rest (← p.readShort options letters)
    | .plain =>
      match p.pending with
      | some (o, none) => readAll options rest { p with pending := some (o, some argument) }
      | _ => .error .unknownArgument

end OptionProgress

end CleanSql.CommandLine
