/-!
# Words of a command line

A level of a command line takes named options, flags and positional values, and may end in the name
of a subcommand. Words are taken in order. A value is looked at when the next argument begins or the
words end, so a word that nothing takes is reported before a bad value just in front of it. Behind
`--` every word is a positional value.
-/

namespace SerialLink.Words

/-- Why words are no command. -/
inductive Fault where
  /-- a word that no argument takes -/
  | unknownArgument
  /-- an option without its value, or a value that is none of the possible ones -/
  | invalidValue
  /-- a value that cannot be read, with the reason if its reader gave one -/
  | valueValidation (reason : Option String)
  /-- an argument that is given again -/
  | argumentConflict
  /-- a value for a flag -/
  | tooManyValues
  | missingRequiredArgument
  /-- no subcommand, or none of this name -/
  | noSubcommand
  deriving DecidableEq, Repr

/-- A fault in words. -/
def Fault.message : Fault → String
  | unknownArgument => "unexpected argument"
  | invalidValue => "missing or impossible value"
  | valueValidation none => "invalid value"
  | valueValidation (some reason) => "invalid value: " ++ reason
  | argumentConflict => "argument given more than once"
  | tooManyValues => "unexpected value for a flag"
  | missingRequiredArgument => "required arguments were not given"
  | noSubcommand => "no such command"

/-- Why a command line ends without a command to run. -/
inductive Stop where
  | refused (fault : Fault)
  | help
  | version
  deriving DecidableEq, Repr

/-- Which words with a hyphen in front may be values of an argument that is waiting. -/
inductive Hyphens where
  | none | numbers | all
  deriving DecidableEq, Repr

/-- An argument. -/
structure Argument where
  name : String
  takesValue : Bool := true
  /-- why a text cannot be its value -/
  fault : String → Option Fault := fun _ => .none
  hyphens : Hyphens := .none
  /-- the variable of the environment that stands in when it is not given -/
  fallback : Option String := .none

/-- The arguments of a level and the names of its subcommands. -/
structure Level where
  options : List Argument := []
  positionals : List Argument := []
  subcommands : List String := []
  /-- there is an option that asks for the version -/
  hasVersion : Bool := false

/-- The arguments that were given with their values; a flag has an empty one. -/
abbrev Given := List (String × String)

/-- What has been made of the words so far. -/
structure Progress where
  given : Given := []
  /-- an argument whose value, if it has one yet, was not looked at -/
  pending : Option (Argument × Option String) := none
  /-- the pending argument is an option that has no value yet -/
  awaiting : Bool := false
  /-- positional values taken -/
  position : Nat := 0
  /-- only positional values follow -/
  trailing : Bool := false

/-- A subcommand's name and the words behind it. -/
abbrev Rest := Option (String × List String)

/-- A word that may be a number behind its hyphen: digits with at most one point, not in front, and
at most one exponent mark, neither in front nor at the end. -/
def looksNumeric (text : List Char) : Bool :=
  let isMark (c : Char) : Bool := c == 'e' || c == 'E'
  let mantissa := text.takeWhile (!isMark ·)
  let exponent := text.dropWhile (!isMark ·)
  let points := mantissa.count '.'
  mantissa.all (fun c => c.isDigit || c == '.') && points ≤ 1 && mantissa.head? != some '.' &&
    (exponent.isEmpty ||
      (!mantissa.isEmpty && 2 ≤ exponent.length && (exponent.drop 1).all Char.isDigit))

namespace Progress

/-- An argument with its value, which must not have been given before. -/
def give (p : Progress) (a : Argument) (value : String) : Except Fault Progress :=
  if (p.given.lookup a.name).isSome then .error .argumentConflict
  else match a.fault value with
    | some fault => .error fault
    | none => .ok { p with given := p.given ++ [(a.name, value)] }

/-- Looks at the value of the pending argument. -/
def resolve (p : Progress) : Except Fault Progress :=
  match p.pending with
  | none => .ok p
  | some (_, none) => .error .invalidValue
  | some (a, some value) => { p with pending := none, awaiting := false }.give a value

/-- The pending option takes a word as its value. -/
def fill (p : Progress) (word : String) : Progress :=
  { p with pending := p.pending.map fun (a, _) => (a, some word), awaiting := false }

/-- A word as the next positional value. -/
def place (l : Level) (p : Progress) (word : String) : Except Fault Progress :=
  match l.positionals[p.position]? with
  | none => .error (if l.subcommands.isEmpty then .unknownArgument else .noSubcommand)
  | some a =>
    p.resolve.map fun p =>
      { p with pending := some (a, some word), awaiting := false, position := p.position + 1 }

/-- A word as a value: of the option that waits for one, or else the next positional one. -/
def value (l : Level) (p : Progress) (word : String) : Except Fault Progress :=
  if p.awaiting then .ok (p.fill word) else p.place l word

/-- What the pending option takes in spite of a hyphen. -/
def waitsFor (p : Progress) : Hyphens :=
  match p.pending with
  | some (a, none) => if p.awaiting then a.hyphens else .none
  | _ => .none

/-- An option by its long name, with the value that was attached to it. -/
def long (l : Level) (p : Progress) (name : String) (attached : Option String) :
    Except Stop Progress :=
  let settled := p.resolve.mapError Stop.refused
  match l.options.find? (·.name == name), attached with
  | none, none =>
    if name = "help" then settled.bind fun _ => .error .help
    else if name = "version" ∧ l.hasVersion then settled.bind fun _ => .error .version
    else .error (.refused .unknownArgument)
  | none, some _ =>
    if name = "help" ∨ (name = "version" ∧ l.hasVersion) then .error (.refused .tooManyValues)
    else .error (.refused .unknownArgument)
  | some a, attached =>
    if a.takesValue then do
      let p ← settled
      match attached with
      | some value => (p.give a value).mapError .refused
      | none => .ok { p with pending := some (a, none), awaiting := true }
    else if attached.isSome then .error (.refused .tooManyValues)
    else do
      let p ← settled
      (p.give a "").mapError .refused

/-- Letters behind one hyphen; only the ones for help and version mean anything. -/
def short (l : Level) (p : Progress) (letters : List Char) : Except Stop Progress :=
  let settled := p.resolve.mapError Stop.refused
  if letters.head? = some 'h' then settled.bind fun _ => .error .help
  else if letters.head? = some 'V' ∧ l.hasVersion then settled.bind fun _ => .error .version
  else .error (.refused .unknownArgument)

/-- The name and the attached value of a word that starts with two hyphens. -/
def longParts (word : List Char) : String × Option String :=
  let name := String.ofList (word.takeWhile (· ≠ '='))
  match word.dropWhile (· ≠ '=') with
  | [] => (name, none)
  | _ :: value => (name, some (String.ofList value))

/-- Takes a word that is not the name of a subcommand. -/
def take (l : Level) (p : Progress) (word : String) : Except Stop Progress :=
  let asValue := (p.value l word).mapError Stop.refused
  if p.trailing then (p.place l word).mapError .refused
  else match word.toList with
    | ['-', '-'] => if p.waitsFor = .all then asValue else .ok { p with trailing := true }
    | '-' :: '-' :: rest =>
      if p.waitsFor = .all then asValue
      else
        let (name, attached) := longParts rest
        p.long l name attached
    | '-' :: letter :: rest =>
      let letters := letter :: rest
      let numeric := looksNumeric letters
      let next := (l.positionals[p.position]?).map Argument.hyphens
      if p.waitsFor = .all ∨ (p.waitsFor = .numbers ∧ numeric) then asValue
      else if next = some .numbers ∧ numeric then asValue
      else p.short l letters
    | _ => asValue

end Progress

/-- Takes words up to the end or to the name of a subcommand. -/
def Level.takeAll (l : Level) : Progress → List String → Except Stop (Progress × Rest)
  | p, [] => .ok (p, none)
  | p, word :: words =>
    if !p.trailing && !p.awaiting && l.subcommands.contains word then .ok (p, some (word, words))
    else do
      let p ← p.take l word
      l.takeAll p words

/-- The variables of the environment stand in for arguments that are not given. -/
def standIn (environment : Given) (p : Progress) (a : Argument) : Except Fault Progress :=
  match (p.given.lookup a.name), a.fallback.bind (List.lookup · environment) with
  | none, some value => p.give a value
  | _, _ => .ok p

/-- The arguments of a level once all of its words are taken. -/
def Level.finish (l : Level) (environment : Given) (p : Progress) : Except Fault Given := do
  let p ← p.resolve
  let p ← (l.options ++ l.positionals).foldlM (standIn environment) p
  return p.given

end SerialLink.Words
