import Karnaugh.Label
import Karnaugh.Text.Decimal
import Karnaugh.Text.Split

set_option autoImplicit false

/-! # Command-line options

What a command line asks for: a command, the map it is about, and settings. Options are written with
one dash and a letter or with two dashes and a word. Letters may share a dash; the value of an option
follows in the same argument, with or without an equals sign, or as the next argument, which then must
not begin with a dash unless it is a lone one. After `--` no argument is an option. An option is given
once at most, and there is one operand. Arguments are read in order, and the first thing that decides
the outcome wins: a mistake, or a request for help or for the version. -/

namespace Karnaugh.CommandLine

/-! ## What can be asked for -/

/-- The commands. -/
inductive Command
  | simplify
  | parse
  | groups
  | levels
  | check
  /-- Show the solution of a level and record it as solved. -/
  | solve
  | progress
  deriving DecidableEq

namespace Command

/-- Every command. -/
def all : List Command :=
  [simplify, parse, groups, levels, check, solve, progress]

/-- The name of a command. -/
def name : Command → String
  | simplify => "simplify"
  | parse => "parse"
  | groups => "groups"
  | levels => "levels"
  | check => "check"
  | solve => "solve"
  | progress => "progress"

end Command

/-- The settings of a run. -/
structure Options where
  command : Command := .simplify
  /-- The map, as a bit string or an equation. -/
  map? : Option String := none
  count? : Option Nat := none
  level? : Option Nat := none
  progressFile : String := ".kmap_progress"
  /-- How complements are written. -/
  style : Complement := .prime
  /-- Whether a summary is wanted. -/
  summary : Bool := false
  /-- Whether the steps of the work are to be told. -/
  verbose : Bool := false
  deriving DecidableEq

/-! ## Option names -/

/-- The options. -/
inductive Key
  | command
  | count
  | level
  | progressFile
  | style
  | summary
  | verbose
  | help
  | version
  deriving DecidableEq

namespace Key

/-- Every option. -/
def all : List Key :=
  [command, count, level, progressFile, style, summary, verbose, help, version]

/-- The letter of an option. -/
def letter : Key → Char
  | command => 'D'
  | count => 'n'
  | level => 'l'
  | progressFile => 'P'
  | style => 'N'
  | summary => 's'
  | verbose => 'v'
  | help => 'h'
  | version => 'V'

/-- The word of an option. -/
def word : Key → String
  | command => "do"
  | count => "vars"
  | level => "level"
  | progressFile => "progress-file"
  | style => "notation"
  | summary => "summary"
  | verbose => "verbose"
  | help => "help"
  | version => "version"

/-- Whether an option takes a value. -/
def takesValue : Key → Bool
  | command | count | level | progressFile | style => true
  | summary | verbose | help | version => false

/-- The option of a letter. -/
def ofLetter? (c : Char) : Option Key :=
  all.find? fun key => key.letter == c

/-- The option of a word, which has to be written out in full. -/
def ofWord? (word : String) : Option Key :=
  all.find? fun key => key.word == word

end Key

/-! ## Mistakes -/

/-- What can be wrong with a command line. -/
inductive UsageFault
  | unknownOption (option : String)
  | repeated (key : Key)
  | missingValue (key : Key)
  | unwantedValue (key : Key)
  | badValue (key : Key) (value : String)
  | extraOperand (operand : String)
  | missingMap (command : Command)
  deriving DecidableEq

/-- The wording of each mistake. -/
def UsageFault.message : UsageFault → String
  | unknownOption option => "error: unknown option " ++ option
  | repeated key => "error: --" ++ key.word ++ " is given twice"
  | missingValue key => "error: --" ++ key.word ++ " needs a value"
  | unwantedValue key => "error: --" ++ key.word ++ " takes no value"
  | badValue key value => "error: " ++ value ++ " is no value for --" ++ key.word
  | extraOperand operand => "error: there is one operand too many: " ++ operand
  | missingMap command =>
    "error: the <MAP> argument is required for \x60--do " ++ command.name ++ "\x60"

/-- How reading a command line can end before the last argument. -/
inductive Ending
  | mistake (fault : UsageFault)
  | help
  | version
  deriving DecidableEq

/-! ## Reading -/

/-- A command line read in part. -/
structure Draft where
  options : Options := {}
  /-- The options given so far. -/
  given : List Key := []
  /-- The option whose value is to come. -/
  pending? : Option Key := none
  /-- Whether the options have been ended. -/
  operandsOnly : Bool := false

namespace Draft

/-- Gives an option a value. -/
def assign (draft : Draft) (key : Key) (value : String) : Except Ending Draft :=
  let bad := Except.error (Ending.mistake (.badValue key value))
  let accept (options : Options) : Except Ending Draft :=
    .ok { draft with options := options, given := key :: draft.given, pending? := none }
  if key ∈ draft.given then .error (.mistake (.repeated key))
  else
    match key with
    | .command =>
      match Command.all.find? fun command => command.name == value with
      | some command => accept { draft.options with command := command }
      | none => bad
    | .count =>
      match Text.Decimal.read? value.toList with
      | some n => accept { draft.options with count? := some n }
      | none => bad
    | .level =>
      match Text.Decimal.read? value.toList with
      | some n => accept { draft.options with level? := some n }
      | none => bad
    | .progressFile =>
      if value.isEmpty then bad else accept { draft.options with progressFile := value }
    | .style =>
      if value = "prime" then accept { draft.options with style := .prime }
      else if value = "overline" then accept { draft.options with style := .overline }
      else bad
    | .summary | .verbose | .help | .version => .error (.mistake (.unwantedValue key))

/-- Takes an option without a value: a flag is set, a request is answered at once, and any other
    option waits for the next argument. -/
def raise (draft : Draft) (key : Key) : Except Ending Draft :=
  match key with
  | .help => .error .help
  | .version => .error .version
  | .summary | .verbose =>
    if key ∈ draft.given then .error (.mistake (.repeated key))
    else
      let options := draft.options
      .ok { draft with
        options :=
          if key = .summary then { options with summary := true }
          else { options with verbose := true }
        given := key :: draft.given }
  | _ => .ok { draft with pending? := some key }

/-- Reads the letters behind one dash. -/
def letters (draft : Draft) : List Char → Except Ending Draft
  | [] => .ok draft
  | c :: rest =>
    match Key.ofLetter? c with
    | none => .error (.mistake (.unknownOption (String.ofList ['-', c])))
    | some key =>
      if key.takesValue && !rest.isEmpty then
        let value := if rest.head? = some '=' then rest.tail else rest
        draft.assign key (String.ofList value)
      else do
        let draft ← draft.raise key
        draft.letters rest

/-- Reads what follows two dashes. -/
def word (draft : Draft) (text : List Char) : Except Ending Draft :=
  let (name, value?) :=
    match Text.cutAt? '=' text with
    | some (name, value) => (name, some value)
    | none => (text, none)
  match Key.ofWord? (String.ofList name), value? with
  | none, _ => .error (.mistake (.unknownOption (String.ofList ('-' :: '-' :: name))))
  | some key, none => draft.raise key
  | some key, some value => draft.assign key (String.ofList value)

/-- Takes an operand: the map. -/
def operand (draft : Draft) (text : String) : Except Ending Draft :=
  match draft.options.map? with
  | none => .ok { draft with options := { draft.options with map? := some text } }
  | some _ => .error (.mistake (.extraOperand text))

/-- Reads one argument. -/
def argument (draft : Draft) (text : String) : Except Ending Draft :=
  if draft.operandsOnly then draft.operand text
  else
    match draft.pending?, text.toList with
    -- A lone dash is a value or an operand like any other text.
    | some key, '-' :: _ :: _ => .error (.mistake (.missingValue key))
    | some key, _ => draft.assign key text
    | none, ['-', '-'] => .ok { draft with operandsOnly := true }
    | none, '-' :: '-' :: rest => draft.word rest
    | none, '-' :: c :: rest => draft.letters (c :: rest)
    | none, _ => draft.operand text

/-- The options of a command line that has been read to its end. -/
def finish (draft : Draft) : Except Ending Options :=
  match draft.pending? with
  | some key => .error (.mistake (.missingValue key))
  | none => .ok draft.options

end Draft

/-- Reads a command line. -/
def Options.read (arguments : List String) : Except Ending Options :=
  (arguments.foldlM Draft.argument {}).bind Draft.finish

end Karnaugh.CommandLine
