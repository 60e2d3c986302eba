import TableDump.Number.Numeral

/-! # Command line options

* `Options`: what can be said on the command line, every option with a value.
* `Token.ofArgument`: an argument is a value, an option, perhaps with its value behind `=` or right
  behind a short name, or neither. Long names may be shortened as long as one option is meant.
* `readOptions`: the options of a command line, or the exit code with which it is refused. Of two values
  for one option the last counts.
-/

namespace TableDump.CommandLine
open TableDump.Number
set_option autoImplicit false

/-! ## Options -/

inductive LogLevel
  | critical | error | warning | info | debug
deriving DecidableEq, Repr

def LogLevel.named : List (String × LogLevel) :=
  [("CRITICAL", critical), ("ERROR", error), ("WARNING", warning), ("INFO", info), ("DEBUG", debug)]

structure Options where
  output : Option String := none
  domain : Option String := none
  threshold : Option Int := none
  databaseUrl : Option String := none
  schema : Option String := none
  entityModel : Option String := none
  configPath : Option String := none
  logLevel : LogLevel := .warning
deriving DecidableEq, Repr

inductive OptionName
  | help | output | domain | threshold | databaseUrl | schema | entityModel | configPath | logLevel
deriving DecidableEq, Repr

def optionNames : List (String × OptionName) :=
  [("-h", .help), ("--help", .help), ("--output", .output), ("-o", .output), ("--domain", .domain),
    ("--threshold", .threshold), ("--database-url", .databaseUrl), ("--schema", .schema),
    ("--entity-model", .entityModel), ("--config-path", .configPath), ("--log-level", .logLevel)]

/-- Sets an option, unless its value is none that it can have. -/
def Options.set (o : Options) (name : OptionName) (value : String) : Option Options :=
  match name with
  | .help => none
  | .output => some { o with output := some value }
  | .domain => some { o with domain := some value }
  | .threshold => (whole? value).map fun n => { o with threshold := some n }
  | .databaseUrl => some { o with databaseUrl := some value }
  | .schema => some { o with schema := some value }
  | .entityModel => some { o with entityModel := some value }
  | .configPath => some { o with configPath := some value }
  | .logLevel => (LogLevel.named.lookup value).map fun level => { o with logLevel := level }

/-! ## Arguments -/

inductive Token
  | value (text : String)
  | option (name : OptionName) (attached : Option String)
  | unknown
  | ambiguous
deriving DecidableEq, Repr

namespace Token

/-- The text before the first `=`, and the text behind it. -/
def splitEquals (cs : List Char) : List Char × Option String :=
  match cs.span (· != '=') with
  | (before, _ :: after) => (before, some (String.ofList after))
  | (before, []) => (before, none)

/-- A minus sign with digits of any script, perhaps with a point before some of them. -/
def isNegativeNumber (cs : List Char) : Bool :=
  match cs with
  | '-' :: rest =>
    let isDigit := fun c => (digit? c).isSome
    let rest := if rest.getLast? = some '\n' then rest.dropLast else rest
    match rest.span isDigit with
    | (_ :: _, []) => true
    | (_, '.' :: fraction) => !fraction.isEmpty && fraction.all isDigit
    | _ => false
  | _ => false

/-- The option that a long name begins. -/
def ofLong (cs : List Char) : Option Token :=
  let (start, attached) := splitEquals cs
  match optionNames.filter fun entry => start.isPrefixOf entry.1.toList with
  | [] => none
  | [(_, name)] => some (option name attached)
  | _ => some ambiguous

/-- The option of a short name, with a value right behind it. -/
def ofShort (cs : List Char) : Option Token :=
  (optionNames.lookup (String.ofList (cs.take 2))).map fun name =>
    option name (some (String.ofList (cs.drop 2)))

/-- What stands for neither a known option nor a short form of one. -/
def ofOther (s : String) : Token :=
  if isNegativeNumber s.toList || s.toList.contains ' ' then value s else unknown

def ofOption (s : String) : Token :=
  match optionNames.lookup s with
  | some name => option name none
  | none =>
    let (before, attached) := splitEquals s.toList
    match attached.bind fun _ => optionNames.lookup (String.ofList before) with
    | some name => option name attached
    | none =>
      let found := match s.toList with
        | '-' :: '-' :: _ => ofLong s.toList
        | cs => ofShort cs
      found.getD (ofOther s)

def ofArgument (s : String) : Token :=
  match s.toList with
  | '-' :: _ :: _ => ofOption s
  | _ => value s

end Token

/-! ## Command lines -/

/-- The exit code for a command line that cannot be used. -/
def usageExit : Nat := 2

/-- Reads tokens in order; `stray` when something stood where nothing can stand. -/
def readTokens (o : Options) (stray : Bool) : List Token → Except Nat Options
  | [] => if stray then .error usageExit else .ok o
  | .option .help none :: _ => .error 0
  | .option name (some value) :: rest => match o.set name value with
    | some o => readTokens o stray rest
    | none => .error usageExit
  | .option name none :: .value value :: rest => match o.set name value with
    | some o => readTokens o stray rest
    | none => .error usageExit
  | .option _ none :: _ => .error usageExit
  | .ambiguous :: _ => .error usageExit
  | _ :: rest => readTokens o true rest

def readOptions (arguments : List String) : Except Nat Options :=
  readTokens {} false (arguments.map Token.ofArgument)

end TableDump.CommandLine
