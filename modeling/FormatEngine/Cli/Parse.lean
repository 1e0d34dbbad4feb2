import FormatEngine.Cli.Spec
import FormatEngine.Cli.Similar
/-!
# Reading the command line

The arguments are read from left to right, and the first problem ends the reading with its
message; `-h` or `--help` ends it with the help text of the command being read. An option's
value is the text after `=` or the next argument; an argument that starts with `-` is never
taken as a value. A value after `=` is checked at once; a value given as the next argument is
checked when the next option comes or the arguments end, so an unknown argument after it is
refused first. A second value for an option that takes one is refused, and so is a precision
that is not an unsigned number. Once all arguments are read, an option still waiting for its
value is refused, and then the required options that are missing. A mistyped command or option
is answered with the known names most like it.
-/
namespace FormatEngine.Cli

/-- What the program was asked to do. -/
inductive Invocation where
  | demo (width float : Option String)
  | render (template : String) (args : List String) (width float : Option String)
      (precision : Option Nat)
  | verify (fixture : String) (log : Option String)
deriving DecidableEq, Inhabited

/-- What reading the arguments came to: a run, a help text to print, or a refusal. -/
inductive Parsed where
  | run (i : Invocation)
  | help (text : String)
  | refused (text : String)
deriving DecidableEq, Inhabited

/-- An error message, with the usage line when there is one, and the pointer to `--help` when the
command being read has that flag. -/
def errorTextWith (hint : Bool) (msg : String) (usage : Option String) : String :=
  let u := match usage with
    | some u => "\n\nUsage: " ++ u
    | none => ""
  "error: " ++ msg ++ u ++ (if hint then "\n\nFor more information, try '--help'.\n" else "\n")

/-- An error message of a command that has `--help`. -/
def errorText (msg : String) (usage : Option String) : String := errorTextWith true msg usage

/-- The names offered for a mistyped one. -/
def tip (what : String) (names : List String) : String :=
  let quoted := names.map fun n => "'" ++ n ++ "'"
  match quoted with
  | [n] => "\n\n  tip: a similar " ++ what ++ " exists: " ++ n
  | ns => "\n\n  tip: some similar " ++ what ++ "s exist: " ++ ", ".intercalate ns

/-- Reads an unsigned 64-bit number: an optional `+`, then decimal digits. -/
def parseSize (s : String) : Except String Nat :=
  let rec go (acc : Nat) : List Char → Except String Nat
    | [] => .ok acc
    | c :: r =>
      if c.isDigit then
        let v := acc * 10 + (c.toNat - 48)
        if Nat.pow 2 64 ≤ v then .error "number too large to fit in target type" else go v r
      else .error "invalid digit found in string"
  match s.toList with
  | [] => .error "cannot parse integer from empty string"
  | ['+'] => .error "invalid digit found in string"
  | '+' :: r => go 0 r
  | cs => go 0 cs

/-- The options met so far with their values, in the order they were first given; the option
waiting to be settled, with the value it was given if any; whether `--` was seen. -/
structure ReadState where
  given : List (OptionSpec × List String) := []
  pending : Option (OptionSpec × Option String) := none
  escaped : Bool := false

/-- Keeps the first of equal options. -/
def dedup (os : List OptionSpec) : List OptionSpec :=
  os.foldl (fun acc o => if acc.contains o then acc else acc ++ [o]) []

/-- The usage line naming the required options and then those given. -/
def smartUsage (c : CommandSpec) (used : List OptionSpec) : String :=
  " ".intercalate ((binName ++ " " ++ c.name) ::
    (dedup (c.options.filter (·.required) ++ used)).map OptionSpec.display)

/-- A command's options shown as one set of alternatives, `<--a <A>|--b <B>>`. -/
def groupUsage (c : CommandSpec) : String :=
  "<" ++ "|".intercalate (c.options.map OptionSpec.display) ++ ">"

def helpValueUsage (c : CommandSpec) (st : ReadState) : String :=
  if st.given.isEmpty then smartUsage c [helpFlag]
  else binName ++ " " ++ c.name ++ " --help " ++ groupUsage c

/-- The usage line of an error, given the options used so far. -/
def usageFor (c : CommandSpec) (used : List OptionSpec) : String :=
  if used.isEmpty then c.usage else smartUsage c used

def ReadState.used (st : ReadState) : List OptionSpec := st.given.map (·.1)

/-- Refuses an argument that is not known, with the command's usage line. -/
def unexpected (c : CommandSpec) (tok : String) : Parsed :=
  .refused (errorText ("unexpected argument '" ++ tok ++ "' found") (some c.usage))

def emptyValue (o : OptionSpec) : Parsed :=
  .refused (errorText ("a value is required for '" ++ o.display ++ "' but none was supplied") none)

/-- Records a value of an option: the state after it, and the refusal when there is one. A
second value of an option that takes one is refused and the option is forgotten; a precision
that is not an unsigned number, or an empty path, is refused and the option stays given. -/
def addValue (c : CommandSpec) (st : ReadState) (o : OptionSpec) (v : String) :
    ReadState × Option Parsed :=
  if !o.repeatable && st.given.any (·.1 == o) then
    ({ st with given := st.given.filter (·.1 != o) },
      some (.refused (errorText ("the argument '" ++ o.display ++ "' cannot be used multiple times")
        (some c.usage))))
  else
    let st := if st.given.any (·.1 == o) then st else { st with given := st.given ++ [(o, [])] }
    let refusal : Option Parsed := match o.kind with
      | .text => none
      | .count =>
        match parseSize v with
        | .ok _ => none
        | .error why =>
          some (.refused (errorText ("invalid value '" ++ v ++ "' for '" ++ o.display ++ "': " ++ why)
            none))
      | .path => if v.isEmpty then some (emptyValue o) else none
    match refusal with
    | some p => (st, some p)
    | none =>
      ({ st with given := st.given.map fun (p, vs) => if p == o then (p, vs ++ [v]) else (p, vs) },
        none)

/-- Settles the option waiting for its value: one with no value is refused. -/
def settle (c : CommandSpec) (st : ReadState) : ReadState × Option Parsed :=
  match st.pending with
  | none => (st, none)
  | some (o, none) => ({ st with pending := none }, some (emptyValue o))
  | some (o, some v) => addValue c { st with pending := none } o v

/-- Settles the waiting option, then ends with the help text. -/
def helpAfter (c : CommandSpec) (st : ReadState) : Parsed :=
  match settle c st with
  | (_, some p) => p
  | (_, none) => .help c.help

/-- Refuses an unknown long option, offering the most similar known one. -/
def unknownLong (c : CommandSpec) (st : ReadState) (name : String) : Parsed :=
  let known := c.options ++ [helpFlag]
  match (Similar.candidates name (known.map (·.long))).getLast? with
  | some best =>
    let o := (known.find? (·.long == best)).getD helpFlag
    .refused (errorText ("unexpected argument '--" ++ name ++ "' found" ++ tip "argument" ["--" ++ best])
      (some (usageFor c (dedup (st.used ++ [o])))))
  | none => .refused (errorText ("unexpected argument '--" ++ name ++ "' found") (some (usageFor c st.used)))

/-- Refuses a value given to `--help`. -/
def helpValue (v usage : String) : Parsed :=
  .refused (errorText ("unexpected value '" ++ v ++ "' for '--help' found; no more were expected")
    (some usage))

def splitAttached (body : String) : String × Option String :=
  match body.splitOn "=" with
  | n :: v :: vs => (n, some ("=".intercalate (v :: vs)))
  | _ => (body, none)

/-- Reads the options of a command. A value given as the next argument is settled only when the
next option comes or the arguments end; an unknown argument is refused whatever that value
was. After `--` nothing more is taken. -/
def readOptions (c : CommandSpec) : List String → ReadState → Except Parsed ReadState
  | [], st =>
    match settle c st with
    | (_, some p) => .error p
    | (st, none) => .ok st
  | tok :: rest, st =>
    if st.escaped then .error (unexpected c tok)
    else if tok == "--" then readOptions c rest { st with escaped := true }
    else if tok.startsWith "--" then
      let (name, attached) := splitAttached (String.ofList (tok.toList.drop 2))
      if name == "help" then
        match attached with
        | some v => .error (helpValue v (helpValueUsage c st))
        | none => .error (helpAfter c st)
      else
        match c.options.find? (·.long == name) with
        | some o =>
          match settle c st with
          | (_, some p) => .error p
          | (st, none) =>
            match attached with
            | some v =>
              match addValue c st o v with
              | (_, some p) => .error p
              | (st, none) => readOptions c rest st
            | none => readOptions c rest { st with pending := some (o, none) }
        | none => .error (unknownLong c (settle c st).1 name)
    else if tok.startsWith "-" && tok.length > 1 then
      match tok.toList with
      | _ :: 'h' :: _ => .error (helpAfter c st)
      | _ :: ch :: _ => .error (unexpected c ("-" ++ String.ofList [ch]))
      | _ => .error (unexpected c tok)
    else
      match st.pending with
      | some (o, none) => readOptions c rest { st with pending := some (o, some tok) }
      | _ => .error (unexpected c tok)

def valuesOf (st : ReadState) (long : String) : List String :=
  match st.given.find? (·.1.long == long) with
  | some (_, vs) => vs
  | none => []

def valueOf (st : ReadState) (long : String) : Option String := (valuesOf st long).head?

/-- Reads a command's arguments and builds what it was asked to do. -/
def parseCommand (c : CommandSpec) (args : List String) : Parsed :=
  match readOptions c args {} with
  | .error p => p
  | .ok st =>
    let missing := c.options.filter fun o => o.required && !st.given.any (·.1 == o)
    if !missing.isEmpty then
      .refused (errorText ("the following required arguments were not provided:" ++
        String.join (missing.map fun o => "\n  " ++ o.display))
        (some (smartUsage c ((st.given.map (·.1)).filter (!·.required) ++ missing))))
    else if c.name == "demo" then .run (.demo (valueOf st "width") (valueOf st "float"))
    else if c.name == "render" then
      .run (.render ((valueOf st "template").getD "") (valuesOf st "arg") (valueOf st "width")
        (valueOf st "float") ((valueOf st "precision").bind fun v => (parseSize v).toOption))
    else .run (.verify ((valueOf st "fixture").getD "") (valueOf st "log"))

/-- Refuses an unknown command, offering the most similar known ones. -/
def unknownCommand (name : String) : Parsed :=
  match Similar.candidates name commandNames with
  | [] => .refused (errorText ("unrecognized subcommand '" ++ name ++ "'") (some topUsage))
  | names => .refused (errorText ("unrecognized subcommand '" ++ name ++ "'" ++ tip "subcommand" names)
      (some topUsage))

/-- Reads the arguments of `help`: the command whose help is wanted. -/
def parseHelp : List String → Parsed
  | [] => .help topHelp
  | ["help"] => .help helpHelp
  | name :: more =>
    match commands.find? (·.name == name), more with
    | some c, [] => .help c.help
    | some c, m :: _ => .refused (errorText ("unrecognized subcommand '" ++ m ++ "'") (some c.usage))
    | none, _ =>
      if name == "help" then
        .refused (errorTextWith false ("unrecognized subcommand '" ++ more.headD "" ++ "'")
          (some "bumpfmt-harness help [COMMAND]..."))
      else .refused (errorText ("unrecognized subcommand '" ++ name ++ "'") (some topUsage))

/-- A long option given before the command: offered as `--help`, or as the option of a
command named later that it is most like. -/
def unknownTopLong (name : String) (rest : List String) : Parsed :=
  match (Similar.candidates name ["help"]).getLast? with
  | some best =>
    .refused (errorText ("unexpected argument '--" ++ name ++ "' found" ++ tip "argument" ["--" ++ best])
      (some ("bumpfmt-harness --" ++ best ++ " <COMMAND>")))
  | none =>
    let offers := commands.filterMap fun c =>
      match (Similar.candidates name ((c.options ++ [helpFlag]).map (·.long))).getLast?,
        rest.idxOf? c.name with
      | some best, some i => some (i, c.name ++ " --" ++ best)
      | _, _ => none
    let best := offers.foldl (fun (acc : Option (Nat × String)) o =>
      match acc with
      | some a => if o.1 < a.1 then some o else some a
      | none => some o) none
    match best with
    | some (_, s) =>
      .refused (errorText ("unexpected argument '--" ++ name ++ "' found\n\n  tip: '" ++ s ++ "' exists")
        (some topUsage))
    | none => .refused (errorText ("unexpected argument '--" ++ name ++ "' found") (some topUsage))

/-- Refuses a command's name given after `--`, where it is taken as a plain argument. -/
def needlessEscape (name : String) : Parsed :=
  .refused (errorText ("unexpected argument '" ++ name ++ "' found\n\n  tip: subcommand '" ++ name ++
    "' exists; to use it, remove the '--' before it") (some topUsage))

/-- Reads the whole command line. With no arguments, or only `--`, the help is printed as a
refusal. -/
def parse : List String → Parsed
  | [] => .refused topHelp
  | tok :: rest =>
    if tok == "--" then
      match rest with
      | [] => .refused topHelp
      | name :: _ => if commandNames.contains name then needlessEscape name else unknownCommand name
    else if tok.startsWith "--" then
      let (name, attached) := splitAttached (String.ofList (tok.toList.drop 2))
      if name == "help" then
        match attached with
        | some v => helpValue v "bumpfmt-harness --help <COMMAND>"
        | none => .help topHelp
      else unknownTopLong name rest
    else if tok.startsWith "-" && tok.length > 1 then
      match tok.toList with
      | _ :: 'h' :: _ => .help topHelp
      | _ :: ch :: _ =>
        .refused (errorText ("unexpected argument '-" ++ String.ofList [ch] ++ "' found") (some topUsage))
      | _ => .refused (errorText ("unexpected argument '" ++ tok ++ "' found") (some topUsage))
    else
      match commands.find? (·.name == tok) with
      | some c => parseCommand c rest
      | none => if tok == "help" then parseHelp rest else unknownCommand tok

end FormatEngine.Cli
