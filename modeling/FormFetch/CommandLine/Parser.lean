import FormFetch.CommandLine.Usage

/-!
# Reading command lines

A command line is read word by word.  Options may stand at every level; of an option
that is given at several levels the deepest one counts.  After `--` every word is a
value.

* `readLevel` reads the words of one level and, at the name of a command, those of
  the level below.
* `parse` is the whole command line.
-/

namespace FormFetch.CommandLine

/-- What was found at one level. -/
structure Found where
  verbose : Nat := 0
  quiet : Bool := false
  /-- `--verbose` and `--quiet` as far as given, the one that was given last at the end. -/
  order : List Switch := []
  server : Option String := none
  config : Option String := none
  values : List String := []
  deriving DecidableEq, Repr

namespace Found

/-- The value of an option. -/
def get? (f : Found) : Valued → Option String
  | .server => f.server
  | .config => f.config

/-- Something was given at this level. -/
def isExplicit (f : Found) : Bool :=
  !f.order.isEmpty || f.server.isSome || f.config.isSome || !f.values.isEmpty

/-- The level with one more value of an option; only a path has to be non-empty. -/
def setValue (f : Found) (option : Valued) (value : String) : Except Refusal Found :=
  if (f.get? option).isSome then .error (.repeatedValue option)
  else
    match option with
    | .server => .ok { f with server := some value }
    | .config =>
      if value = "" then .error (.noValue .config) else .ok { f with config := some value }

end Found

/-- An option that a value may still follow, or has followed. -/
inductive Pending where
  | none
  /-- The next word is the value. -/
  | waiting (option : Valued)
  /-- The value is there, but not yet checked. -/
  | given (option : Valued) (value : String)
  deriving DecidableEq, Repr

/-- The level after its pending option. -/
def resolve (f : Found) : Pending → Except Refusal Found
  | .none => .ok f
  | .waiting option => .error (.noValue option)
  | .given option value => f.setValue option value

/-- The level after an option without a value. -/
def applySwitch (level : Level) (long : Bool) (f : Found) (option : Switch) :
    Except Refusal Found :=
  match option with
  | .verbose =>
    .ok { f with verbose := min (f.verbose + 1) 255, order := f.order.erase .verbose ++ [.verbose] }
  | .quiet =>
    if f.quiet then .error (.repeatedSwitch .quiet)
    else .ok { f with quiet := true, order := f.order ++ [.quiet] }
  | .help => .error (.help (level.help long))
  | .version => .error .version

/-- The option of a long name. -/
def longOption? (level : Level) (name : String) : Option (Switch ⊕ Valued) :=
  if name = "verbose" then some (.inl .verbose)
  else if name = "quiet" then some (.inl .quiet)
  else if name = "help" then some (.inl .help)
  else if name = "version" ∧ level = .program then some (.inl .version)
  else if name = "server" then some (.inr .server)
  else if name = "config" then some (.inr .config)
  else none

/-- The option of a letter. -/
def shortOption? (level : Level) (letter : Char) : Option Switch :=
  if letter = 'v' then some .verbose
  else if letter = 'q' then some .quiet
  else if letter = 'h' then some .help
  else if letter = 'V' ∧ level = .program then some .version
  else none

/-- The level after a word of letters behind one dash. -/
def readLetters (level : Level) (f : Found) (pending : Pending) :
    List Char → Except Refusal (Found × Pending)
  | [] => .ok (f, pending)
  | letter :: rest =>
    match shortOption? level letter with
    | none => .error (.unknownOption (String.ofList ['-', letter]))
    | some option =>
      match resolve f pending with
      | .error refusal => .error refusal
      | .ok f =>
        match applySwitch level false f option with
        | .error refusal => .error refusal
        | .ok f => readLetters level f .none rest

/-- The level after a long option, given without its dashes. -/
def readLong (level : Level) (f : Found) (pending : Pending) (word : List Char) :
    Except Refusal (Found × Pending) :=
  let name := String.ofList (word.takeWhile (· != '='))
  let attached := match word.dropWhile (· != '=') with
    | [] => none
    | _ :: value => some (String.ofList value)
  match longOption? level name, attached with
  | none, _ => .error (.unknownOption ("--" ++ name))
  | some (.inl option), some value => .error (.unneededValue option value)
  | some (.inl option), none =>
    match resolve f pending with
    | .error refusal => .error refusal
    | .ok f => (applySwitch level true f option).map fun f => (f, .none)
  | some (.inr option), some value =>
    match resolve f pending with
    | .error refusal => .error refusal
    | .ok f => (f.setValue option value).map fun f => (f, .none)
  | some (.inr option), none =>
    match resolve f pending with
    | .error refusal => .error refusal
    | .ok f => .ok (f, .waiting option)

/-- The kinds of words in front of `--`. -/
inductive Word where
  /-- The mark after which all words are values. -/
  | separator
  | long (text : List Char)
  | letters (text : List Char)
  | plain
  deriving DecidableEq, Repr

/-- The kind of a word. -/
def Word.of (text : String) : Word :=
  match text.toList with
  | ['-', '-'] => .separator
  | '-' :: '-' :: rest => .long rest
  | '-' :: c :: rest => .letters (c :: rest)
  | _ => .plain

/-- The level after a word that is neither an option nor a command. -/
def readValue (level : Level) (f : Found) (pending : Pending) (trailing : Bool) (word : String) :
    Except Refusal Found :=
  if f.values.length < level.values.length then
    (resolve f pending).map fun f => { f with values := f.values ++ [word] }
  else if level.hasCommands ∧
      ¬(trailing ∧ ((level.command? word).isSome ∨ word = Level.helpName)) then
    .error (.unknownCommand word)
  else .error (.unknownOption word)

/-- The text for a request for help about the commands that `words` name. -/
def helpFor (level : Level) : List String → Refusal
  | [] => .help (level.help true)
  | name :: rest =>
    match level.command? name with
    | some below => helpFor below rest
    | none =>
      if level.hasCommands ∧ name = Level.helpName then
        match rest with
        | [] => .help (helpOfHelp level)
        | other :: _ => .unknownCommand other
      else .unknownCommand name

/-- The two switches that exclude each other, in the order in which they were given. -/
def conflict? (f : Found) : Option Refusal :=
  match f.order with
  | [first, second] => some (.conflict first second)
  | _ => none

/-- Checks a level that was read to its end; `below` says that a command followed. -/
def finish (level : Level) (f : Found) (pending : Pending) (below : Bool) :
    Except Refusal Found :=
  match resolve f pending with
  | .error refusal => .error refusal
  | .ok f =>
    if level.hasCommands ∧ !below then
      .error (if f.isExplicit then .missingCommand level else .nothing level)
    else
      match conflict? f with
      | some refusal => .error refusal
      | none =>
        match level.values.drop f.values.length with
        | [] => .ok f
        | missing => .error (.missingValues (missing.map (·.1)))

/-- Reads the words of a level, of which `f` and `pending` were found before, and of the levels
below it; the result lists the levels from this one down. -/
def readLevel (level : Level) (f : Found) (pending : Pending) (trailing : Bool) :
    List String → Except Refusal (List (Level × Found))
  | [] => (finish level f pending false).map fun f => [(level, f)]
  | word :: rest =>
    let value (pending : Pending) :=
      match readValue level f pending trailing word with
      | .error refusal => .error refusal
      | .ok f => readLevel level f .none trailing rest
    if trailing then value pending
    else
      match pending, level.command? word with
      | .waiting option, _ =>
        match Word.of word with
        | .separator => readLevel level f pending true rest
        | .long text =>
          match readLong level f pending text with
          | .error refusal => .error refusal
          | .ok (f, pending) => readLevel level f pending false rest
        | .letters text =>
          match readLetters level f pending text with
          | .error refusal => .error refusal
          | .ok (f, pending) => readLevel level f pending false rest
        | .plain => readLevel level f (.given option word) false rest
      | pending, some below =>
        match readLevel below {} .none false rest with
        | .error refusal => .error refusal
        | .ok found => (finish level f pending true).map fun f => (level, f) :: found
      | pending, none =>
        if level.hasCommands ∧ word = Level.helpName then .error (helpFor level rest)
        else
          match Word.of word with
          | .separator => readLevel level f pending true rest
          | .long text =>
            match readLong level f pending text with
            | .error refusal => .error refusal
            | .ok (f, pending) => readLevel level f pending false rest
          | .letters text =>
            match readLetters level f pending text with
            | .error refusal => .error refusal
            | .ok (f, pending) => readLevel level f pending false rest
          | .plain => value pending

/-- The options of several levels, of which the deepest one counts. -/
def merge (levels : List (Level × Found)) : Found :=
  levels.foldl (fun all level =>
    let f := level.2
    { all with
      verbose := if f.verbose = 0 then all.verbose else f.verbose
      quiet := all.quiet || f.quiet
      server := f.server.or all.server
      config := f.config.or all.config }) {}

/-- Reads a command line. -/
def parse (words : List String) : Except Refusal Arguments :=
  match readLevel .program {} .none false words with
  | .error refusal => .error refusal
  | .ok levels =>
    let all := merge levels
    match levels.getLast?.bind fun (level, f) => level.toCommand? f.values with
    | some command => .ok ⟨all.verbose, all.quiet, all.server, all.config, command⟩
    | none => .error (.nothing .program)

end FormFetch.CommandLine
