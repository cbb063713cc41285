import ClassGraph.Render.Format
import ClassGraph.Word

/-!
# Arguments

A word of the command line is an option by its long name, some options by their letters, or the value
of the option in front of it. Words are read from left to right, and the first one that is wrong, or
that asks for a text, ends the reading. No word stands for itself.
-/

set_option autoImplicit false

namespace ClassGraph

/-- What a command line asks for. -/
structure Arguments where
  inputs : List String
  folders : List String
  workspace : Option String
  declarations : List String
  output : Option String
  format : Option OutputFormat
  className : Option String
  threshold : Option Int
  noCoupling : Bool
  config : Option String
  jobs : Option Nat
  verbose : Bool
  serve : Option Nat
deriving DecidableEq, Repr

namespace Arguments

/-- An empty command line. -/
def empty : Arguments :=
  ⟨[], [], none, [], none, none, none, none, false, none, none, false, none⟩

instance : EmptyCollection Arguments := ⟨empty⟩

/-- Is there anything to analyze? -/
def hasInput (a : Arguments) : Bool :=
  !a.inputs.isEmpty || !a.folders.isEmpty || a.workspace.isSome || !a.declarations.isEmpty

/-- Why a command line is not carried out. -/
inductive Stop where
  /-- It is wrong. -/
  | usage
  /-- It asks for help, the short one or the long one. -/
  | help (long : Bool)
  /-- It asks for the version. -/
  | version
deriving DecidableEq, Repr

/-! ## Options -/

/-- An option. -/
inductive Key where
  | input
  | folder
  | workspace
  | declarations
  | output
  | format
  | className
  | threshold
  | noCoupling
  | config
  | jobs
  | verbose
  | serve
  | help
  | version
deriving DecidableEq, Repr

namespace Key

/-- All options, in the order in which they are explained. -/
def all : List Key :=
  [.input, .folder, .workspace, .declarations, .output, .format, .className, .threshold,
   .noCoupling, .config, .jobs, .verbose, .serve, .help, .version]

/-- The long name of an option. -/
def name : Key → String
  | .input => "input"
  | .folder => "folder"
  | .workspace => "workspace"
  | .declarations => "declarations"
  | .output => "output"
  | .format => "format"
  | .className => "class"
  | .threshold => "threshold"
  | .noCoupling => "no-coupling"
  | .config => "config"
  | .jobs => "jobs"
  | .verbose => "verbose"
  | .serve => "serve"
  | .help => "help"
  | .version => "version"

/-- The letter of an option, if it has one. -/
def letter? : Key → Option Char
  | .input => some 'i'
  | .folder => some 'd'
  | .output => some 'o'
  | .format => some 'f'
  | .threshold => some 't'
  | .config => some 'c'
  | .jobs => some 'j'
  | .verbose => some 'v'
  | .help => some 'h'
  | .version => some 'V'
  | .workspace | .declarations | .className | .noCoupling | .serve => none

/-- Does the option have a value? -/
def takesValue : Key → Bool
  | .noCoupling | .verbose | .help | .version => false
  | _ => true

/-- The option with a long name. -/
def ofName? (s : String) : Option Key := all.find? fun k => k.name = s

/-- The option with a letter. -/
def ofLetter? (c : Char) : Option Key := all.find? fun k => k.letter? = some c

end Key

/-! ## Values -/

/-- A number out of at least one digit. -/
def digits? (cs : List Char) : Option Nat :=
  if cs.isEmpty then none
  else
    cs.foldlM (fun n c => if c.isDigit then some (n * 10 + (c.toNat - '0'.toNat)) else none) 0

/-- A natural number below a bound, perhaps with a plus sign. -/
def natBelow? (bound : Nat) (s : String) : Option Nat := do
  let n ←
    match s.toList with
    | '+' :: rest => digits? rest
    | cs => digits? cs
  if n < bound then some n else none

/-- A 64-bit integer, perhaps with a sign. -/
def int? (s : String) : Option Int :=
  match s.toList with
  | '-' :: rest => do
    let n ← digits? rest
    if n ≤ Word.signedBound then some (-(n : Int)) else none
  | _ => (natBelow? Word.signedBound s).map fun n => (n : Int)

/-- A path, which is not empty. -/
def path? (s : String) : Option String := if s.isEmpty then none else some s

/-- Gives a value to something that has none yet. -/
def once {α : Type} (current value : Option α) : Option (Option α) :=
  match current, value with
  | none, some v => some (some v)
  | _, _ => none

/-- Gives a value to an option. A value that does not fit is refused, and so is a second one where
there can be only one. -/
def set? (a : Arguments) (key : Key) (value : String) : Option Arguments :=
  match key with
  | .input => do return { a with inputs := a.inputs ++ [← path? value] }
  | .folder => do return { a with folders := a.folders ++ [← path? value] }
  | .workspace => do return { a with workspace := ← once a.workspace value }
  | .declarations => do return { a with declarations := a.declarations ++ [← path? value] }
  | .output => do return { a with output := ← once a.output value }
  | .format => do return { a with format := ← once a.format (OutputFormat.ofName? value) }
  | .className => do return { a with className := ← once a.className value }
  | .threshold => do return { a with threshold := ← once a.threshold (int? value) }
  | .config => do return { a with config := ← once a.config (path? value) }
  | .jobs => do return { a with jobs := ← once a.jobs (natBelow? Word.bound value) }
  | .serve => do return { a with serve := ← once a.serve (natBelow? 65536 value) }
  | .noCoupling | .verbose | .help | .version => none

/-- Gives a value to an option, or stops. -/
def set (a : Arguments) (key : Key) (value : String) : Except Stop Arguments :=
  match a.set? key value with
  | some a => .ok a
  | none => .error .usage

/-- Raises an option without a value, which can be done once. -/
def raise (a : Arguments) (long : Bool) (key : Key) : Except Stop Arguments :=
  match key with
  | .noCoupling => if a.noCoupling then .error .usage else .ok { a with noCoupling := true }
  | .verbose => if a.verbose then .error .usage else .ok { a with verbose := true }
  | .help => .error (.help long)
  | .version => .error .version
  | _ => .error .usage

/-! ## Words -/

/-- Reads the letters of a word. What follows the letter of an option with a value is its value,
perhaps after an equals sign; if nothing follows, the option waits for the next word. -/
def letters (a : Arguments) : List Char → Except Stop (Arguments × Option Key)
  | [] => .ok (a, none)
  | c :: rest =>
    match Key.ofLetter? c with
    | none => .error .usage
    | some key =>
      if key.takesValue then
        match rest with
        | [] => .ok (a, some key)
        | '=' :: value => (a.set key (String.ofList value)).map (·, none)
        | value => (a.set key (String.ofList value)).map (·, none)
      else do letters (← a.raise false key) rest

/-- Reads a long name, perhaps with a value after an equals sign. -/
def longName (a : Arguments) (cs : List Char) : Except Stop (Arguments × Option Key) :=
  let value? :=
    match cs.dropWhile (· ≠ '=') with
    | [] => none
    | _ :: value => some (String.ofList value)
  match Key.ofName? (String.ofList (cs.takeWhile (· ≠ '='))), value? with
  | none, _ => .error .usage
  | some key, some value => (a.set key value).map (·, none)
  | some key, none =>
    if key.takesValue then .ok (a, some key) else (a.raise true key).map (·, none)

/-- Reads a word that is no value. -/
def word (a : Arguments) (w : String) : Except Stop (Arguments × Option Key) :=
  match w.toList with
  | '-' :: '-' :: cs => a.longName cs
  | '-' :: c :: cs => a.letters (c :: cs)
  | _ => .error .usage

/-- Can the word be the value of the option in front of it? It must not look like an option, except
that a threshold may be negative. -/
def isValue (key : Key) (w : String) : Bool :=
  match w.toList with
  | ['-'] => true
  | '-' :: cs => key = .threshold && cs.all Char.isDigit
  | _ => true

/-- Reads words; an option may wait for its value. Nothing may follow two hyphens. -/
def read (a : Arguments) : Option Key → List String → Except Stop Arguments
  | none, [] => .ok a
  | some _, [] => .error .usage
  | none, w :: rest =>
    if w = "--" then if rest.isEmpty then .ok a else .error .usage
    else do
      let (a, waiting) ← a.word w
      read a waiting rest
  | some key, w :: rest =>
    if isValue key w then do read (← a.set key w) none rest else .error .usage

/-- The arguments in some words. -/
def parse (words : List String) : Except Stop Arguments := read ∅ none words

end Arguments

end ClassGraph
