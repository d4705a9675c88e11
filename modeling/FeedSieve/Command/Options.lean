/-! The command line: a subcommand and its options. An option's value follows it as the next argument or
is attached to it. Whatever cannot be understood is a usage error. -/

namespace FeedSieve

/-- Where the rules come from: a file, and inline declarations. -/
structure RuleOptions where
  config : Option String := none
  inline : List String := []
deriving DecidableEq, Repr

inductive Command where
  | run (rules : RuleOptions) (input : Option String) (explain : Bool)
  | check (rules : RuleOptions)
  | list
deriving DecidableEq, Repr

namespace Command

inductive ValueOption where
  | config
  | filter
  | input
deriving DecidableEq, Repr

inductive Setting where
  | value (o : ValueOption) (text : String)
  | explain
deriving DecidableEq, Repr

def ofLetter? : Char → Option ValueOption
  | 'c' => some .config
  | 'f' => some .filter
  | 'i' => some .input
  | _ => none

def ofWord? (word : List Char) : Option ValueOption :=
  if word = "config".toList then some .config
  else if word = "filter".toList then some .filter
  else if word = "input".toList then some .input
  else none

/-- Sets an option; the path of a file must not be empty. -/
def set? (o : ValueOption) (text : String) : Option Setting :=
  if o ≠ .filter ∧ text = "" then none else some (.value o text)

inductive Argument where
  | complete (s : Setting)
  /-- The value is the next argument. -/
  | awaiting (o : ValueOption)

/-- Reads a word with its dashes taken off, and the value attached to it after an equals sign. -/
def longArgument? (cs : List Char) : Option Argument :=
  let word := cs.takeWhile (· ≠ '=')
  match cs.dropWhile (· ≠ '=') with
  | [] => if word = "explain".toList then some (.complete .explain) else (ofWord? word).map .awaiting
  | _ :: value => (ofWord? word).bind fun o => (set? o (String.ofList value)).map .complete

/-- Reads a letter with its dash taken off, and the value attached to it, perhaps after an equals sign. -/
def shortArgument? (letter : Char) (cs : List Char) : Option Argument :=
  (ofLetter? letter).bind fun o =>
    match cs with
    | [] => some (.awaiting o)
    | '=' :: value => (set? o (String.ofList value)).map .complete
    | value => (set? o (String.ofList value)).map .complete

def argument? (text : String) : Option Argument :=
  match text.toList with
  | '-' :: '-' :: cs => longArgument? cs
  | '-' :: letter :: cs => shortArgument? letter cs
  | _ => none

/-- Whether an argument can be a value: a dash by itself can, anything longer after a dash cannot. -/
def canBeValue (text : String) : Bool := !(text.startsWith "-") || text == "-"

/-- Reads the options of a subcommand. After two dashes there may be nothing. -/
def settings? : List String → Option (List Setting)
  | [] => some []
  | "--" :: rest => if rest.isEmpty then some [] else none
  | text :: rest =>
    match argument? text with
    | none => none
    | some (.complete s) => (settings? rest).map (s :: ·)
    | some (.awaiting o) =>
      match rest with
      | [] => none
      | value :: rest =>
        if canBeValue value then (set? o value).bind fun s => (settings? rest).map (s :: ·) else none

/-- The values given for an option, in their order. -/
def valuesOf (o : ValueOption) (ss : List Setting) : List String :=
  ss.filterMap fun
    | .value p text => if p = o then some text else none
    | .explain => none

def single? (o : ValueOption) (ss : List Setting) : Option (Option String) :=
  match valuesOf o ss with
  | [] => some none
  | [text] => some (some text)
  | _ => none

def rules? (ss : List Setting) : Option RuleOptions :=
  (single? .config ss).map fun config => ⟨config, valuesOf .filter ss⟩

/-- Reads the arguments of a command line; none for a usage error. -/
def parse? : List String → Option Command
  | "run" :: rest => do
    let ss ← settings? rest
    let rules ← rules? ss
    let input ← single? .input ss
    match ss.count .explain with
    | 0 => return .run rules input false
    | 1 => return .run rules input true
    | _ => none
  | "check" :: rest => do
    let ss ← settings? rest
    let rules ← rules? ss
    if valuesOf .input ss = [] ∧ .explain ∉ ss then return .check rules else none
  | "list" :: rest => do
    let ss ← settings? rest
    if ss.isEmpty then return .list else none
  | _ => none

end Command

end FeedSieve
