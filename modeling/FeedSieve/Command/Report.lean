import FeedSieve.Command.Options
import FeedSieve.Feed.Run
import FeedSieve.Sieve.Draft

/-! What commands do. The config file is loaded before inline declarations are read, all of them before
any is compiled, and the input is opened last, so a command fails with the first of these that fails
and then writes nothing. -/

namespace FeedSieve

inductive Failure where
  | config (path : String) (cause : RuleError)
  | inline (text : String) (cause : RuleError)
  | compile (cause : RuleError)
  | input (path : String) (cause : Unreadable)

namespace Failure

/-- What an error goes back to, if that is not said by the error itself. -/
def rootOf (words : Json.ReadError → String) : RuleError → List String
  | .unreadable c => [c.message]
  | .notConfig e => [words e]
  | _ => []

/-- The messages of an error from the outermost on. -/
def errorChain (words : Json.ReadError → String) (e : RuleError) : List String :=
  e.message words :: rootOf words e

def chain (words : Json.ReadError → String) : Failure → List String
  | .config path e => ("Failed to load filter config " ++ path) :: errorChain words e
  | .inline text e => ("Invalid --filter '" ++ text ++ "'") :: errorChain words e
  | .compile e => "Failed to compile filters" :: errorChain words e
  | .input path c => ["Failed to open " ++ path, c.message]

/-- Numbers messages from zero, each on a line of its own. -/
def numbered (messages : List String) : String :=
  String.join (messages.zipIdx.map fun (m, i) => "\n    " ++ i.repr ++ ": " ++ m)

def text (words : Json.ReadError → String) (f : Failure) : String :=
  match f.chain words with
  | [] => "Error"
  | [m] => "Error: " ++ m
  | [m, cause] => "Error: " ++ m ++ "\n\nCaused by:\n    " ++ cause
  | m :: causes => "Error: " ++ m ++ "\n\nCaused by:" ++ numbered causes

end Failure

structure Report where
  output : String := ""
  /-- What is told beside the output. -/
  notices : List String := []
  tally : Option Feed.Tally := none
  failure : Option Failure := none

def Report.exitCode (r : Report) : UInt8 := if r.failure.isSome then 1 else 0

def usageExitCode : UInt8 := 2

/-- What is outside: files by their paths, and the standard input. -/
structure Surroundings where
  file? : String → Option ByteArray
  standardInput : ByteArray

namespace Command

def inlineDeclarations : List String → Except Failure (List Declaration)
  | [] => .ok []
  | text :: texts => do
    let d ← (Declaration.ofInline text).mapError (.inline text)
    let ds ← inlineDeclarations texts
    return d :: ds

/-- The config that options ask for: the one of the file, followed by inline declarations. -/
def loadConfig (w : Surroundings) (o : RuleOptions) : Except Failure Config := do
  let c ← match o.config with
    | some path => (Config.ofFile (w.file? path)).mapError (.config path)
    | none => .ok {}
  let ds ← inlineDeclarations o.inline
  return ⟨c.declarations ++ ds⟩

def loadSieve (w : Surroundings) (o : RuleOptions) : Except Failure Sieve := do
  let c ← loadConfig w o
  c.compile.mapError .compile

def loadInput (w : Surroundings) : Option String → Except Failure ByteArray
  | none => .ok w.standardInput
  | some path =>
    match w.file? path with
    | some bytes => .ok bytes
    | none => .error (.input path .missing)

/-- What is told once the rules are compiled. -/
def compiledNotice (s : Sieve) : String := "Compiled " ++ s.size.repr ++ " filter predicates"

def listing (heading : String) (lines : List String) : String :=
  String.join ((heading :: lines).map (· ++ "\n"))

def ruleListing (s : Sieve) : String :=
  if s.isEmpty then "No filters declared: every record passes\n"
  else listing "Filters (all must pass):"
    (s.names.zipIdx.map fun (name, i) => (i + 1).repr ++ ". " ++ name)

/-- Does what a command says once the rules are compiled. -/
def runWith (w : Surroundings) (s : Sieve) (input : Option String) (explain : Bool) : Report :=
  let notice := compiledNotice s
  match loadInput w input with
  | .error f => { notices := [notice], failure := some f }
  | .ok bytes =>
    let p := Feed.run s bytes.data.toList
    { output := p.output
      notices := notice :: if explain then p.rejections.toList.map Feed.rejectionText else []
      tally := some p.tally }

def paths : Command → List String
  | .list => []
  | .check rules => rules.config.toList
  | .run rules input _ => rules.config.toList ++ input.toList

def readsStandardInput : Command → Bool
  | .run _ none _ => true
  | _ => false

def execute (w : Surroundings) : Command → Report
  | .list => { output := listing "Supported declarations:" (declarationNames.map ("• " ++ ·)) }
  | .check rules =>
    match loadSieve w rules with
    | .error f => { failure := some f }
    | .ok s => { output := ruleListing s, notices := [compiledNotice s] }
  | .run rules input explain =>
    match loadSieve w rules with
    | .error f => { failure := some f }
    | .ok s => runWith w s input explain

end Command

end FeedSieve
