/-
The words of the command line. The program keeps no log, so the options that
govern one ask for nothing; each may be given once before the command and once
after it, `-v` as often as one likes.
-/
import MetaGraph.Command.Help

namespace MetaGraph.Command

/-- What the words of a command line ask for. -/
inductive Invocation where
  /-- Runs the job of a file, under another identifier if one is given. -/
  | run (jobFile : String) (identifier : Option String)
  | models
  | version
  | help (topic : Topic)
  /-- The words are no command. -/
  | misuse
deriving DecidableEq, Repr

/-- The options that were given and may be given only once. -/
abbrev Given := List String

/-- The options after one that may be given once. -/
def once (name : String) (given : Given) : Except Invocation Given :=
  if given.contains name then .error .misuse else .ok (name :: given)

/-- The options after one that is named by a letter. -/
def letterOption (topic : Topic) (given : Given) (letter : Char) : Except Invocation Given :=
  match letter with
  | 'v' => .ok given
  | 'q' => once "quiet" given
  | 'h' => .error (.help topic)
  | 'V' => .error (if topic = .program then .version else .misuse)
  | _ => .error .misuse

/-- The options after one that is named in full. -/
def namedOption (topic : Topic) (given : Given) (name : String) : Except Invocation Given :=
  match name with
  | "verbose" => .ok given
  | "quiet" => once "quiet" given
  | "log-file" => once "log-file" given
  | "help" => .error (.help topic)
  | "version" => .error (if topic = .program then .version else .misuse)
  | _ => .error .misuse

/-- The options after a word, if it spells any: a name after two dashes, or letters after
one. -/
def optionWord? (topic : Topic) (given : Given) (word : String) : Option (Except Invocation Given) :=
  match word.toList with
  | '-' :: '-' :: name => some (namedOption topic given (String.ofList name))
  | '-' :: letter :: letters => some ((letter :: letters).foldlM (letterOption topic) given)
  | _ => none

/-- Whether a word is read as options. -/
def isOption (word : String) : Bool :=
  match word.toList with
  | '-' :: _ :: _ => true
  | _ => false

/-! ## The words of `run` -/

/-- What the words of `run` have told. -/
structure RunWords where
  given : Given := []
  jobFile : Option String := none
  identifier : Option String := none

namespace RunWords

/-- What is asked for once all words are read. -/
def done (r : RunWords) : Invocation :=
  match r.jobFile with
  | some file => .run file r.identifier
  | none => .misuse

/-- Takes the name of the job's file, which is not empty. -/
def takeFile (r : RunWords) (word : String) : Option RunWords :=
  if r.jobFile.isSome || word = "" then none else some { r with jobFile := some word }

/-- Takes the identifier of the job, which is given at most once. -/
def takeIdentifier (r : RunWords) (word : String) : Option RunWords :=
  if r.identifier.isSome then none else some { r with identifier := some word }

/-- The words after two dashes, of which none is an option. -/
def readPlain (r : RunWords) : List String → Invocation
  | [] => r.done
  | word :: words =>
    match r.takeFile word with
    | some r => readPlain r words
    | none => .misuse

/-- What an option with its value in one word gives. -/
def attached? (word : String) : Option String :=
  let mark := "--identifier=".toList
  if mark.isPrefixOf word.toList then some (String.ofList (word.toList.drop mark.length)) else none

/-- Reads the words of `run`: options, the identifier and the file, in any order. -/
def read (r : RunWords) : List String → Invocation
  | [] => r.done
  | "--" :: words => r.readPlain words
  | ["--identifier"] => .misuse
  | "--identifier" :: word :: words =>
    match isOption word, r.takeIdentifier word with
    | false, some r => read r words
    | _, _ => .misuse
  | word :: words =>
    match attached? word with
    | some value =>
      match r.takeIdentifier value with
      | some r => read r words
      | none => .misuse
    | none =>
      match optionWord? .run r.given word with
      | some (.ok given) => read { r with given } words
      | some (.error i) => i
      | none =>
        match r.takeFile word with
        | some r => read r words
        | none => .misuse

end RunWords

/-! ## All words -/

/-- The words of `models`. -/
def readModels (given : Given) : List String → Invocation
  | [] | ["--"] => .models
  | word :: words =>
    match optionWord? .models given word with
    | some (.ok given) => readModels given words
    | some (.error i) => i
    | none => .misuse

/-- The words of `help`. -/
def readHelp : List String → Invocation
  | [] => .help .program
  | ["run"] => .help .run
  | ["models"] => .help .models
  | ["help"] => .help .help
  | _ => .misuse

/-- The words before the command, and those of the command. -/
def readFrom (given : Given) : List String → Invocation
  | [] | "--" :: _ => .misuse
  | "run" :: words => RunWords.read {} words
  | "models" :: words => readModels [] words
  | "help" :: words => readHelp words
  | word :: words =>
    match optionWord? .program given word with
    | some (.ok given) => readFrom given words
    | some (.error i) => i
    | none => .misuse

/-- What the words of a command line ask for. -/
def Invocation.ofWords (words : List String) : Invocation := readFrom [] words

end MetaGraph.Command
