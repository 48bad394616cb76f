import AccessPolicy.Principal

/-! The options of the command and their spellings. -/

namespace AccessPolicy.CommandLine

/-- The options of the command. -/
inductive Flag where
  | policy
  | action
  | resource
  | principal (kind : PrincipalKind)
  | context
  | contextFile
  | config
  | logLevel
  | version
  | help
  deriving Repr, DecidableEq

namespace Flag

/-- All options, in the order in which they are listed. -/
def all : List Flag :=
  -- There is one option for every kind of principal.
  [.policy, .action, .resource] ++ PrincipalKind.all.map .principal
    ++ [.context, .contextFile, .config, .logLevel, .version, .help]

/-- The long spelling of an option. -/
def long : Flag → String
  -- Long spellings start with two dashes.
  | .policy => "--policy"
  | .action => "--action"
  | .resource => "--resource"
  | .principal .aws => "--principal-aws"
  | .principal .canonicalUser => "--principal-canonical-user"
  | .principal .federated => "--principal-federated"
  | .principal .service => "--principal-service"
  | .context => "--context"
  | .contextFile => "--context-file"
  | .config => "--config"
  | .logLevel => "--log-level"
  | .version => "--version"
  | .help => "--help"

/-- The letter of an option that has a short spelling. -/
def letter? : Flag → Option Char
  -- One dash stands before the letter.
  | .policy => some 'p'
  | .action => some 'a'
  | .resource => some 'r'
  | .context => some 'c'
  | .version => some 'v'
  | .help => some 'h'
  | .principal _ | .contextFile | .config | .logLevel => none

/-- Whether an option has a value. -/
def takesValue : Flag → Bool
  -- The two others only ask for a text.
  | .version | .help => false
  | _ => true

/-- The option with a long spelling. -/
def ofLong? (spelling : String) : Option Flag :=
  -- Spellings may not be shortened.
  all.find? fun flag => flag.long == spelling

/-- The option with a letter. -/
def ofLetter? (letter : Char) : Option Flag :=
  -- Letter case counts.
  all.find? fun flag => flag.letter? == some letter

/-- All spellings of an option for messages. -/
def spellings (flag : Flag) : String :=
  -- The long spelling comes first.
  let short := flag.letter?.map fun letter => String.ofList ['-', letter]
  Text.joined " / " ((flag.long :: short.toList).map fun spelling => "'" ++ spelling ++ "'")

end Flag

end AccessPolicy.CommandLine
