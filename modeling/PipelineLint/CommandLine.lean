import PipelineLint.Text.Plain

/-!
# The command line

Options and files may stand in any order. An option is written with its full name, as `--profile ci`
or `--profile=ci`, or with its letter, as `-p ci`, `-pci` or `-p=ci`; letters that take no value may
be written as one word, and the last of such a word may take a value. Behind `--` everything is a
file, and `-` alone is a file too. No option may be given twice.

What is met first from left to right decides, be it a fault or a request for help. Only a missing
file is noticed at the end.

## Main definitions

* `CommandLine.Arguments` — what a command line asks for
* `CommandLine.UsageError` — why a command line asks for nothing, with its wording
* `CommandLine.parse` — reads the words of a command line
-/

namespace PipelineLint.CommandLine

/-- What a command line asks for. -/
structure Arguments where
  /-- An alternative configuration file. -/
  config : Option String := none
  profile : String := "default"
  /-- Whether certificates are left unchecked. -/
  insecure : Bool := false
  /-- In seconds. -/
  timeout : UInt64 := 30
  debug : Bool := false
  /-- The files to lint. -/
  files : List String
  deriving DecidableEq, Repr

/-- Options that take no value. -/
inductive Flag where
  | insecure
  | debug
  | help
  | version
  deriving DecidableEq, Repr

/-- Options that take a value. -/
inductive Setting where
  | config
  | profile
  | timeout
  deriving DecidableEq, Repr

/-- An option. -/
inductive Switch where
  | flag (f : Flag)
  | setting (s : Setting)
  deriving DecidableEq, Repr

/-- The full name of a flag, with its dashes. -/
def Flag.name : Flag → String
  | .insecure => "--insecure"
  | .debug => "--debug"
  | .help => "--help"
  | .version => "--version"

/-- The full name of an option with a value, with its dashes and its value's name. -/
def Setting.name : Setting → String
  | .config => "--config <CONFIG>"
  | .profile => "--profile <PROFILE>"
  | .timeout => "--timeout <TIMEOUT>"

/-- Why a text is no timeout. -/
inductive NumberFault where
  | empty
  | badDigit
  | tooLarge
  deriving DecidableEq, Repr

/-- The wording of a fault in a number. -/
def NumberFault.text : NumberFault → String
  | .empty => "cannot parse integer from empty string"
  | .badDigit => "invalid digit found in string"
  | .tooLarge => "number too large to fit in target type"

/-- Why a command line asks for nothing. The first two are no faults. -/
inductive UsageError where
  | helpWanted
  | versionWanted
  | noFile
  | unknownArgument (shown : String)
  | missingValue (argument : String)
  | badTimeout (value : String) (fault : NumberFault)
  | repeatedArgument (argument : String)
  | unwantedValue (value flag : String)
  deriving DecidableEq, Repr

/-- The help text. -/
def helpText : String := "Jenkins declarative pipeline linter

Usage: jenkinsfilelint [OPTIONS] <JENKINSFILE>...

Arguments:
  <JENKINSFILE>...  Path to a Jenkinsfile to lint

Options:
  -c, --config <CONFIG>    Alternative configuration file
  -p, --profile <PROFILE>  Jenkins configuration profile to use for linting [default: default]
  -k, --insecure           Disable SSL certificate checks
  -t, --timeout <TIMEOUT>  Timeout in seconds for requests to the Jenkins instance [default: 30]
  -d, --debug              Print debugging information
  -h, --help               Print help
  -V, --version            Print version
"

/-- The version text. -/
def versionText : String := "jenkinsfilelint 0.1.0\n"

/-- The text of a usage error: the whole text where help or the version is wanted, and otherwise
what is wrong, without advice. What it quotes is shown as plain text. -/
def UsageError.message : UsageError → String
  | .helpWanted => helpText
  | .versionWanted => versionText
  | .noFile => "error: the following required arguments were not provided:"
  | .unknownArgument shown => s!"error: unexpected argument '{Text.plain shown}' found"
  | .missingValue argument =>
    s!"error: a value is required for '{argument}' but none was supplied"
  | .badTimeout value fault =>
    s!"error: invalid value '{Text.plain value}' for '{Setting.timeout.name}': {fault.text}"
  | .repeatedArgument argument =>
    s!"error: the argument '{argument}' cannot be used multiple times"
  | .unwantedValue value flag =>
    s!"error: unexpected value '{Text.plain value}' for '{flag}' found; no more were expected"

/-- The first line of a text, without a carriage return at its end. -/
def firstLine (text : String) : String :=
  let line := text.toList.takeWhile (· != '\n')
  String.ofList (if line.getLast? = some '\r' then line.dropLast else line)

/-- Whether the program did what it was asked to. -/
def UsageError.isRequest : UsageError → Bool
  | .helpWanted | .versionWanted => true
  | _ => false

/-- What is shown of a usage error. A fault is shown by one line, even if it quotes more. -/
def UsageError.shown (e : UsageError) : String :=
  if e.isRequest then e.message else firstLine e.message

/-! ## Names of options -/

/-- The option with a full name, given without its dashes. -/
def Switch.ofName? (name : List Char) : Option Switch :=
  if name = "config".toList then some (.setting .config)
  else if name = "profile".toList then some (.setting .profile)
  else if name = "timeout".toList then some (.setting .timeout)
  else if name = "insecure".toList then some (.flag .insecure)
  else if name = "debug".toList then some (.flag .debug)
  else if name = "help".toList then some (.flag .help)
  else if name = "version".toList then some (.flag .version)
  else none

/-- The option with a letter. -/
def Switch.ofLetter? : Char → Option Switch
  | 'c' => some (.setting .config)
  | 'p' => some (.setting .profile)
  | 't' => some (.setting .timeout)
  | 'k' => some (.flag .insecure)
  | 'd' => some (.flag .debug)
  | 'h' => some (.flag .help)
  | 'V' => some (.flag .version)
  | _ => none

/-! ## Reading -/

/-- Reads on in the number of a timeout, of which the digits so far denote `n`. -/
def readDigits (n : Nat) : List Char → Except NumberFault Nat
  | [] => .ok n
  | c :: s =>
    let more := 10 * n + (c.toNat - 0x30)
    if !c.isDigit then .error .badDigit
    else if UInt64.size ≤ more then .error .tooLarge
    else readDigits more s

/-- The timeout that a text denotes: ASCII digits, which a plus may precede. -/
def readTimeout : List Char → Except NumberFault UInt64
  | [] => .error .empty
  | '+' :: c :: s => (readDigits 0 (c :: s)).map .ofNat
  | s => (readDigits 0 s).map .ofNat

/-- What takes values. -/
inductive Target where
  | setting (s : Setting)
  | files
  deriving DecidableEq, Repr

/-- What was read of a command line. Options that were not given are `none`. -/
structure Draft where
  config : Option String := none
  profile : Option String := none
  timeout : Option UInt64 := none
  insecure : Bool := false
  debug : Bool := false
  files : List String := []
  /-- The values that were read last and are judged when the next argument is known. -/
  waiting : Option (Target × List (List Char)) := none
  deriving DecidableEq, Repr

namespace Draft

/-- Gives an option its one value. That the option is repeated is noticed before the value is
judged. -/
def setValue (d : Draft) (value : List Char) : Setting → Except UsageError Draft
  | .config =>
    if d.config.isSome then .error (.repeatedArgument Setting.config.name)
    else if value.isEmpty then .error (.missingValue Setting.config.name)
    else .ok { d with config := some (String.ofList value) }
  | .profile =>
    if d.profile.isSome then .error (.repeatedArgument Setting.profile.name)
    else .ok { d with profile := some (String.ofList value) }
  | .timeout =>
    if d.timeout.isSome then .error (.repeatedArgument Setting.timeout.name)
    else
      match readTimeout value with
      | .error fault => .error (.badTimeout (String.ofList value) fault)
      | .ok n => .ok { d with timeout := some n }

/-- Gives values to what takes them. -/
def assign (d : Draft) (values : List (List Char)) : Target → Except UsageError Draft
  | .setting s =>
    match values with
    | [] => .error (.missingValue s.name)
    | value :: _ => d.setValue value s
  | .files =>
    if values.any (·.isEmpty) then .error (.missingValue "<JENKINSFILE>...")
    else .ok { d with files := d.files ++ values.map String.ofList }

/-- Judges the values that are waiting. -/
def settle (d : Draft) : Except UsageError Draft :=
  match d.waiting with
  | none => .ok d
  | some (target, values) => { d with waiting := none }.assign values target

/-- Sets a flag. -/
def setFlag (d : Draft) : Flag → Except UsageError Draft
  | .help => .error .helpWanted
  | .version => .error .versionWanted
  | .insecure =>
    if d.insecure then .error (.repeatedArgument Flag.insecure.name)
    else .ok { d with insecure := true }
  | .debug =>
    if d.debug then .error (.repeatedArgument Flag.debug.name) else .ok { d with debug := true }

/-- Reads a flag. -/
def flag (d : Draft) (f : Flag) : Except UsageError Draft := d.settle >>= (·.setFlag f)

/-- Reads an option with its value in the same word, or lets it wait for its value. -/
def setting (d : Draft) (s : Setting) (value : Option (List Char)) : Except UsageError Draft := do
  let d ← d.settle
  match value with
  | some value => d.setValue value s
  | none => .ok { d with waiting := some (.setting s, []) }

/-- Reads a file. -/
def file (d : Draft) (name : List Char) : Except UsageError Draft :=
  match d.waiting with
  | some (.files, names) => .ok { d with waiting := some (.files, names ++ [name]) }
  | _ => do
    let d ← d.settle
    .ok { d with waiting := some (.files, [name]) }

/-- Reads a word that is no option: the value of the option before it, or a file. -/
def operand (d : Draft) (word : List Char) : Except UsageError Draft :=
  match d.waiting with
  | some (.setting s, []) => .ok { d with waiting := some (.setting s, [word]) }
  | _ => d.file word

/-- Reads the letters of a word behind its dash. -/
def letters (d : Draft) : List Char → Except UsageError Draft
  | [] => .ok d
  | c :: s =>
    match Switch.ofLetter? c with
    | none => .error (.unknownArgument (String.ofList ['-', c]))
    | some (.flag f) => do
      let d ← d.flag f
      d.letters s
    | some (.setting o) =>
      match s with
      | [] => d.setting o none
      | '=' :: value => d.setting o (some value)
      | value => d.setting o (some value)

/-- Reads a full name and, behind an equals sign, a value, without the dashes. -/
def named (d : Draft) (s : List Char) : Except UsageError Draft :=
  let name := s.takeWhile (· != '=')
  let value := if s.contains '=' then some ((s.dropWhile (· != '=')).drop 1) else none
  match Switch.ofName? name, value with
  | none, _ => .error (.unknownArgument (String.ofList ('-' :: '-' :: name)))
  | some (.setting o), _ => d.setting o value
  | some (.flag f), none => d.flag f
  | some (.flag f), some value => .error (.unwantedValue (String.ofList value) f.name)

/-- Reads words that are all files. -/
def allFiles (d : Draft) : List (List Char) → Except UsageError Draft
  | [] => .ok d
  | name :: more => do
    let d ← d.file name
    d.allFiles more

/-- Reads words. -/
def words (d : Draft) : List (List Char) → Except UsageError Draft
  | [] => .ok d
  | ['-', '-'] :: more => d.allFiles more
  | ('-' :: '-' :: s) :: more => do
    let d ← d.named s
    d.words more
  | ('-' :: c :: s) :: more => do
    let d ← d.letters (c :: s)
    d.words more
  | word :: more => do
    let d ← d.operand word
    d.words more

/-- What the command line asks for, when it was read to its end. -/
def finish (d : Draft) : Except UsageError Arguments := do
  let d ← d.settle
  if d.files.isEmpty then .error .noFile
  else .ok {
    config := d.config
    profile := d.profile.getD "default"
    insecure := d.insecure
    timeout := d.timeout.getD 30
    debug := d.debug
    files := d.files }

end Draft

/-- Reads the words of a command line, without the program's name. -/
def parse (words : List String) : Except UsageError Arguments :=
  Draft.words {} (words.map String.toList) >>= Draft.finish

end PipelineLint.CommandLine
