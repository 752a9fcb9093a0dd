import Quarry.Number.Integer

/-! The words of a command line. A word that starts with a dash is an option, unless it looks like a
negative number or holds a space; behind a double dash every word is an operand. -/
namespace Quarry.Cli

/-- What follows the name of an option. -/
inductive OptionKind where
  | nothing
  | text
  | integer
  deriving DecidableEq, Repr

/-- Whether a text can be the value of an option. -/
def OptionKind.accepts : OptionKind → Text → Bool
  | .nothing, _ => false
  | .text, _ => true
  | .integer, value => (Integer.read? value).isSome

/-- The options of a command by their names. -/
abbrev OptionTable := List (Text × OptionKind)

def helpNames : List Text := ["-h".toList, "--help".toList]

/-- What a word is. -/
inductive Word where
  | operand (text : Text)
  | option (name : Text) (value : Option Text)
  | help
  | unknown
  /-- A beginning that several options share. -/
  | ambiguous
  /-- A value where help takes none. -/
  | invalid

/-- A dash and digits, or a dash and a decimal fraction, which a line feed may follow. -/
def looksNegative (word : Text) : Bool :=
  match word with
  | '-' :: digits =>
    let digits := if digits.getLast? = some '\n' then digits.dropLast else digits
    let behind := digits.dropWhile Text.isDigit
    match behind with
    | [] => !digits.isEmpty
    | '.' :: fraction => !fraction.isEmpty && fraction.all Text.isDigit
    | _ => false
  | _ => false

/-- The name and the value of a word, which stand on the two sides of its first equals sign. -/
def splitValue (word : Text) : Text × Option Text :=
  if word.contains '=' then
    (word.takeWhile (· != '='), some ((word.dropWhile (· != '=')).drop 1))
  else (word, none)

/-- The word for an option of a known name. -/
def Word.ofName (name : Text) (value : Option Text) : Word :=
  if helpNames.contains name then (if value.isSome then .invalid else .help)
  else .option name value

/-- What a word that starts with a dash is. A long name may be cut short as long as one option
alone starts with what is left. -/
def Word.ofDashed (options : OptionTable) (word : Text) : Word :=
  let names := helpNames ++ options.map (·.1)
  let (name, value) := splitValue word
  if names.contains word then .ofName word none
  else if word.length = 1 then .operand word
  else if names.contains name then .ofName name value
  else
    let isLong := "--".toList.isPrefixOf word
    let candidates := if isLong then names.filter name.isPrefixOf else []
    match candidates with
    | [found] => .ofName found value
    | _ :: _ :: _ => .ambiguous
    | [] =>
      if !isLong && "-h".toList.isPrefixOf word then .invalid
      else if looksNegative word || word.contains ' ' then .operand word
      else .unknown

def Word.ofText (options : OptionTable) (word : Text) : Word :=
  match word with
  | '-' :: _ => .ofDashed options word
  | _ => .operand word

/-- Why a command line is not carried out. -/
inductive Refusal where
  | usage
  /-- Help was asked for. -/
  | help
  deriving DecidableEq, Repr

/-- A command line read in part: its one operand, the values of its options, the last one first,
and whether there was a word too many. -/
structure Arguments where
  operand : Option Text
  values : List (Text × Text)
  flags : List Text
  excess : Bool

def doubleDash : Text := "--".toList

/-- Takes the words behind a double dash, of which the first may be the operand. -/
def Arguments.takeOperands (arguments : Arguments) (words : List Text) : Arguments :=
  match arguments.operand, words with
  | none, [word] => { arguments with operand := some word }
  | none, [] => arguments
  | none, word :: _ => { arguments with operand := some word, excess := true }
  | some _, _ => { arguments with excess := true }

def isAmbiguous (options : OptionTable) (word : Text) : Bool :=
  match Word.ofText options word with
  | .ambiguous => true
  | _ => false

/-- Whether a word can be the value of the option before it. -/
def isValueWord (options : OptionTable) (word : Text) : Bool :=
  if word = doubleDash then false
  else match Word.ofText options word with
    | .operand _ => true
    | _ => false

/-- Reads the words of a command that takes one operand. A double dash right behind the operand
belongs to it. -/
def readWords (options : OptionTable) (arguments : Arguments) :
    List Text → Except Refusal Arguments
  | [] => .ok arguments
  | word :: rest =>
    if word = doubleDash then .ok (arguments.takeOperands rest)
    -- A word too many is noted and reported last: help or a bad value behind it comes first.
    else match Word.ofText options word with
      | .invalid | .ambiguous => .error .usage
      | .help => .error .help
      | .unknown => readWords options { arguments with excess := true } rest
      | .operand text =>
        if arguments.operand.isSome then readWords options { arguments with excess := true } rest
        else if rest.head? = some doubleDash then
          .ok { arguments with
            operand := some text
            excess := arguments.excess || rest.length != 1 }
        else readWords options { arguments with operand := some text } rest
      | .option name (some value) =>
        if (options.lookup name).any fun kind => kind.accepts value then
          readWords options { arguments with values := (name, value) :: arguments.values } rest
        else .error .usage
      | .option name none =>
        if options.lookup name = some .nothing then
          readWords options { arguments with flags := name :: arguments.flags } rest
        else
          match rest with
          | [] => .error .usage
          | value :: others =>
            if isValueWord options value &&
                (options.lookup name).any fun kind => kind.accepts value then
              readWords options { arguments with values := (name, value) :: arguments.values }
                others
            else .error .usage

/-- The operand and the options of a command. A word that is ambiguous counts before all others. -/
def readArguments (options : OptionTable) (words : List Text) :
    Except Refusal (Text × Arguments) :=
  if (words.takeWhile (· != doubleDash)).any (isAmbiguous options) then .error .usage
  else do
    let arguments ← readWords options ⟨none, [], [], false⟩ words
    match arguments.operand with
    | some operand => if arguments.excess then .error .usage else .ok (operand, arguments)
    | none => .error .usage

end Quarry.Cli
