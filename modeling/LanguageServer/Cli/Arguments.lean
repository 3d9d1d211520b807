/-
# Command line words

How the words of a command line are taken: options by their full names or an
unambiguous beginning, a value in the next word or after an equals sign, all
words after a `--` as plain ones, and whatever nobody takes is left over. A `--`
next to the word that is taken as the file disappears with it.
-/

import LanguageServer.Text.Numeral
import LanguageServer.Text.Quoted
import LanguageServer.Text.Search

namespace LanguageServer.Cli

/-- What an option does: it asks for help, is either given or not, or has a
value. -/
inductive FlagKind
  | help
  | switch
  | value
  deriving DecidableEq, Repr

/-- An option with all its names. -/
structure Flag where
  names : List String
  kind : FlagKind
  deriving DecidableEq, Repr

/-- What a command accepts. -/
structure Grammar where
  program : String
  /-- What follows the program's name in its usage. -/
  synopsis : String
  /-- The help text after the usage. -/
  details : String
  flags : List Flag
  takesFile : Bool

/-- The option that asks for help. -/
def helpFlag : Flag := ⟨["-h", "--help"], .help⟩

/-- The option that names a log file. -/
def logFlag : Flag := ⟨["--log"], .value⟩

/-- The option that asks for a check only. -/
def checkFlag : Flag := ⟨["--check"], .switch⟩

/-- The usage of a command. -/
def Grammar.usage (grammar : Grammar) : String :=
  "usage: " ++ grammar.program ++ " " ++ grammar.synopsis ++ "\n"

/-- The help text of a command. -/
def Grammar.help (grammar : Grammar) : String :=
  grammar.usage ++ "\n" ++ grammar.details

/-- The names of all options with their options, in order. -/
def Grammar.names (grammar : Grammar) : List (List Char × Flag) :=
  grammar.flags.flatMap fun flag => flag.names.map fun name => (name.toList, flag)

/-- A text that stands in the same word as its option. After a short option, one
with a single dash, it may stand with or without an equals sign. -/
structure Attached where
  short : Bool
  text : List Char
  deriving DecidableEq, Repr

/-- A word of a command line. -/
inductive Item
  | plain (word : String)
  | flag (flag : Flag) (attached : Option Attached)
  | unknown (word : String)
  | separator
  deriving Repr

/-- Why a command line is refused. -/
inductive Complaint
  | ambiguous (word : String) (names : List String)
  | ignoredValue (flag : Flag) (value : String)
  | missingValue (flag : Flag)
  | missingFile
  | invalidChoice (word : String) (choices : List String)
  | unrecognized (words : List String)
  deriving Repr

/-- How an option is called in a message. -/
def Flag.title (flag : Flag) : String :=
  String.intercalate "/" flag.names

/-- The wording of a complaint. -/
def Complaint.message : Complaint → String
  | .ambiguous word names =>
      "ambiguous option: " ++ word ++ " could match " ++ String.intercalate ", " names
  | .ignoredValue flag value =>
      "argument " ++ flag.title ++ ": ignored explicit argument " ++ Text.quote value
  | .missingValue flag => "argument " ++ flag.title ++ ": expected one argument"
  | .missingFile => "the following arguments are required: file"
  | .invalidChoice word choices =>
      "argument <command>: invalid choice: " ++ Text.quote word ++ " (choose from "
        ++ String.intercalate ", " (choices.map Text.quote) ++ ")"
  | .unrecognized words => "unrecognized arguments: " ++ String.intercalate " " words

/-- Whether a word is a negative number, which is no option. A line feed at its
end does not matter. -/
def isNegativeNumber (word : List Char) : Bool :=
  let body := if word.getLast? = some '\n' then word.dropLast else word
  match body with
  | '-' :: rest =>
      let whole := rest.takeWhile fun c : Char => Text.isDecimal c
      match rest.dropWhile fun c : Char => Text.isDecimal c with
      | [] => !whole.isEmpty
      | '.' :: fraction => !fraction.isEmpty && fraction.all fun c => Text.isDecimal c
      | _ => false
  | _ => false

/-- Whether a name starts with one dash only. -/
def isShort (name : List Char) : Bool :=
  name.take 2 ≠ ['-', '-']

/-- The parts of a word before and after its first equals sign. -/
def splitEquals (word : List Char) : List Char × Option Attached :=
  match Text.cut? ['='] word with
  | some (name, text) => (name, some ⟨isShort name, text⟩)
  | none => (word, none)

/-- The options that a word may mean when it is not the full name of one, by
their names. With two dashes it may be the beginning of a name; with one, the name
of a short option with more letters attached. -/
def candidates (names : List (List Char × Flag)) (word : List Char) :
    List (List Char × Flag × Option Attached) :=
  if !isShort word then
    let (stem, attached) := splitEquals word
    (names.filter fun (name, _) => stem.isPrefixOf name).map fun (name, flag) =>
      (name, flag, attached)
  else
    names.filterMap fun (name, flag) =>
      if name = word.take 2 then some (name, flag, some ⟨true, word.drop 2⟩)
      else if word.isPrefixOf name then some (name, flag, none)
      else none

/-- What a word is that starts with a dash and is no option's full name. -/
def guess (names : List (List Char × Flag)) (word : List Char) : Except Complaint Item :=
  match candidates names word with
  | [(_, flag, attached)] => .ok (.flag flag attached)
  | [] =>
      let text := String.ofList word
      if isNegativeNumber word || word.contains ' ' then .ok (.plain text) else .ok (.unknown text)
  | many => .error (.ambiguous (String.ofList word) (many.map fun entry => String.ofList entry.1))

/-- What a word is that stands before any `--`. -/
def classify (names : List (List Char × Flag)) (word : String) : Except Complaint Item :=
  let text := word.toList
  if text.head? ≠ some '-' then .ok (.plain word)
  else
    match names.lookup text with
    | some flag => .ok (.flag flag none)
    | none =>
        if text.length = 1 then .ok (.plain word)
        else
          let (name, attached) := splitEquals text
          match attached, names.lookup name with
          | some attached, some flag => .ok (.flag flag (some attached))
          | _, _ => guess names text

/-- What all words are. -/
def Grammar.items (grammar : Grammar) : List String → Except Complaint (List Item)
  | [] => .ok []
  | word :: rest =>
      if word = "--" then .ok (.separator :: rest.map .plain)
      else do
        let item ← classify grammar.names word
        let later ← grammar.items rest
        return item :: later

/-- Whether a letter after a dash names an option. -/
def Flag.hasLetter (flag : Flag) (c : Char) : Bool :=
  flag.names.contains (String.ofList ['-', c])

/-- The part of an attached text that an option without a value cannot use: the
letters after a short option may call it again, and a long one can use none. -/
def Flag.unused (flag : Flag) (attached : Attached) : List Char :=
  if attached.short then attached.text.dropWhile flag.hasLetter else attached.text

/-- Whether an option that takes no value may have a text attached: it may if the
text has letters and all of them can be used. -/
def checkAttached (flag : Flag) (attached : Attached) : Except Complaint Unit :=
  let unused := flag.unused attached
  if unused.isEmpty && !attached.text.isEmpty then .ok ()
  else .error (.ignoredValue flag (String.ofList unused))

/-- What has been taken from a command line so far. -/
structure Taken where
  file : Option String := none
  log : Option String := none
  check : Bool := false
  leftOver : List String := []
  deriving Repr

/-- How taking the words ends early: with help, or with a complaint. -/
inductive Interruption
  | help
  | refused (complaint : Complaint)
  deriving Repr

/-- Takes a word that nothing else wants. -/
def Taken.leave (taken : Taken) (word : String) : Taken :=
  { taken with leftOver := taken.leftOver ++ [word] }

/-- Takes a value for the log file. A separator is no value, and takes back one
that was given before. -/
def Taken.value (taken : Taken) (text : String) : Taken :=
  { taken with log := if text = "--" then none else some text }

/-- Takes an option that has no value, with what is attached to it. -/
def Taken.flag (taken : Taken) (flag : Flag) (attached : Option Attached) :
    Except Interruption Taken := do
  if let some attached := attached then
    (checkAttached flag attached).mapError .refused
  match flag.kind with
  | .help => throw .help
  | _ => return { taken with check := true }

/-- Whether the next plain word is the file. -/
def Grammar.wantsFile (grammar : Grammar) (taken : Taken) : Bool :=
  grammar.takesFile && taken.file.isNone

/-- Takes the words of a command in order. -/
def Grammar.take (grammar : Grammar) (taken : Taken) : List Item → Except Interruption Taken
  | [] => .ok taken
  | .plain word :: .separator :: rest =>
      if grammar.wantsFile taken then grammar.take { taken with file := some word } rest
      else grammar.take ((taken.leave word).leave "--") rest
  | .plain word :: rest =>
      if grammar.wantsFile taken then grammar.take { taken with file := some word } rest
      else grammar.take (taken.leave word) rest
  | .separator :: .plain word :: rest =>
      if grammar.wantsFile taken then grammar.take { taken with file := some word } rest
      else grammar.take ((taken.leave "--").leave word) rest
  | .separator :: rest => grammar.take (taken.leave "--") rest
  | .unknown word :: rest => grammar.take (taken.leave word) rest
  | .flag flag attached :: rest =>
      if flag.kind = .value then
        match attached, rest with
        | some attached, rest => grammar.take (taken.value (String.ofList attached.text)) rest
        | none, .plain word :: rest => grammar.take (taken.value word) rest
        | none, _ => .error (.refused (.missingValue flag))
      else
        match taken.flag flag attached with
        | .error interruption => .error interruption
        | .ok taken => grammar.take taken rest

/-- Takes the words of a command; a file that is needed has to be among them. -/
def Grammar.parse (grammar : Grammar) (words : List String) : Except Interruption Taken := do
  let items ← (grammar.items words).mapError .refused
  let taken ← grammar.take {} items
  if grammar.wantsFile taken then throw (.refused .missingFile)
  return taken

/-- The words that come before the name of a sub-command and are not known, and
the words from that name on. A `--` in front of further words is taken for the
name. -/
def Grammar.splitCommand (grammar : Grammar) (leftOver : List String) :
    List String → Except Interruption (List String × List String)
  | [] => .ok (leftOver, [])
  | word :: rest =>
      if word = "--" then
        if rest.isEmpty then .ok (leftOver ++ [word], []) else .ok (leftOver, word :: rest)
      else
        match classify grammar.names word with
        | .error complaint => .error (.refused complaint)
        | .ok (.flag flag attached) =>
            match Taken.flag {} flag attached with
            | .error interruption => .error interruption
            | .ok _ => grammar.splitCommand leftOver rest
        | .ok (.unknown _) => grammar.splitCommand (leftOver ++ [word]) rest
        | .ok _ => .ok (leftOver, word :: rest)

end LanguageServer.Cli
