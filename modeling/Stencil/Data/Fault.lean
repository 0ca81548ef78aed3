import Stencil.Number.Reading
import Stencil.Text.Quoted
import Stencil.Text.Utf8

/-!
# Faults

What can go wrong while a template is rendered, a file is read or a setting is
checked, by cause.  Each cause has one wording.
-/

namespace Stencil

/-- The two kinds of functions that a template calls by name. -/
inductive Callable where
  | filter
  | helper
  deriving DecidableEq, Repr

/-- A setting that was refused, and the text of what was given for it. -/
structure Refusal where
  name : Text
  given : Text
  deriving DecidableEq, Repr

/-- What a configuration or data file can fail at. -/
inductive SettingsFault where
  | notAMapping
  | invalidFields (refusals : List Refusal)
  | invalidJson (path : Text)
  | invalidYaml (path reason : Text)
  | dataNotAMapping (path : Text)
  deriving DecidableEq, Repr

/-- What the file system can refuse. -/
inductive FileFault where
  | missing (path : Text)
  | isDirectory (path : Text)
  | notADirectory (path : Text)
  | alreadyThere (path : Text)
  | nameTooLong (path : Text)
  deriving DecidableEq, Repr

/-- What a function takes: the name it has in messages, the names of the
arguments it needs, and how many more it takes. -/
structure Signature where
  name : Text
  needed : List Text
  further : Nat
  deriving DecidableEq, Repr

/-- The cause of a failure. -/
inductive Fault where
  /-- A value that is no function was registered under a name. -/
  | notCallable (kind : Callable) (name : Text)
  | argumentCount (signature : Signature) (given : Nat)
  | unknownName (kind : Callable) (name : Text)
  /-- A failure that a registered function reports in its own words. -/
  | reported (message : Text)
  | keywordNotText
  | keyNotWritable
  | valueNotWritable
  | suffixNotText
  /-- A value of some other kind was given as a format. -/
  | formatNotText (kind : Text)
  | formatIsDate
  | integerTooLarge
  | infinityNotInteger
  | rangeTooLong
  | dateOutOfRange
  | dateNotReal
  | noDigits
  | tooManyDigits
  | noCharacter
  | codeTooLarge
  | nulInPath
  | nameNotUsable (name : Text)
  | patternNotUsable
  | viewNotFound (view : Text)
  | settings (fault : SettingsFault)
  | fieldsRejected (refusals : List Refusal)
  | encoding (fault : Utf8.Fault)
  | file (fault : FileFault)
  | markup (tag : Text)
  | nestingTooDeep
  deriving DecidableEq, Repr

namespace Callable

def word : Callable → Text
  | filter => "filter".toList
  | helper => "helper".toList

end Callable

namespace Refusal

/-- The most characters of what was given that are shown as they are. -/
def maxShown : Nat := 50

/-- The beginning and the end of a text that is too long to be shown. -/
def shortened (text : Text) : Text :=
  if text.length ≤ maxShown then text
  else text.take (maxShown / 2) ++ "...".toList ++ text.drop (text.length - (maxShown / 2 - 1))

def message (refusal : Refusal) : Text :=
  refusal.name ++ " [type=setting, input_value=".toList ++ shortened refusal.given ++ [']']

end Refusal

namespace SettingsFault

def message : SettingsFault → Text
  | notAMapping => "Engine configuration must be a mapping".toList
  | invalidFields refusals =>
      "Invalid engine configuration: ".toList
        ++ Text.join ", ".toList (refusals.map Refusal.message)
  | invalidJson path => "Invalid JSON in ".toList ++ path
  | invalidYaml path reason => "Invalid YAML in ".toList ++ path ++ ": ".toList ++ reason
  | dataNotAMapping path => "Render data in ".toList ++ path ++ " must be a mapping".toList

end SettingsFault

namespace FileFault

/-- The number and the words of a reason, and the path. -/
def reason (number : Nat) (words : String) (path : Text) : Text :=
  "[Errno ".toList ++ Text.ofNat number ++ "] ".toList ++ words.toList ++ ": ".toList
    ++ Text.quoted path

def message : FileFault → Text
  | missing path => reason 2 "No such file or directory" path
  | alreadyThere path => reason 17 "File exists" path
  | notADirectory path => reason 20 "Not a directory" path
  | isDirectory path => reason 21 "Is a directory" path
  | nameTooLong path => reason 36 "File name too long" path

end FileFault

namespace Signature

/-- A number of positional arguments. -/
def positional (number : Nat) : Text :=
  Text.ofNat number ++ " positional argument".toList ++ if number = 1 then [] else ['s']

/-- The names of arguments that are not given. -/
def names (missing : List Text) : Text :=
  Text.join " and ".toList (missing.map fun name => '\'' :: name ++ ['\''])

/-- The wording for a number of arguments that a function does not take. -/
def message (signature : Signature) (given : Nat) : Text :=
  let needed := signature.needed.length
  let missing := signature.needed.drop given
  signature.name ++ "() ".toList ++
    if given < needed then
      "missing ".toList ++ Text.ofNat missing.length ++ " required positional argument".toList
        ++ (if missing.length = 1 then [] else ['s']) ++ ": ".toList ++ names missing
    else
      "takes ".toList
        ++ (if signature.further = 0 then positional needed
          else "from ".toList ++ Text.ofNat needed ++ " to ".toList
            ++ Text.ofNat (needed + signature.further) ++ " positional arguments".toList)
        ++ " but ".toList ++ Text.ofNat given
        ++ (if given = 1 then " was given" else " were given").toList

end Signature

namespace Utf8.Fault

def message (fault : Utf8.Fault) : Text :=
  let number := Text.ofNat
  let hex := Nat.toDigits 16 fault.byte
  let subject :=
    if fault.width = 1 then
      "byte 0x".toList ++ List.replicate (2 - hex.length) '0' ++ hex
        ++ " in position ".toList ++ number fault.position
    else "bytes in position ".toList ++ number fault.position ++ ['-']
      ++ number (fault.position + fault.width - 1)
  let reason := match fault.flaw with
    | .startByte => "invalid start byte"
    | .continuationByte => "invalid continuation byte"
    | .cutOff => "unexpected end of data"
  "'utf-8' codec can't decode ".toList ++ subject ++ ": ".toList ++ reason.toList

end Utf8.Fault

namespace Fault

def message : Fault → Text
  | notCallable kind name => kind.word ++ " '".toList ++ name ++ "' must be callable".toList
  | argumentCount signature given => signature.message given
  | unknownName kind name => "Unknown ".toList ++ kind.word ++ ": ".toList ++ name
  | reported message => message
  | keywordNotText => "the names of settings must be texts".toList
  | keyNotWritable => "keys must be texts, numbers, truth values or null".toList
  | valueNotWritable => "the value has no JSON form".toList
  | suffixNotText => "a suffix must be a text".toList
  | formatNotText kind => '\'' :: kind ++ "' object has no attribute 'replace'".toList
  | formatIsDate => "a date is no date format".toList
  | integerTooLarge => "int too large to convert to float".toList
  | infinityNotInteger => "cannot convert float infinity to integer".toList
  | rangeTooLong => "the range has too many items to be counted".toList
  | dateOutOfRange => "date value out of range".toList
  | dateNotReal => "there is no such date".toList
  | noDigits => "an integer has no digits".toList
  | tooManyDigits =>
      "an integer has more than ".toList ++ Text.ofNat maxDigits ++ " digits".toList
  | noCharacter => "a code is the one of no character".toList
  | codeTooLarge => "a code has more than 31 bits".toList
  | nulInPath => "embedded null byte".toList
  | nameNotUsable name => "Invalid name ".toList ++ Text.quoted name
  | patternNotUsable => "Invalid pattern: '**' can only be an entire path component".toList
  | viewNotFound view => "View not found: ".toList ++ view
  | settings fault => fault.message
  | fieldsRejected refusals =>
      "Invalid settings: ".toList ++ Text.join ", ".toList (refusals.map Refusal.message)
  | encoding fault => fault.message
  | file fault => fault.message
  | markup tag => "closing tag '".toList ++ tag ++ "' doesn't match any open tag".toList
  | nestingTooDeep => "loops are nested too deeply".toList

end Fault

end Stencil
