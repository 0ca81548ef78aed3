import Stencil.Data.Display
import Stencil.Settings.Library

/-!
# Checks of settings

The forms in which the value of a setting is taken here.  Truth values may be numbers or
words, counts may be truth values, numbers or texts, other settings are texts.  Settings
of which a value is not taken are reported together, and unknown names are passed over.
-/

namespace Stencil.Host.Fields

/-- The words for true and for false. -/
def words : List (Text × Bool) :=
  [("1".toList, true), ("t".toList, true), ("true".toList, true), ("y".toList, true),
   ("yes".toList, true), ("on".toList, true), ("0".toList, false), ("f".toList, false),
   ("false".toList, false), ("n".toList, false), ("no".toList, false), ("off".toList, false)]

/-- The truth value of zero and one. -/
def ofInt? (number : Int) : Option Bool :=
  if number = 0 then some false else if number = 1 then some true else none

def bool? : Value → Option Bool
  | .bool value => some value
  | .int value => ofInt? value
  | .float value => value.toInt?.bind ofInt?
  | .text value => words.lookup (Text.lowerAscii value)
  | _ => none

/-- A truth value that may be left open. -/
def openBool? : Value → Option (Option Bool)
  | .null => some none
  | value => (bool? value).map some

def text? : Value → Option Text
  | .text value => some value
  | _ => none

/-- The text without a fraction that consists of zeros only. -/
def withoutFraction (text : Text) : Text :=
  match Text.cut? ['.'] text with
  | some (whole, fraction) => if fraction.all (· = '0') then whole else text
  | none => text

/-- The text without the zeros it begins with and the underscores among
them. -/
def withoutZeros (text : Text) : Text :=
  match text with
  | '0' :: rest => rest.dropWhile fun char => char = '0' || char = '_'
  | _ => text

/-- ASCII digits with single underscores between them. -/
def digits? (text : Text) : Option Nat :=
  if text.all fun char => Text.isDigit char || char = '_' then
    match Text.groupedDigits false text with
    | ([], _) => none
    | (digits, rest) => if rest = [] then some (Text.ofDigits 10 digits) else none
  else none

/-- A positive integer in a text: perhaps a plus sign, digits, and perhaps a
fraction of zeros. -/
def countOfText? (text : Text) : Option Nat :=
  let body := match Text.withoutMargin text with
    | '+' :: rest => rest
    | body => body
  if text.length ≤ maxDigits then digits? (withoutFraction (withoutZeros body)) else none

/-- The first integral floating-point number that is too large for a count. -/
def maxFloat : Int := Nat.pow 2 63

def count? : Value → Option Int
  | .bool value => some value.toNat
  | .int value => some value
  | .float value => value.toInt?.filter (· < maxFloat)
  | .text value => (countOfText? value).map Int.ofNat
  | _ => none

/-- One of a few words. -/
def choice? (choices : List (Text × α)) (value : Value) : Option α :=
  (text? value).bind fun word => choices.lookup word

/-- Settings that were read, and those that were refused. -/
structure Checked (α : Type) where
  refusals : List Refusal
  value : α

namespace Checked

/-- A setting that is read from its entry, if it has one. -/
def field (declaration : Declaration β) (read : Value → Option β) (entries : Entries)
    (assign : β → α → α) (checked : Checked α) : Checked α :=
  if entries.hasKey declaration.name then
    let given := entries.lookup declaration.name
    match (read given).filter declaration.allows with
    | some value =>
        { checked with value := assign (declaration.prepare value) checked.value }
    | none =>
        let refusal := ⟨declaration.name, given.inner.toOption.getD []⟩
        { checked with refusals := checked.refusals ++ [refusal] }
  else checked

/-- What was read if nothing was refused. -/
def result (checked : Checked α) : Except (Stop (List Refusal)) α :=
  if checked.refusals = [] then .ok checked.value else .error (.own checked.refusals)

end Checked

open Config.Setting in
def config : Settings.Check Config := fun entries =>
  let checked : Checked Config := ⟨[], Config.default⟩
  checked
    |>.field viewsPath (fun value => (text? value).map Path.ofText) entries
      (fun value config => { config with viewsPath := value })
    |>.field defaultExtension text? entries
      (fun value config => { config with defaultExtension := value })
    |>.field cacheEnabled bool? entries
      (fun value config => { config with cacheEnabled := value })
    |>.field maxPasses count? entries
      (fun value config => { config with maxPasses := value.toNat })
    |>.field loopMaxPasses count? entries
      (fun value config => { config with loopMaxPasses := value.toNat })
    |>.field maxIncludeDepth count? entries
      (fun value config => { config with maxIncludeDepth := value.toNat })
    |>.field filterPolicy (choice? Config.policies) entries
      (fun value config => { config with filterPolicy := value })
    |>.field helperPolicy (choice? Config.policies) entries
      (fun value config => { config with helperPolicy := value })
    |>.field literalFallback bool? entries
      (fun value config => { config with literalFallback := value })
    |>.field logLevel (choice? Config.levels) entries
      (fun value config => { config with logLevel := value })
    |>.result

open Options.Setting in
def options : Settings.Check Options := fun entries =>
  let checked : Checked Options := ⟨[], Options.default⟩
  checked
    |>.field cacheEnabled openBool? entries
      (fun value options => { options with cacheEnabled := value })
    |>.field validateSyntax bool? entries
      (fun value options => { options with validateSyntax := value })
    |>.field showWarnings bool? entries
      (fun value options => { options with showWarnings := value })
    |>.field preserveUndefined bool? entries
      (fun value options => { options with preserveUndefined := value })
    |>.result

end Stencil.Host.Fields
