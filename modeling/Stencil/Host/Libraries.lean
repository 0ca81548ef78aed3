import Stencil.Command.Library
import Stencil.Host.Arguments
import Stencil.Host.Console.Message
import Stencil.Host.Fields
import Stencil.Host.Responses
import Stencil.Host.Yaml.Read
import Stencil.Web.Library

/-!
# The libraries of the program

What the program is run with where the theory leaves a parameter: a reader of the part of
YAML without tags, anchors, aliases and directives, the checks of settings, the command
line, the console and the answers to requests.  No result rests on any of them.
-/

namespace Stencil.Host

/-- How the reader of YAML stops.  A fault of form is its own, and it gives no
reason. -/
def yamlStop : Yaml.ReadFault → Stop Text
  | .malformed => .own []
  | .noDigits => .other .noDigits
  | .tooManyDigits => .other .tooManyDigits
  | .dateNotReal => .other .dateNotReal
  | .placeTooLarge => .other .integerTooLarge
  | .noCharacter => .other .noCharacter
  | .codeTooLarge => .other .codeTooLarge

def settings : Settings.Library where
  yaml text := (Yaml.read text).mapError yamlStop
  config := Fields.config
  options := Fields.options

def command : Command.Library where
  settings := settings
  arguments := Arguments.parse
  areAccepted := Arguments.areAccepted
  line := Console.line
  cell := Console.cell
  echo text := Console.withoutColours text.length text

def web : Web.Library Response where
  content status type text := .content status (Response.typeName type) text
  json := Response.json
  located := .located
  query := Response.queryData

end Stencil.Host
