import Stencil.Calendar.Moment

/-!
# Formatting moments

A format is a text in which the first occurrence of each of six tokens stands
for a field of the moment, written with leading zeros.
-/

namespace Stencil.Moment

/-- The tokens of a format and the fields they stand for. -/
def tokens (moment : Moment) : List (Text × Text) :=
  [(['Y', 'Y', 'Y', 'Y'], Text.padded 4 moment.date.year),
   (['M', 'M'], Text.padded 2 moment.date.month),
   (['D', 'D'], Text.padded 2 moment.date.day),
   (['H', 'H'], Text.padded 2 moment.clock.hour),
   (['m', 'm'], Text.padded 2 moment.clock.minute),
   (['s', 's'], Text.padded 2 moment.clock.second)]

/-- The format with its tokens replaced, one after the other. -/
def format (moment : Moment) (format : Text) : Text :=
  moment.tokens.foldl (fun text (token, field) => Text.replaceFirst token field text) format

def defaultFormat : Text :=
  "YYYY-MM-DD HH:mm:ss".toList

end Stencil.Moment
