import TunnelRelay.Text.Blank
/-!
# The interface of the default route

The routing program prints one route a line, a list of words in which the device's name follows
the word `dev`.
-/

namespace TunnelRelay.Host

/-- The word after the first `dev` of a line. -/
def deviceOfWords : List (List Char) → Option (List Char)
  | [] => none
  | w :: ws => if w = ['d', 'e', 'v'] then ws.head? else deviceOfWords ws

/-- The device of the first line that names one. -/
def defaultInterface? (routes : List Char) : Option (List Char) :=
  (Text.lines routes).findSome? fun line => deviceOfWords (Text.words line)

end TunnelRelay.Host
