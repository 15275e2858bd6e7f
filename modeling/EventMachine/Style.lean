/-!
# Styled text

On a terminal with colors a styled text stands between an escape sequence that turns its style on
and one that turns all styles off.  Where the text itself turns styles off, its own style is turned
on again.  Without colors the text stands alone.
-/

namespace EventMachine

inductive Style
  | bold
  | boldCyan
  | boldGreen
  | cyan
  | dimmed
  | green
  | red
  | yellow
  deriving DecidableEq, Repr

namespace Style

def codes : Style → String
  | bold => "1"
  | boldCyan => "1;36"
  | boldGreen => "1;32"
  | cyan => "36"
  | dimmed => "2"
  | green => "32"
  | red => "31"
  | yellow => "33"

def reset : List Char := ['\x1b', '[', '0', 'm']

def opening (s : Style) : List Char := '\x1b' :: '[' :: (s.codes.toList ++ ['m'])

/-- Puts `s` after every reset in a text. -/
def reopen (s : List Char) : List Char → List Char
  | '\x1b' :: '[' :: '0' :: 'm' :: cs => reset ++ s ++ reopen s cs
  | c :: cs => c :: reopen s cs
  | [] => []

end Style

def paint (colors : Bool) (style : Style) (s : String) : String :=
  if colors then
    String.ofList (style.opening ++ Style.reopen style.opening s.toList ++ Style.reset)
  else s

@[simp] theorem paint_false (style : Style) (s : String) : paint false style s = s := rfl

end EventMachine
