/-!
# Styled text

Text with colours and weights for a terminal. A style is switched on before the text and everything is switched off
behind it. Where the text itself switches everything off, the style is switched on again.
-/

namespace ScriptTidy

inductive Color where
  | red
  | green
  | yellow
  | cyan
  deriving DecidableEq, Repr

/-- The way a text looks. -/
structure Style where
  bold : Bool
  dimmed : Bool
  color : Option Color
  deriving DecidableEq, Repr

namespace Style

def plain : Style := ⟨false, false, none⟩

def colored (c : Color) : Style := { plain with color := some c }

def boldColored (c : Color) : Style := { colored c with bold := true }

def strong : Style := { plain with bold := true }

def faint : Style := { plain with dimmed := true }

def colorCode : Color → String
  | .red => "31"
  | .green => "32"
  | .yellow => "33"
  | .cyan => "36"

/-- The numbers that a terminal knows a style by. -/
def codes (s : Style) : List String :=
  (if s.bold then ["1"] else []) ++ (if s.dimmed then ["2"] else []) ++ (s.color.map colorCode).toList

/-- What switches a style on. -/
def opening (s : Style) : String := "\x1b[" ++ ";".intercalate s.codes ++ "m"

/-- What switches everything off. -/
def closing : String := "\x1b[0m"

/-- A text in a style, or the bare text if there are no colours. -/
def paint (colors : Bool) (s : Style) (text : String) : String :=
  if colors && s != plain then s.opening ++ text.replace closing (closing ++ s.opening) ++ closing else text

end Style

end ScriptTidy
