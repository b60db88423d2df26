import SecretScan.Text.Basic

/-!
# Styled text

Colours of terminal text. A style is switched on before a text and off behind it; where the text
itself switches its own style off, the outer one is switched on again.
-/

namespace SecretScan.Console

/-- The colour of a text, and whether it is bold. -/
structure Style where
  colour : Nat
  bold : Bool := false
  deriving DecidableEq, Repr

namespace Style

def red : Style := ⟨31, false⟩
def green : Style := ⟨32, false⟩
def yellow : Style := ⟨33, false⟩
def brightBlack : Style := ⟨90, false⟩
def brightRed : Style := ⟨91, false⟩
def brightGreen : Style := ⟨92, false⟩
def brightYellow : Style := ⟨93, false⟩
def brightCyan : Style := ⟨96, false⟩
def brightWhite : Style := ⟨97, false⟩

/-- The same colour in bold. -/
def inBold (s : Style) : Style := { s with bold := true }

end Style

/-- The character that begins a control sequence. -/
def escapeSign : Char := Char.ofNat 0x1B

/-- The sequence that switches every style off. -/
def switchOff : List Char := [escapeSign, '[', '0', 'm']

/-- The sequence that switches a style on. -/
def Style.switchOn (s : Style) : List Char :=
  escapeSign :: '[' :: ((if s.bold then ['1', ';'] else []) ++ (toString s.colour).toList ++ ['m'])

/-- A text with `sequence` behind everything in it that switches styles off. -/
def restore (sequence : List Char) (text : List Char) : List Char :=
  loop text.length text []
where
  loop : (bound : Nat) → List Char → List Char → List Char
    | _, [], done => done.reverse
    | 0, text, done => done.reverse ++ text
    | bound + 1, c :: rest, done =>
      match Text.dropPrefix? switchOff (c :: rest) with
      | some after => loop bound after (sequence.reverse ++ switchOff.reverse ++ done)
      | none => loop bound rest (c :: done)

/-- Whether output is coloured. -/
abbrev Colours := Bool

/-- A text in a style, filled up with blanks to a width. -/
def paintPadded (colours : Colours) (s : Style) (width : Nat) (text : String) : String :=
  let fill (t : List Char) : List Char := t ++ List.replicate (width - t.length) ' '
  if colours then String.ofList (s.switchOn ++ fill (restore s.switchOn text.toList) ++ switchOff)
  else String.ofList (fill text.toList)

/-- A text in a style. -/
def paint (colours : Colours) (s : Style) (text : String) : String := paintPadded colours s 0 text

end SecretScan.Console
