import IssueBoard.Board.Basic
import IssueBoard.Data.Display
import IssueBoard.Number.Arithmetic

/-!
# What all renderings share

The glyphs that stand for colors, the text of a figure, and the measures of a graph.
-/

namespace IssueBoard.Render

/-- The named colors and their glyphs. -/
def glyphs : List (String × String) :=
  [("red", "🔴"), ("yellow", "💛"), ("green", "✅"), ("blue", "🔷"), ("black", "⬛️")]

/-- The glyph that stands for a color. -/
def glyph (color : String) : Except Failure String :=
  match glyphs.lookup color with
  | some found => .ok found
  | none => .error (.render (.unknownColor color))

/-- A text with the glyph of its color before it. -/
def withGlyph (text : String) : Option String → Except Failure String
  | none => .ok text
  | some color => do return (← glyph color) ++ " " ++ text

/-- What something links to as text. -/
def linkText (link : Link) : Except Failure String := (link.toData.toText).mapError .fault

/-- A figure as a page shows it. -/
def figureText (value : Figure) : Except Failure String := (value.toData.display).mapError .fault

/-- A figure that is shown as the length of a bar. -/
structure Bar where
  caption : Caption
  value : Figure
  color : Option String

/-- The bar of an element of a graph, which has to be a number widget whose value is no text. -/
def barOf : Widget → Except Failure Bar
  | .number _ (.text _) _ => .error (.render .graphElement)
  | .number caption value color => .ok { caption, value, color }
  | _ => .error (.render .graphElement)

/-- The number that a bar stands for. -/
def Bar.number (bar : Bar) : Except Failure Number :=
  match bar.value with
  | .number n => .ok n
  | .flag b => .ok (.integer (if b then 1 else 0))
  | .text _ | .other _ => .error (.fault .figureType)

/-- A bar with the number that it stands for. The number has to be one that can be drawn. -/
def Bar.measured (bar : Bar) : Except Failure (Bar × Number) := do
  let number ← bar.number
  let _ ← number.toReal.mapError .fault
  return (bar, number)

/-- The first of the largest among some figures and zero. -/
def largest (values : List (Figure × Number)) : Figure × Number :=
  match values ++ [(.number (.integer 0), .integer 0)] with
  | [] => (.number (.integer 0), .integer 0)
  | first :: rest => rest.foldl (fun best next => if best.2.below next.2 then next else best) first

/-- Whether a number is above zero. -/
def isPositive (n : Number) : Bool := (Number.integer 0).below n

end IssueBoard.Render
