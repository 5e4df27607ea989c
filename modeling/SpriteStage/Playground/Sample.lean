/-!
# Sample programs

The programs that come with a playground.  The first one is what a fresh playground holds.
-/

namespace SpriteStage

/-- A program text with a title to find it by. -/
structure Sample where
  title : String
  description : String
  source : String
  deriving DecidableEq, Repr

namespace Sample

/-- The program of a fresh playground. -/
def starter : String :=
  "await runtime.move(10)\n" ++
  "await runtime.turn(90)\n" ++
  "await runtime.say(\"Hello, MyBlock!\")\n"

/-- All samples, in the order in which they are listed. -/
def all : List Sample := [
  { title := "Star Greeting"
    description := "Moves forward, turns, and says hello. Matches the starter project."
    source := starter },
  { title := "Square Walk"
    description := "Draws a simple square path using a repeat loop."
    source :=
      "for i in range(4):\n" ++
      "    await runtime.move(12)\n" ++
      "    await runtime.turn(90)\n" ++
      "await runtime.say('I made a square!')\n" }]

/-- The sample with a title. -/
def find? (title : String) : Option Sample := all.find? (·.title = title)

/-- A sample that is found has the title that was looked for. -/
theorem title_of_find? {title : String} {s : Sample} (h : find? title = some s) :
    s.title = title := by
  simpa using List.find?_some h

end Sample

end SpriteStage
