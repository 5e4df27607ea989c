import SpriteStage.Stage.Sprite

/-!
# What a stage is

A short text on the conventions that all programs rely on.
-/

namespace SpriteStage

/-- The version of the stage. -/
def version : String := "0.1.0"

/-- A setting as it is shown; all settings of a stage that is not configured have a text. -/
def shownSetting (v : Value) : String := v.logged.toOption.getD ""

/-- The conventions of a stage. -/
def aboutText (c : StageConfig) : String :=
  "\n".intercalate [
    s!"MyBlock Studio {version}",
    s!"Coordinate system: origin at stage center, stage {shownSetting c.width}" ++
      s!"x{shownSetting c.height}, positions clamped to the stage edges.",
    "Heading: degrees, 90 faces up, positive turns rotate right (clockwise).",
    s!"Units: one step moves {shownSetting c.stepScale} stage units; " ++
      s!"one program second waits {shownSetting c.waitScale} real seconds.",
    "Operations: move(steps), turn(degrees), say(message), wait(seconds), run in program order.",
    "Failures: a run either completes with a snapshot and log, or returns only an error."]

end SpriteStage
