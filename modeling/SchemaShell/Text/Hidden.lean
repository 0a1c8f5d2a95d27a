import SchemaShell.Unicode.Property.Grapheme
import SchemaShell.Unicode.Recent

/-!
# Hidden characters

The characters outside ASCII that do not show by themselves: controls, formats, separators other
than the space, private and unassigned code points, the characters that a display may leave out
(Default_Ignorable_Code_Point, which brings in the Hangul fillers), and the marks that attach to the
character before them (Grapheme_Extend). The two half-width sound marks of Katakana attach as well,
but they are letters and show. So do most of the characters that were assigned only recently.
-/

namespace SchemaShell.Text

open Unicode

/-- The characters that attach to the one before them without being letters. -/
def attaching : Ranges :=
  Property.graphemeExtend.diff (Category.ranges .lm)

/-- All hidden characters and those of ASCII that do not show. -/
def hiddenRanges : Ranges :=
  (Ranges.unionAll [Category.rangesOf [.zs, .zl, .zp, .cc, .cf, .co, .cn], attaching,
    Property.defaultIgnorableCodePoint]).diff Recent.visible

def isHidden (c : Char) : Bool :=
  0x80 ≤ c.toNat && hiddenRanges.has c.toNat

end SchemaShell.Text
