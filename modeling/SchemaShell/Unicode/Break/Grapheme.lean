import SchemaShell.Unicode.Property.Emoji
import SchemaShell.Unicode.Property.Grapheme

/-!
# Breaks between graphemes

What a character is where a text is cut into graphemes.
-/

namespace SchemaShell.Unicode.GraphemeBreak

open Property

def cr : Ranges := [(0xD, 0xD)]

def lf : Ranges := [(0xA, 0xA)]

def control : Ranges :=
  (Ranges.unionAll
    [Category.rangesOf [.cc, .cf, .zl, .zp], [(0x2065, 0x2065), (0xFFF0, 0xFFF8),
    (0xE0000, 0xE0000), (0xE0002, 0xE001F), (0xE0080, 0xE00FF), (0xE01F0, 0xE0FFF)]]).diff
    [(0xA, 0xA), (0xD, 0xD), (0x600, 0x605), (0x6DD, 0x6DD), (0x70F, 0x70F), (0x890, 0x891),
     (0x8E2, 0x8E2), (0x200C, 0x200D), (0x110BD, 0x110BD), (0x110CD, 0x110CD), (0xE0020, 0xE007F)]

def extend : Ranges := Ranges.unionAll [graphemeExtend, emojiModifier]

def zwj : Ranges := [(0x200D, 0x200D)]

def prepend : Ranges :=
  Ranges.unionAll
    [prependedConcatenationMark, [(0xD4E, 0xD4E), (0x111C2, 0x111C3), (0x113D1, 0x113D1),
    (0x1193F, 0x1193F), (0x11941, 0x11941), (0x11A3A, 0x11A3A), (0x11A84, 0x11A89),
    (0x11D46, 0x11D46), (0x11F02, 0x11F02)]]

def spacingMark : Ranges :=
  (Ranges.unionAll [Category.ranges .mc, [(0xE33, 0xE33), (0xEB3, 0xEB3)]]).diff
    [(0x9BE, 0x9BE), (0x9D7, 0x9D7), (0xB3E, 0xB3E), (0xB57, 0xB57), (0xBBE, 0xBBE),
     (0xBD7, 0xBD7), (0xCC0, 0xCC0), (0xCC2, 0xCC2), (0xCC7, 0xCC8), (0xCCA, 0xCCB),
     (0xCD5, 0xCD6), (0xD3E, 0xD3E), (0xD57, 0xD57), (0xDCF, 0xDCF), (0xDDF, 0xDDF),
     (0x102B, 0x102C), (0x1038, 0x1038), (0x1062, 0x1064), (0x1067, 0x106D), (0x1083, 0x1083),
     (0x1087, 0x108C), (0x108F, 0x108F), (0x109A, 0x109C), (0x1715, 0x1715), (0x1734, 0x1734),
     (0x1A61, 0x1A61), (0x1A63, 0x1A64), (0x1B35, 0x1B35), (0x1B3B, 0x1B3B), (0x1B3D, 0x1B3D),
     (0x1B43, 0x1B44), (0x1BAA, 0x1BAA), (0x1BF2, 0x1BF3), (0x302E, 0x302F), (0xA953, 0xA953),
     (0xA9C0, 0xA9C0), (0xAA7B, 0xAA7B), (0xAA7D, 0xAA7D), (0x111C0, 0x111C0), (0x11235, 0x11235),
     (0x1133E, 0x1133E), (0x1134D, 0x1134D), (0x11357, 0x11357), (0x113B8, 0x113B8),
     (0x113C2, 0x113C2), (0x113C5, 0x113C5), (0x113C7, 0x113C9), (0x113CF, 0x113CF),
     (0x114B0, 0x114B0), (0x114BD, 0x114BD), (0x115AF, 0x115AF), (0x116B6, 0x116B6),
     (0x11720, 0x11721), (0x11930, 0x11930), (0x1193D, 0x1193D), (0x11F41, 0x11F41),
     (0x16FF0, 0x16FF1), (0x1D165, 0x1D166), (0x1D16D, 0x1D172)]

def leadingConsonant : Ranges := [(0x1100, 0x115F), (0xA960, 0xA97C)]

def vowel : Ranges := [(0x1160, 0x11A7), (0xD7B0, 0xD7C6), (0x16D63, 0x16D63), (0x16D67, 0x16D6A)]

def trailingConsonant : Ranges := [(0x11A8, 0x11FF), (0xD7CB, 0xD7FB)]

/-- The syllables that end with a vowel: one in 28, with the others in between. -/
def openSyllable : Ranges :=
  (List.range 399).map fun i => (0xAC00 + 28 * i, 0xAC00 + 28 * i)

def closedSyllable : Ranges :=
  (List.range 399).map fun i => (0xAC01 + 28 * i, 0xAC1B + 28 * i)

def all : List NamedRanges :=
  [⟨["cn", "control"], control⟩,
    ⟨["cr"], cr⟩,
    ⟨["ex", "extend"], extend⟩,
    ⟨["l"], leadingConsonant⟩,
    ⟨["lf"], lf⟩,
    ⟨["lv"], openSyllable⟩,
    ⟨["lvt"], closedSyllable⟩,
    ⟨["pp", "prepend"], prepend⟩,
    ⟨["regionalindicator", "ri"], regionalIndicator⟩,
    ⟨["sm", "spacingmark"], spacingMark⟩,
    ⟨["t"], trailingConsonant⟩,
    ⟨["v"], vowel⟩,
    ⟨["zwj"], zwj⟩]

end SchemaShell.Unicode.GraphemeBreak
