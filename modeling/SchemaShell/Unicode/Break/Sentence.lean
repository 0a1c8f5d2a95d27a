import SchemaShell.Unicode.Property.Emoji
import SchemaShell.Unicode.Property.Grapheme
import SchemaShell.Unicode.Property.Letter
import SchemaShell.Unicode.Property.Sign

/-!
# Breaks between sentences

What a character is where a text is cut into sentences.
-/

namespace SchemaShell.Unicode.SentenceBreak

open Property

def cr : Ranges := [(0xD, 0xD)]

def lf : Ranges := [(0xA, 0xA)]

def sep : Ranges := [(0x85, 0x85), (0x2028, 0x2029)]

def extend : Ranges := Ranges.unionAll [graphemeExtend, Category.ranges .mc, [(0x200D, 0x200D)]]

def format : Ranges :=
  (Category.ranges .cf).diff
    [(0x600, 0x605), (0x6DD, 0x6DD), (0x890, 0x891), (0x8E2, 0x8E2), (0x200C, 0x200D),
     (0x110BD, 0x110BD), (0x110CD, 0x110CD), (0xE0020, 0xE007F)]

def sp : Ranges := whiteSpace.diff [(0xA, 0xA), (0xD, 0xD), (0x85, 0x85), (0x2028, 0x2029)]

def lower : Ranges := lowercase.diff [(0x345, 0x345), (0x10D0, 0x10FA), (0x10FD, 0x10FF)]

def upper : Ranges :=
  (Ranges.unionAll [uppercase, Category.ranges .lt]).diff [(0x1C90, 0x1CBA), (0x1CBD, 0x1CBF)]

def oLetter : Ranges :=
  (Ranges.unionAll [alphabetic, [(0x5F3, 0x5F3)]]).diff (Ranges.unionAll [extend, lower, upper])

def numeric : Ranges :=
  Ranges.unionAll
    [Category.ranges .nd, [(0x600, 0x605), (0x66B, 0x66C), (0x6DD, 0x6DD), (0x890, 0x891),
    (0x8E2, 0x8E2), (0x19DA, 0x19DA), (0x110BD, 0x110BD), (0x110CD, 0x110CD)]]

def aTerm : Ranges := [(0x2E, 0x2E), (0x2024, 0x2024), (0xFE52, 0xFE52), (0xFF0E, 0xFF0E)]

def sContinue : Ranges :=
  [(0x2C, 0x2D), (0x3A, 0x3B), (0x37E, 0x37E), (0x55D, 0x55D), (0x60C, 0x60D), (0x7F8, 0x7F8),
    (0x1802, 0x1802), (0x1808, 0x1808), (0x2013, 0x2014), (0x3001, 0x3001), (0xFE10, 0xFE11),
    (0xFE13, 0xFE14), (0xFE31, 0xFE32), (0xFE50, 0xFE51), (0xFE54, 0xFE55), (0xFE58, 0xFE58),
    (0xFE63, 0xFE63), (0xFF0C, 0xFF0D), (0xFF1A, 0xFF1B), (0xFF64, 0xFF64)]

def sTerm : Ranges :=
  sentenceTerminal.diff [(0x2E, 0x2E), (0x2024, 0x2024), (0xFE52, 0xFE52), (0xFF0E, 0xFF0E)]

def close : Ranges :=
  (Ranges.unionAll
    [Category.rangesOf [.ps, .pe, .pi, .pf], quotationMark, [(0x275B, 0x2760), (0x2E00, 0x2E01),
    (0x2E06, 0x2E08), (0x2E0B, 0x2E0B), (0x1F676, 0x1F678)]]).diff
    [(0xFF02, 0xFF02), (0xFF07, 0xFF07)]

def all : List NamedRanges :=
  [⟨["at", "aterm"], aTerm⟩,
    ⟨["cl", "close"], close⟩,
    ⟨["cr"], cr⟩,
    ⟨["ex", "extend"], extend⟩,
    ⟨["fo", "format"], format⟩,
    ⟨["lf"], lf⟩,
    ⟨["lo", "lower"], lower⟩,
    ⟨["nu", "numeric"], numeric⟩,
    ⟨["le", "oletter"], oLetter⟩,
    ⟨["sc", "scontinue"], sContinue⟩,
    ⟨["se", "sep"], sep⟩,
    ⟨["sp"], sp⟩,
    ⟨["st", "sterm"], sTerm⟩,
    ⟨["up", "upper"], upper⟩]

end SchemaShell.Unicode.SentenceBreak
