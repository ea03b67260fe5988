import RmsGate.Go.Values

/-!
# Go's `unicode.ToLower`

`unicode.ToLower` maps a rune through the simple case mappings of the Unicode tables,
`CaseRanges`: a range either adds one delta to every rune in it or, in an upper-lower sequence,
pairs each rune at an even offset with the one after it.  The tables below hold the ranges with
a lowercase mapping, from the Unicode Character Database, split by script.
-/

namespace RmsGate.Go

def upperLower : Int := 0x110000

/-- A range of `CaseRanges` with its lowercase delta. -/
structure CaseRange where
  lo : Nat
  hi : Nat
  lowerDelta : Int

/-- The ranges of Latin, below U+0370. -/
def latinRanges : List CaseRange :=
  [⟨0x0041, 0x005a, 32⟩, ⟨0x00c0, 0x00d6, 32⟩, ⟨0x00d8, 0x00de, 32⟩, ⟨0x0100, 0x012f, upperLower⟩,
    ⟨0x0130, 0x0130, (-199)⟩, ⟨0x0132, 0x0137, upperLower⟩, ⟨0x0139, 0x0148, upperLower⟩,
    ⟨0x014a, 0x0177, upperLower⟩, ⟨0x0178, 0x0178, (-121)⟩, ⟨0x0179, 0x017e, upperLower⟩,
    ⟨0x0181, 0x0181, 210⟩, ⟨0x0182, 0x0185, upperLower⟩, ⟨0x0186, 0x0186, 206⟩, ⟨0x0187, 0x0187, 1⟩,
    ⟨0x0189, 0x018a, 205⟩, ⟨0x018b, 0x018b, 1⟩, ⟨0x018e, 0x018e, 79⟩, ⟨0x018f, 0x018f, 202⟩,
    ⟨0x0190, 0x0190, 203⟩, ⟨0x0191, 0x0191, 1⟩, ⟨0x0193, 0x0193, 205⟩, ⟨0x0194, 0x0194, 207⟩,
    ⟨0x0196, 0x0196, 211⟩, ⟨0x0197, 0x0197, 209⟩, ⟨0x0198, 0x0198, 1⟩, ⟨0x019c, 0x019c, 211⟩,
    ⟨0x019d, 0x019d, 213⟩, ⟨0x019f, 0x019f, 214⟩, ⟨0x01a0, 0x01a5, upperLower⟩,
    ⟨0x01a6, 0x01a6, 218⟩, ⟨0x01a7, 0x01a7, 1⟩, ⟨0x01a9, 0x01a9, 218⟩, ⟨0x01ac, 0x01ac, 1⟩,
    ⟨0x01ae, 0x01ae, 218⟩, ⟨0x01af, 0x01af, 1⟩, ⟨0x01b1, 0x01b2, 217⟩, ⟨0x01b3, 0x01b6, upperLower⟩,
    ⟨0x01b7, 0x01b7, 219⟩, ⟨0x01b8, 0x01b8, 1⟩, ⟨0x01bc, 0x01bc, 1⟩, ⟨0x01c4, 0x01c4, 2⟩,
    ⟨0x01c5, 0x01c5, 1⟩, ⟨0x01c7, 0x01c7, 2⟩, ⟨0x01c8, 0x01c8, 1⟩, ⟨0x01ca, 0x01ca, 2⟩,
    ⟨0x01cb, 0x01dc, upperLower⟩, ⟨0x01de, 0x01ef, upperLower⟩, ⟨0x01f1, 0x01f1, 2⟩,
    ⟨0x01f2, 0x01f5, upperLower⟩, ⟨0x01f6, 0x01f6, (-97)⟩, ⟨0x01f7, 0x01f7, (-56)⟩,
    ⟨0x01f8, 0x021f, upperLower⟩, ⟨0x0220, 0x0220, (-130)⟩, ⟨0x0222, 0x0233, upperLower⟩,
    ⟨0x023a, 0x023a, 10795⟩, ⟨0x023b, 0x023b, 1⟩, ⟨0x023d, 0x023d, (-163)⟩, ⟨0x023e, 0x023e, 10792⟩,
    ⟨0x0241, 0x0241, 1⟩, ⟨0x0243, 0x0243, (-195)⟩, ⟨0x0244, 0x0244, 69⟩, ⟨0x0245, 0x0245, 71⟩,
    ⟨0x0246, 0x024f, upperLower⟩]

/-- The ranges of Greek, Cyrillic, Armenian, Georgian and Cherokee, below U+1E00. -/
def greekToGeorgianRanges : List CaseRange :=
  [⟨0x0370, 0x0373, upperLower⟩, ⟨0x0376, 0x0376, 1⟩, ⟨0x037f, 0x037f, 116⟩, ⟨0x0386, 0x0386, 38⟩,
    ⟨0x0388, 0x038a, 37⟩, ⟨0x038c, 0x038c, 64⟩, ⟨0x038e, 0x038f, 63⟩, ⟨0x0391, 0x03a1, 32⟩,
    ⟨0x03a3, 0x03ab, 32⟩, ⟨0x03cf, 0x03cf, 8⟩, ⟨0x03d8, 0x03ef, upperLower⟩,
    ⟨0x03f4, 0x03f4, (-60)⟩, ⟨0x03f7, 0x03f7, 1⟩, ⟨0x03f9, 0x03f9, (-7)⟩, ⟨0x03fa, 0x03fa, 1⟩,
    ⟨0x03fd, 0x03ff, (-130)⟩, ⟨0x0400, 0x040f, 80⟩, ⟨0x0410, 0x042f, 32⟩,
    ⟨0x0460, 0x0481, upperLower⟩, ⟨0x048a, 0x04bf, upperLower⟩, ⟨0x04c0, 0x04c0, 15⟩,
    ⟨0x04c1, 0x04ce, upperLower⟩, ⟨0x04d0, 0x052f, upperLower⟩, ⟨0x0531, 0x0556, 48⟩,
    ⟨0x10a0, 0x10c5, 7264⟩, ⟨0x10c7, 0x10c7, 7264⟩, ⟨0x10cd, 0x10cd, 7264⟩, ⟨0x13a0, 0x13ef, 38864⟩,
    ⟨0x13f0, 0x13f5, 8⟩, ⟨0x1c90, 0x1cba, (-3008)⟩, ⟨0x1cbd, 0x1cbf, (-3008)⟩]

def latinGreekExtendedRanges : List CaseRange :=
  [⟨0x1e00, 0x1e95, upperLower⟩, ⟨0x1e9e, 0x1e9e, (-7615)⟩, ⟨0x1ea0, 0x1eff, upperLower⟩,
    ⟨0x1f08, 0x1f0f, (-8)⟩, ⟨0x1f18, 0x1f1d, (-8)⟩, ⟨0x1f28, 0x1f2f, (-8)⟩, ⟨0x1f38, 0x1f3f, (-8)⟩,
    ⟨0x1f48, 0x1f4d, (-8)⟩, ⟨0x1f59, 0x1f59, (-8)⟩, ⟨0x1f5b, 0x1f5b, (-8)⟩, ⟨0x1f5d, 0x1f5d, (-8)⟩,
    ⟨0x1f5f, 0x1f5f, (-8)⟩, ⟨0x1f68, 0x1f6f, (-8)⟩, ⟨0x1f88, 0x1f8f, (-8)⟩, ⟨0x1f98, 0x1f9f, (-8)⟩,
    ⟨0x1fa8, 0x1faf, (-8)⟩, ⟨0x1fb8, 0x1fb9, (-8)⟩, ⟨0x1fba, 0x1fbb, (-74)⟩, ⟨0x1fbc, 0x1fbc, (-9)⟩,
    ⟨0x1fc8, 0x1fcb, (-86)⟩, ⟨0x1fcc, 0x1fcc, (-9)⟩, ⟨0x1fd8, 0x1fd9, (-8)⟩,
    ⟨0x1fda, 0x1fdb, (-100)⟩, ⟨0x1fe8, 0x1fe9, (-8)⟩, ⟨0x1fea, 0x1feb, (-112)⟩,
    ⟨0x1fec, 0x1fec, (-7)⟩, ⟨0x1ff8, 0x1ff9, (-128)⟩, ⟨0x1ffa, 0x1ffb, (-126)⟩,
    ⟨0x1ffc, 0x1ffc, (-9)⟩]

def bmpSymbolRanges : List CaseRange :=
  [⟨0x2126, 0x2126, (-7517)⟩, ⟨0x212a, 0x212a, (-8383)⟩, ⟨0x212b, 0x212b, (-8262)⟩,
    ⟨0x2132, 0x2132, 28⟩, ⟨0x2160, 0x216f, 16⟩, ⟨0x2183, 0x2183, 1⟩, ⟨0x24b6, 0x24cf, 26⟩,
    ⟨0x2c00, 0x2c2f, 48⟩, ⟨0x2c60, 0x2c60, 1⟩, ⟨0x2c62, 0x2c62, (-10743)⟩,
    ⟨0x2c63, 0x2c63, (-3814)⟩, ⟨0x2c64, 0x2c64, (-10727)⟩, ⟨0x2c67, 0x2c6c, upperLower⟩,
    ⟨0x2c6d, 0x2c6d, (-10780)⟩, ⟨0x2c6e, 0x2c6e, (-10749)⟩, ⟨0x2c6f, 0x2c6f, (-10783)⟩,
    ⟨0x2c70, 0x2c70, (-10782)⟩, ⟨0x2c72, 0x2c72, 1⟩, ⟨0x2c75, 0x2c75, 1⟩,
    ⟨0x2c7e, 0x2c7f, (-10815)⟩, ⟨0x2c80, 0x2ce3, upperLower⟩, ⟨0x2ceb, 0x2cee, upperLower⟩,
    ⟨0x2cf2, 0x2cf2, 1⟩, ⟨0xa640, 0xa66d, upperLower⟩, ⟨0xa680, 0xa69b, upperLower⟩,
    ⟨0xa722, 0xa72f, upperLower⟩, ⟨0xa732, 0xa76f, upperLower⟩, ⟨0xa779, 0xa77c, upperLower⟩,
    ⟨0xa77d, 0xa77d, (-35332)⟩, ⟨0xa77e, 0xa787, upperLower⟩, ⟨0xa78b, 0xa78b, 1⟩,
    ⟨0xa78d, 0xa78d, (-42280)⟩, ⟨0xa790, 0xa793, upperLower⟩, ⟨0xa796, 0xa7a9, upperLower⟩,
    ⟨0xa7aa, 0xa7aa, (-42308)⟩, ⟨0xa7ab, 0xa7ab, (-42319)⟩, ⟨0xa7ac, 0xa7ac, (-42315)⟩,
    ⟨0xa7ad, 0xa7ad, (-42305)⟩, ⟨0xa7ae, 0xa7ae, (-42308)⟩, ⟨0xa7b0, 0xa7b0, (-42258)⟩,
    ⟨0xa7b1, 0xa7b1, (-42282)⟩, ⟨0xa7b2, 0xa7b2, (-42261)⟩, ⟨0xa7b3, 0xa7b3, 928⟩,
    ⟨0xa7b4, 0xa7c3, upperLower⟩, ⟨0xa7c4, 0xa7c4, (-48)⟩, ⟨0xa7c5, 0xa7c5, (-42307)⟩,
    ⟨0xa7c6, 0xa7c6, (-35384)⟩, ⟨0xa7c7, 0xa7ca, upperLower⟩, ⟨0xa7d0, 0xa7d0, 1⟩,
    ⟨0xa7d6, 0xa7d9, upperLower⟩, ⟨0xa7f5, 0xa7f5, 1⟩, ⟨0xff21, 0xff3a, 32⟩]

def supplementaryRanges : List CaseRange :=
  [⟨0x10400, 0x10427, 40⟩, ⟨0x104b0, 0x104d3, 40⟩, ⟨0x10570, 0x1057a, 39⟩, ⟨0x1057c, 0x1058a, 39⟩,
    ⟨0x1058c, 0x10592, 39⟩, ⟨0x10594, 0x10595, 39⟩, ⟨0x10c80, 0x10cb2, 64⟩, ⟨0x118a0, 0x118bf, 32⟩,
    ⟨0x16e40, 0x16e5f, 32⟩, ⟨0x1e900, 0x1e921, 34⟩]

def lowerRanges : List CaseRange :=
  latinRanges ++ greekToGeorgianRanges ++ latinGreekExtendedRanges ++ bmpSymbolRanges ++
    supplementaryRanges

/-- The lowercase of a rune in its range: in an upper-lower sequence the rune at the odd
offset of its pair, else the rune plus the delta. -/
def CaseRange.toLower (range : CaseRange) (r : Nat) : Nat :=
  if range.lowerDelta = upperLower then range.lo + ((r - range.lo) / 2 * 2 + 1)
  else (r + range.lowerDelta).toNat

/-- `unicode.ToLower`. -/
def toLower (c : Char) : Char :=
  match lowerRanges.find? fun range => range.lo ≤ c.toNat && c.toNat ≤ range.hi with
  | some range => Char.ofNat (range.toLower c.toNat)
  | none => c

example : toLower 'A' = 'a' ∧ toLower 'Ω' = 'ω' ∧ toLower 'Ā' = 'ā' ∧ toLower 'ā' = 'ā' := by
  decide

end RmsGate.Go
