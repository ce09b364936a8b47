import Storefront.Text.Mark

/-! The directions in which characters are written. The tables are complete for the characters of
host names. -/
namespace Storefront.Text

inductive Direction where
  | left
  | right
  | arabic
  | arabicNumber
  | number
  | numberSign
  | neutral
  | joiner
  | mark
deriving DecidableEq

/-- Letters from right to left, other than Arabic ones. -/
def rightRows : Rows := [
  (0x5D0, 0x5F4), (0x7C0, 0x858), (0x10800, 0x10CF2), (0x10E80, 0x10F27), (0x10F70, 0x10FF6),
  (0x1E800, 0x1E959)]

def arabicRows : Rows := [
  (0x620, 0x64A), (0x66E, 0x6EF), (0x6FA, 0x7B1), (0x860, 0x8C9), (0xFE73, 0xFE73),
  (0x10D00, 0x10D23), (0x10F30, 0x10F45)]

def arabicNumberRows : Rows := [
  (0x660, 0x669), (0x10D30, 0x10D39)]

def numberRows : Rows := [
  (0x30, 0x39), (0x6F0, 0x6F9)]

/-- Characters that take their direction from those around them. -/
def neutralRows : Rows := [
  (0xB7, 0xB7), (0x2B9, 0x2BA), (0x2C6, 0x2CF), (0x2EC, 0x2EC), (0x375, 0x375), (0x2E2F, 0x2E2F),
  (0x30FB, 0x30FB), (0xA67F, 0xA67F), (0xA717, 0xA71F), (0xA788, 0xA788)]

def leftMarks : List Nat := [0xCBF, 0xCC6, 0x11A07, 0x11A08, 0x11C3F]

def directionOf (c : Char) : Direction :=
  if leftMarks.contains c.toNat then .left
  else if isNonspacing c then .mark
  else if rightRows.has c then .right
  else if arabicRows.has c then .arabic
  else if arabicNumberRows.has c then .arabicNumber
  else if numberRows.has c then .number
  else if neutralRows.has c then .neutral
  else if c = '-' then .numberSign
  else if c = '\u200C' || c = '\u200D' then .joiner
  else .left

/-- Directions of a text that is written from right to left. -/
def Direction.isRightward : Direction → Bool
  | .right => true
  | .arabic => true
  | .arabicNumber => true
  | _ => false

end Storefront.Text
