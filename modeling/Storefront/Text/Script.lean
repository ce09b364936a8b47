import Storefront.Text.Table

/-! Scripts that lend characters to host names. The tables are complete for those characters. -/
namespace Storefront.Text

def greekRows : Rows := [
  (0x371, 0x3E1), (0x3F3, 0x3FC), (0x1D26, 0x1D2A), (0x1F00, 0x1FF6), (0xAB65, 0xAB65)]

def hebrewRows : Rows := [
  (0x591, 0x5F4), (0xFB1E, 0xFB1E)]

def hiraganaRows : Rows := [
  (0x3041, 0x3096), (0x309D, 0x309E), (0x1B001, 0x1B11F), (0x1B150, 0x1B152)]

def katakanaRows : Rows := [
  (0x30A1, 0x30FA), (0x30FD, 0x30FE), (0x31F0, 0x31FF), (0x1AFF0, 0x1B000), (0x1B120, 0x1B122),
  (0x1B164, 0x1B167)]

def hanRows : Rows := [
  (0x3005, 0x3005), (0x3007, 0x3007), (0x3400, 0x9FFF), (0xFA0E, 0xFA29), (0x16FE3, 0x16FE3),
  (0x16FF0, 0x16FF1), (0x20000, 0x3134A)]

end Storefront.Text
