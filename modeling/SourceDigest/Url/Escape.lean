import SourceDigest.Text.Hex
import SourceDigest.Text.Utf8

namespace SourceDigest.Url

open Text (hexDigit hexValue?)

def escapeByte (b : UInt8) : List Char := ['%', hexDigit (b.toNat / 16), hexDigit (b.toNat % 16)]

def escape (refused : List Char) (s : List Char) : List Char :=
  s.flatMap fun c =>
    if c.toNat ≤ 0x1f || 0x7e < c.toNat || refused.contains c then
      (Text.Utf8.encode (String.singleton c)).flatMap escapeByte
    else [c]

def fragmentRefused : List Char := [' ', '"', '<', '>', Char.ofNat 0x60]

def pathRefused : List Char := fragmentRefused ++ ['#', '?', '\x7b', '\x7d']

def credentialsRefused : List Char :=
  pathRefused ++ ['/', ':', ';', '=', '@', '[', '\\', ']', '^', '|']

def queryRefused (special : Bool) : List Char :=
  [' ', '"', '#', '<', '>'] ++ (if special then [Char.ofNat 0x27] else [])

def unescape : List Char → List UInt8
  | [] => []
  | '%' :: a :: b :: s =>
    match hexValue? a, hexValue? b with
    | some m, some n => UInt8.ofNat (m * 16 + n) :: unescape s
    | _, _ => 0x25 :: unescape (a :: b :: s)
  | c :: s => Text.Utf8.encode (String.singleton c) ++ unescape s

theorem unescape_escapeByte (b : UInt8) (s : List Char) :
    unescape (escapeByte b ++ s) = b :: unescape s := by
  have hb := b.toNat_lt
  have hh : hexValue? (hexDigit (b.toNat / 16)) = some (b.toNat / 16) :=
    Text.hexValue?_hexDigit (by omega)
  have hl : hexValue? (hexDigit (b.toNat % 16)) = some (b.toNat % 16) :=
    Text.hexValue?_hexDigit (Nat.mod_lt _ (by decide))
  simp only [escapeByte, List.cons_append, List.nil_append, unescape, hh, hl]
  rw [Nat.div_add_mod', UInt8.ofNat_toNat]

end SourceDigest.Url
