namespace SourceDigest.Text.Utf8

structure Stop where
  index : Nat
  wrong : Option Nat
  deriving DecidableEq, Repr

def Stop.message (s : Stop) : String :=
  match s.wrong with
  | some n =>
    "invalid utf-8 sequence of " ++ toString n ++ " bytes from index " ++ toString s.index
  | none => "incomplete utf-8 byte sequence from index " ++ toString s.index

def following? (b : Nat) : Option (Nat × Nat × Nat) :=
  if 0xc2 ≤ b && b ≤ 0xdf then some (1, 0x80, 0xbf)
  else if b == 0xe0 then some (2, 0xa0, 0xbf)
  else if b == 0xed then some (2, 0x80, 0x9f)
  else if 0xe1 ≤ b && b ≤ 0xef then some (2, 0x80, 0xbf)
  else if b == 0xf0 then some (3, 0x90, 0xbf)
  else if 0xf1 ≤ b && b ≤ 0xf3 then some (3, 0x80, 0xbf)
  else if b == 0xf4 then some (3, 0x80, 0x8f)
  else none

def leading (b : Nat) : Nat :=
  if b < 0xe0 then b - 0xc0 else if b < 0xf0 then b - 0xe0 else b - 0xf0

/-- Takes so many further bytes into a character, the first within the given range: the code point
and the rest, or the number of good bytes and whether the end came. -/
def continuation : Nat → Nat → Nat → Nat → Nat → List UInt8 → Except (Nat × Bool) (Nat × List UInt8)
  | 0, _, _, _, acc, s => .ok (acc, s)
  | _ + 1, _, _, good, _, [] => .error (good, true)
  | n + 1, lo, hi, good, acc, b :: s =>
    if lo ≤ b.toNat && b.toNat ≤ hi then
      continuation n 0x80 0xbf (good + 1) (acc * 0x40 + (b.toNat - 0x80)) s
    else .error (good, false)

def character (b : UInt8) (s : List UInt8) : Except (Nat × Bool) (Nat × List UInt8) :=
  if b.toNat < 0x80 then .ok (b.toNat, s)
  else
    match following? b.toNat with
    | none => .error (1, false)
    | some (n, lo, hi) => continuation n lo hi 1 (leading b.toNat) s

def decodeFrom : Nat → Nat → List UInt8 → Except Stop (List Char)
  | _, _, [] => .ok []
  | 0, index, _ => .error ⟨index, none⟩
  | fuel + 1, index, b :: s =>
    match character b s with
    | .error (good, ended) => .error ⟨index, if ended then none else some good⟩
    | .ok (n, rest) =>
      match decodeFrom fuel (index + (s.length + 1 - rest.length)) rest with
      | .error e => .error e
      | .ok cs => .ok (Char.ofNat n :: cs)

def decode (bytes : List UInt8) : Except Stop String :=
  (decodeFrom bytes.length 0 bytes).map String.ofList

def replacement : Char := '\ufffd'

def decodeLossyFrom : Nat → List UInt8 → List Char
  | _, [] => []
  | 0, _ => []
  | fuel + 1, b :: s =>
    match character b s with
    | .ok (n, rest) => Char.ofNat n :: decodeLossyFrom fuel rest
    | .error (good, _) => replacement :: decodeLossyFrom fuel (s.drop (good - 1))

def decodeLossy (bytes : List UInt8) : String := String.ofList (decodeLossyFrom bytes.length bytes)

def encode (s : String) : List UInt8 := s.toList.flatMap String.utf8EncodeChar

def decode? (bytes : List UInt8) : Option String := (decode bytes).toOption

theorem decode_nil : decode [] = .ok "" := rfl

end SourceDigest.Text.Utf8
