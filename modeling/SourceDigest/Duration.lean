namespace SourceDigest

structure Duration where
  nanoseconds : Nat
  deriving DecidableEq, Repr

namespace Duration

def ofMillis (n : UInt64) : Duration := ⟨n.toNat * 1000000⟩

def micros (d : Duration) : UInt64 :=
  UInt64.ofNat (min (d.nanoseconds / 1000) (UInt64.size - 1))

def decimal (whole fraction digits : Nat) : String :=
  let shown := (toString fraction).toList
  let padded := List.replicate (digits - shown.length) '0' ++ shown
  let kept := (padded.reverse.dropWhile (· == '0')).reverse
  toString whole ++ (if kept.isEmpty then "" else "." ++ String.ofList kept)

def text (d : Duration) : String :=
  let n := d.nanoseconds
  if 1000000000 ≤ n then decimal (n / 1000000000) (n % 1000000000) 9 ++ "s"
  else if 1000000 ≤ n then decimal (n / 1000000) (n % 1000000) 6 ++ "ms"
  else if 1000 ≤ n then decimal (n / 1000) (n % 1000) 3 ++ "µs"
  else toString n ++ "ns"

example : (Duration.mk 1500000000).text = "1.5s" ∧ (Duration.mk 1001000).text = "1.001ms" := by
  decide +kernel

end Duration

end SourceDigest
