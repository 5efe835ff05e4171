import SourceDigest.Text.Split

namespace SourceDigest.Text.Punycode

def digit (n : Nat) : Char := if n < 26 then Char.ofNat (97 + n) else Char.ofNat (22 + n)

def digitValue? (c : Char) : Option Nat :=
  if 'a' ≤ c && c ≤ 'z' then some (c.toNat - 97)
  else if c.isDigit then some (c.toNat - 22)
  else none

theorem digitValue?_digit {n : Nat} (h : n < 36) : digitValue? (digit n) = some n := by
  have : ∀ m : Fin 36, digitValue? (digit m.val) = some m.val := by decide
  exact this ⟨n, h⟩

def threshold (bias k : Nat) : Nat := max 1 (min 26 (k - bias))

theorem threshold_pos (bias k : Nat) : 1 ≤ threshold bias k := Nat.le_max_left ..

theorem threshold_le (bias k : Nat) : threshold bias k ≤ 26 :=
  Nat.max_le.2 ⟨by decide, Nat.min_le_left ..⟩

theorem rest_lt {bias k n : Nat} (h : ¬n < threshold bias k) :
    (n - threshold bias k) / (36 - threshold bias k) < n := by
  have := threshold_pos bias k
  exact Nat.lt_of_le_of_lt (Nat.div_le_self _ _) (by omega)

def writeNumber (bias k n : Nat) : List Char :=
  let t := threshold bias k
  if n < t then [digit n]
  else digit (t + (n - t) % (36 - t)) :: writeNumber bias (k + 36) ((n - t) / (36 - t))
termination_by n
decreasing_by exact rest_lt ‹_›

def maxWeight : Nat := 0xffffffff

def readNumber (bias : Nat) : Nat → Nat → Nat → List Char → Option (Nat × List Char)
  | _, _, _, [] => none
  | k, weight, n, c :: s =>
    match digitValue? c with
    | none => none
    | some d =>
      let t := threshold bias k
      if d < t then some (n + d * weight, s)
      else if maxWeight < weight * (36 - t) then none
      else readNumber bias (k + 36) (weight * (36 - t)) (n + d * weight) s

theorem readNumber_length {bias k weight n m : Nat} {s r : List Char}
    (h : readNumber bias k weight n s = some (m, r)) : r.length < s.length := by
  induction s generalizing k weight n with
  | nil => simp [readNumber] at h
  | cons c s ih =>
    simp only [readNumber] at h
    split at h
    · cases h
    · split at h
      · simp only [Option.some.injEq, Prod.mk.injEq] at h
        simp [h.2]
      · split at h
        · cases h
        · exact Nat.lt_succ_of_lt (ih h)

def shrink (k delta : Nat) : Nat :=
  if 455 < delta then shrink (k + 36) (delta / 35) else k + 36 * delta / (delta + 38)
termination_by delta
decreasing_by exact Nat.div_lt_self (by omega) (by decide)

def adapt (first : Bool) (delta count : Nat) : Nat :=
  let delta := if first then delta / 700 else delta / 2
  shrink 0 (delta + delta / count)

def firstBias : Nat := 72

def isAscii (c : Char) : Bool := c.toNat < 0x80

def passOver (point : Nat) : Nat → List Char → List Nat × Nat
  | delta, [] => ([], delta)
  | delta, c :: s =>
    if c.toNat < point then passOver point (delta + 1) s
    else if c.toNat = point then
      let (numbers, delta') := passOver point 0 s
      (delta :: numbers, delta')
    else passOver point delta s

def numbers (s : List Char) : List Nat → Nat → Nat → Nat → List Nat
  | [], _, _, _ => []
  | point :: points, least, delta, count =>
    let (found, delta) := passOver point (delta + (point - least) * (count + 1)) s
    found ++ numbers s points (point + 1) (delta + 1) (count + found.length)

def writeNumbers : Nat → Bool → Nat → List Nat → List Char
  | _, _, _, [] => []
  | bias, first, count, n :: ns =>
    writeNumber bias 36 n ++ writeNumbers (adapt first n (count + 1)) false (count + 1) ns

def encode (s : List Char) : List Char :=
  let basic := s.filter isAscii
  let points := ((s.filter (!isAscii ·)).map Char.toNat).eraseDups.mergeSort
  basic ++ (if basic.isEmpty then [] else ['-'])
    ++ writeNumbers firstBias true basic.length (numbers s points 0x80 0 basic.length)

def isCodePoint (n : Nat) : Bool := n < 0xd800 || (0xdfff < n && n < 0x110000)

def insertAll : Nat → Nat → Bool → Nat → Nat → List Char → List Char → Option (List Char)
  | _, _, _, _, _, s, [] => some s
  | 0, _, _, _, _, _, _ => none
  | fuel + 1, bias, first, point, place, s, r =>
    match readNumber bias 36 1 0 r with
    | none => none
    | some (n, r) =>
      let count := s.length + 1
      let point := point + (place + n) / count
      let place := (place + n) % count
      if isCodePoint point then
        insertAll fuel (adapt first n count) false point (place + 1)
          (s.insertIdx place (Char.ofNat point)) r
      else none

def decode (s : List Char) : Option (List Char) :=
  match splitLast '-' s with
  | (none, r) => insertAll r.length firstBias true 0x80 0 [] r
  | (some [], _) => none
  | (some basic, r) =>
    if basic.all isAscii then insertAll r.length firstBias true 0x80 0 basic r else none

theorem readNumber_writeNumber {bias k weight n m : Nat} {s : List Char}
    (h : weight * n * 35 ≤ maxWeight) :
    readNumber bias k weight m (writeNumber bias k n ++ s) = some (m + n * weight, s) := by
  induction n using Nat.strongRecOn generalizing k weight m with
  | ind n ih =>
    have h1 := threshold_pos bias k
    have h2 := threshold_le bias k
    rw [writeNumber]
    split
    · rename_i hn
      simp [readNumber, digitValue?_digit (Nat.lt_trans hn (by omega)), hn]
    · rename_i hn
      obtain ⟨t, ht⟩ : ∃ t, t = threshold bias k := ⟨_, rfl⟩
      rw [← ht] at h1 h2 hn ⊢
      have hd : t + (n - t) % (36 - t) < 36 := by
        have := Nat.mod_lt (n - t) (by omega : 0 < 36 - t)
        omega
      have hsum : (n - t) % (36 - t) + (36 - t) * ((n - t) / (36 - t)) = n - t :=
        Nat.mod_add_div ..
      have hrest : weight * (36 - t) * ((n - t) / (36 - t)) ≤ weight * n := by
        rw [Nat.mul_assoc]
        exact Nat.mul_le_mul_left _ (by omega)
      have hweight : weight * (36 - t) ≤ maxWeight :=
        Nat.le_trans (Nat.mul_le_mul (Nat.le_mul_of_pos_right weight (by omega)) (by omega)) h
      have hback : readNumber bias (k + 36) (weight * (36 - t))
          (m + (t + (n - t) % (36 - t)) * weight)
          (writeNumber bias (k + 36) ((n - t) / (36 - t)) ++ s)
            = some (m + (t + (n - t) % (36 - t)) * weight
              + (n - t) / (36 - t) * (weight * (36 - t)), s) :=
        ih _ (ht ▸ rest_lt (ht ▸ hn)) (Nat.le_trans (Nat.mul_le_mul_right 35 hrest) h)
      simp only [List.cons_append, readNumber, digitValue?_digit hd, ← ht]
      rw [if_neg (by omega), if_neg (by omega), hback]
      have : (n - t) / (36 - t) * (weight * (36 - t))
          = (36 - t) * ((n - t) / (36 - t)) * weight := by
        rw [Nat.mul_comm weight, ← Nat.mul_assoc, Nat.mul_comm ((n - t) / (36 - t))]
      have hn' : t + (n - t) % (36 - t) + (36 - t) * ((n - t) / (36 - t)) = n := by omega
      rw [this, Nat.add_assoc, ← Nat.add_mul, hn']

theorem digit_isAscii {n : Nat} (h : n < 36) : isAscii (digit n) = true := by
  have : ∀ m : Fin 36, isAscii (digit m.val) = true := by decide
  exact this ⟨n, h⟩

theorem writeNumber_isAscii {bias k n : Nat} {c : Char} (h : c ∈ writeNumber bias k n) :
    isAscii c = true := by
  induction n using Nat.strongRecOn generalizing k with
  | ind n ih =>
    have h1 := threshold_pos bias k
    have h2 := threshold_le bias k
    rw [writeNumber] at h
    split at h
    · rename_i hn
      rw [List.mem_singleton.1 h]
      exact digit_isAscii (by omega)
    · rename_i hn
      rcases List.mem_cons.1 h with rfl | h
      · have := Nat.mod_lt (n - threshold bias k) (by omega : 0 < 36 - threshold bias k)
        exact digit_isAscii (by omega)
      · exact ih _ (rest_lt hn) h

theorem writeNumbers_isAscii {bias count : Nat} {first : Bool} {ns : List Nat} {c : Char}
    (h : c ∈ writeNumbers bias first count ns) : isAscii c = true := by
  induction ns generalizing bias count first with
  | nil => simp [writeNumbers] at h
  | cons n ns ih =>
    rcases List.mem_append.1 h with h | h
    · exact writeNumber_isAscii h
    · exact ih h

theorem encode_isAscii {s : List Char} {c : Char} (h : c ∈ encode s) : isAscii c = true := by
  rcases List.mem_append.1 h with h | h
  · rcases List.mem_append.1 h with h | h
    · exact (List.mem_filter.1 h).2
    · split at h
      · simp at h
      · rw [List.mem_singleton.1 h]
        decide
  · exact writeNumbers_isAscii h

end SourceDigest.Text.Punycode
