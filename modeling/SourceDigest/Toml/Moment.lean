namespace SourceDigest.Toml

structure Date where
  year : Nat
  month : Nat
  day : Nat
  deriving DecidableEq, Repr

structure Time where
  hour : Nat
  minute : Nat
  second : Nat
  nanosecond : Nat
  deriving DecidableEq, Repr

inductive Moment where
  | day (date : Date)
  | clock (time : Time)
  | instant (date : Date) (time : Time) (ahead : Option Int)
  deriving DecidableEq, Repr

def isLeap (year : Nat) : Bool := year % 4 == 0 && (year % 100 != 0 || year % 400 == 0)

def daysIn (year month : Nat) : Nat :=
  if month = 2 then if isLeap year then 29 else 28
  else if [4, 6, 9, 11].contains month then 30
  else 31

def digitsValue (digits : List Char) : Nat := digits.foldl (fun n c => n * 10 + (c.toNat - 48)) 0

def readField (width low high : Nat) (s : List Char) : Option (Nat × List Char) :=
  let digits := s.take width
  let n := digitsValue digits
  if digits.length = width && digits.all Char.isDigit && low ≤ n && n ≤ high then
    some (n, s.drop width)
  else none

def readBehind (mark : Char) (low high : Nat) : List Char → Option (Nat × List Char)
  | c :: s => if c = mark then readField 2 low high s else none
  | [] => none

def readDate (s : List Char) : Option (Date × List Char) := do
  let (year, s) ← readField 4 0 9999 s
  let (month, s) ← readBehind '-' 1 12 s
  let (day, s) ← readBehind '-' 1 (daysIn year month) s
  some (⟨year, month, day⟩, s)

def readFraction (s : List Char) : Nat × List Char :=
  match s with
  | '.' :: r =>
    let digits := r.takeWhile Char.isDigit
    if digits.isEmpty then (0, s)
    else (digitsValue ((digits ++ List.replicate 9 '0').take 9), r.dropWhile Char.isDigit)
  | _ => (0, s)

def readTime (s : List Char) : Option (Time × List Char) := do
  let (hour, s) ← readField 2 0 23 s
  let (minute, s) ← readBehind ':' 0 59 s
  let (second, s) ← readBehind ':' 0 60 s
  let (nanosecond, s) := readFraction s
  some (⟨hour, minute, second, nanosecond⟩, s)

def readDistance (s : List Char) : Option (Nat × List Char) := do
  let (hours, s) ← readField 2 0 23 s
  let (minutes, s) ← readBehind ':' 0 59 s
  some (hours * 60 + minutes, s)

def readAhead (s : List Char) : Option (Int × List Char) :=
  match s with
  | '+' :: s => (readDistance s).map fun (n, s) => ((n : Int), s)
  | '-' :: s => (readDistance s).map fun (n, s) => (-(n : Int), s)
  | c :: s => if c = 'Z' || c = 'z' then some (0, s) else none
  | [] => none

def isDelimiter (c : Char) : Bool := c == 'T' || c == 't' || c == ' '

def readMoment (s : List Char) : Option (Moment × List Char) :=
  match readDate s with
  | some (date, r) =>
    match (if r.head?.any isDelimiter then readTime r.tail else none) with
    | none => some (.day date, r)
    | some (time, r) =>
      match readAhead r with
      | none => some (.instant date time none, r)
      | some (ahead, r) => some (.instant date time (some ahead), r)
  | none => (readTime s).map fun (time, r) => (.clock time, r)

theorem readField_bounds {width low high n : Nat} {s r : List Char}
    (h : readField width low high s = some (n, r)) : low ≤ n ∧ n ≤ high := by
  simp only [readField] at h
  split at h
  · rename_i hc
    simp only [Bool.and_eq_true, decide_eq_true_eq] at hc
    simp only [Option.some.injEq, Prod.mk.injEq] at h
    exact h.1 ▸ ⟨hc.1.2, hc.2⟩
  · cases h

theorem readBehind_bounds {mark : Char} {low high n : Nat} {s r : List Char}
    (h : readBehind mark low high s = some (n, r)) : low ≤ n ∧ n ≤ high := by
  unfold readBehind at h
  split at h
  · split at h
    · exact readField_bounds h
    · cases h
  · cases h

theorem readDate_days {s r : List Char} {d : Date} (h : readDate s = some (d, r)) :
    1 ≤ d.day ∧ d.day ≤ daysIn d.year d.month := by
  simp only [readDate, Option.bind_eq_bind, Option.bind_eq_some_iff, Option.some.injEq,
    Prod.mk.injEq, Prod.exists] at h
  obtain ⟨_, _, _, _, _, _, _, _, hd, rfl, _⟩ := h
  exact readBehind_bounds hd

end SourceDigest.Toml
