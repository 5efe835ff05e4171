import SourceDigest.Proofs.Decimal.Numeral
import SourceDigest.Toml.Reader

namespace SourceDigest.Toml

open SourceDigest.Text (hexValue? splitOnce)
open SourceDigest.Json (ne_of_test)
open Decimal (exists_toDigits isDigit_toDigits toDigits_ne_cons toDigits_ne_cons_cons)

variable {s t : List Char}

theorem span_append {p : Char → Bool} (hs : ∀ c ∈ s, p c = true) (ht : ∀ c ∈ t.head?, p c = false) :
    (s ++ t).takeWhile p = s ∧ (s ++ t).dropWhile p = t := by
  rw [List.takeWhile_append_of_pos hs, List.dropWhile_append_of_pos hs]
  cases t with
  | nil => exact ⟨List.append_nil s, rfl⟩
  | cons c t =>
    have hc : ¬ p c = true := Bool.eq_false_iff.1 (ht c rfl)
    rw [List.takeWhile_cons_of_neg hc, List.dropWhile_cons_of_neg hc, List.append_nil]
    exact ⟨rfl, rfl⟩

section Keys

structure IsBareKey (name : String) : Prop where
  nonempty : name.toList.isEmpty = false
  bare : name.toList.all isBareKeyChar = true

theorem IsBareKey.exists_cons {name : String} (h : IsBareKey name) :
    ∃ c r, name.toList = c :: r ∧ isBareKeyChar c = true := by
  obtain ⟨c, r, hname⟩ := List.exists_cons_of_ne_nil (List.isEmpty_eq_false_iff.1 h.nonempty)
  exact ⟨c, r, hname, List.all_eq_true.1 h.bare c (hname ▸ List.mem_cons_self)⟩

theorem readName_bare {name : String} (h : IsBareKey name)
    (ht : ∀ c ∈ t.head?, isBareKeyChar c = false) :
    readName (name.toList ++ t) = some (name, t) := by
  obtain ⟨htake, hdrop⟩ := span_append (List.all_eq_true.1 h.bare) ht
  obtain ⟨c, r, hname, hc⟩ := h.exists_cons
  have hquote : c ≠ '"' := ne_of_test hc (by decide)
  have hapostrophe : c ≠ apostrophe := ne_of_test hc (by decide)
  have hback : name = String.ofList (c :: r) := by rw [← hname, String.ofList_toList]
  rw [hname, List.cons_append] at htake hdrop ⊢
  simp only [readName, if_neg hquote, if_neg hapostrophe, htake, hdrop, hback]

theorem skipGap_bare {c : Char} (h : isBareKeyChar c = true) (s : List Char) :
    skipGap (c :: s) = c :: s := by
  have hspace : c ≠ ' ' := ne_of_test h (by decide)
  have htab : c ≠ '\t' := ne_of_test h (by decide)
  simp [skipGap, isGap, hspace, htab]

theorem readKey_bare {name : String} (h : IsBareKey name)
    (ht : ∀ c ∈ t.head?, isBareKeyChar c = false) (hdot : ∀ r, skipGap t ≠ '.' :: r) :
    readKey (name.toList ++ t) = some (⟨[], name⟩, skipGap t) := by
  have hskip : skipGap (name.toList ++ t) = name.toList ++ t := by
    obtain ⟨c, r, hname, hc⟩ := h.exists_cons
    rw [hname, List.cons_append, skipGap_bare hc]
  -- no dot follows, so that this is the last name
  simp only [readKey, maxNames, readNames, hskip, readName_bare h ht]

end Keys

section Numerals

theorem digit_range {c : Char} (h : c.isDigit = true) : 48 ≤ c.toNat ∧ c.toNat ≤ 57 :=
  Char.isDigit_iff_toNat.1 h

theorem ungroup_digits (hs : ∀ c ∈ s, c.isDigit = true) {b : Bool} (h : b = true ∨ s ≠ []) :
    ungroup 10 b s = some (s.map fun c => c.toNat - 48) := by
  induction s generalizing b with
  | nil =>
    rcases h with rfl | h
    · rfl
    · exact absurd rfl h
  | cons c s ih =>
    have hc := hs c List.mem_cons_self
    have hgroup : c ≠ '_' := ne_of_test hc (by decide)
    have hvalue : hexValue? c = some (c.toNat - 48) := if_pos hc
    have hlt : c.toNat - 48 < 10 := by
      have hrange := digit_range hc
      omega
    have hrest := ih (fun d hd => hs d (List.mem_cons_of_mem c hd)) (b := true) (Or.inl rfl)
    simp only [ungroup, if_neg hgroup, hvalue, hlt, if_true, hrest]
    rfl

theorem ofDigits_map_digits (s : List Char) :
    ofDigits 10 (s.map fun c => c.toNat - 48) = Nat.ofDigitChars 10 s 0 := by
  have hstep : (fun n (c : Char) => n * 10 + (c.toNat - 48)) =
      fun n c => 10 * n + (c.toNat - '0'.toNat) := by
    funext n c
    rw [Nat.mul_comm]
    rfl
  rw [ofDigits, List.foldl_map, hstep]
  rfl

theorem ofDigits_toDigits (n : Nat) :
    ofDigits 10 ((Nat.toDigits 10 n).map fun c => c.toNat - 48) = n := by
  rw [ofDigits_map_digits]
  exact Nat.ofDigitChars_toDigits (by decide) (Nat.le_refl 10)

theorem wholeDigits_toDigits (n : Nat) :
    wholeDigits (Nat.toDigits 10 n) = some ((Nat.toDigits 10 n).map fun c => c.toNat - 48) := by
  have hread := ungroup_digits (isDigit_toDigits n) (b := false) (Or.inr Nat.toDigits_ne_nil)
  unfold wholeDigits
  rw [hread]
  split
  · rename_i d ds heq
    obtain ⟨c, cs, hdigits, hdigit⟩ := exists_toDigits n
    have hmap := Option.some.inj heq
    rw [hdigits, List.map_cons] at hmap
    have hc : c = '0' := by
      have hrange := digit_range hdigit
      have hzero : c.toNat - 48 = 0 := (List.cons.inj hmap).1
      apply Char.toNat_inj.1
      show c.toNat = 48
      omega
    have hn := Json.eq_zero_of_toDigits (hc ▸ hdigits)
    rw [hn] at hdigits
    have hcs : cs = [] := (List.cons.inj hdigits).2.symm
    rw [hcs, List.map_nil] at hmap
    exact absurd (List.cons.inj hmap).2.symm (List.cons_ne_nil _ _)
  · rfl

theorem decimal_toDigits {n : Nat} (h : n ≤ maxInteger) :
    decimal false (Nat.toDigits 10 n) = some (.integer n) := by
  have hmark : ∀ c ∈ Nat.toDigits 10 n, (!isExponentMark c) = true := by
    intro c hc
    have he : c ≠ 'e' := ne_of_test (isDigit_toDigits n c hc) (by decide)
    have hE : c ≠ 'E' := ne_of_test (isDigit_toDigits n c hc) (by decide)
    simp [isExponentMark, he, hE]
  have hpoint : ∀ c ∈ Nat.toDigits 10 n, (c != '.') = true := fun c hc =>
    bne_iff_ne.2 (ne_of_test (isDigit_toDigits n c hc) (by decide))
  obtain ⟨htake, hdrop⟩ := span_append (t := []) hmark (by simp)
  have hsplit := (span_append (t := []) hpoint (by simp)).2
  rw [List.append_nil] at htake hdrop hsplit
  have hi : Nat.toDigits 10 n ≠ ['i', 'n', 'f'] := toDigits_ne_cons (by decide)
  have hn : Nat.toDigits 10 n ≠ ['n', 'a', 'n'] := toDigits_ne_cons (by decide)
  simp only [decimal, if_neg hi, if_neg hn, htake, hdrop, splitOnce, hsplit, wholeDigits_toDigits,
    Option.bind_some, ofDigits_toDigits]
  exact if_pos h

theorem number?_toDigits {n : Nat} (h : n ≤ maxInteger) :
    number? (Nat.toDigits 10 n) = some (.integer n) := by
  unfold number?
  split
  case h_1 heq => exact absurd heq (toDigits_ne_cons_cons (by decide))
  case h_2 heq => exact absurd heq (toDigits_ne_cons_cons (by decide))
  case h_3 heq => exact absurd heq (toDigits_ne_cons_cons (by decide))
  case h_4 heq => exact absurd heq (toDigits_ne_cons (by decide))
  case h_5 heq => exact absurd heq (toDigits_ne_cons (by decide))
  case h_6 => exact decimal_toDigits h

end Numerals

section Moments

theorem readField_digits {width low high v : Nat} {r : List Char} (hs : ∀ c ∈ s, c.isDigit = true)
    (h : readField width low high (s ++ '\n' :: t) = some (v, r)) :
    ∃ s', (∀ c ∈ s', c.isDigit = true) ∧ r = s' ++ '\n' :: t := by
  simp only [readField] at h
  split at h
  · rename_i hfield
    simp only [Bool.and_eq_true, decide_eq_true_eq] at hfield
    obtain ⟨⟨⟨-, hdigits⟩, -⟩, -⟩ := hfield
    have hr : (s ++ '\n' :: t).drop width = r := congrArg Prod.snd (Option.some.inj h)
    -- the field would else take the line break along
    have hle : width ≤ s.length := by
      by_contra hlt
      obtain ⟨k, hk⟩ := Nat.exists_eq_add_of_lt (Nat.not_le.1 hlt)
      have hbreak : '\n' ∈ (s ++ '\n' :: t).take width := by
        rw [List.take_append, show width - s.length = k + 1 by omega, List.take_succ_cons]
        exact List.mem_append_right _ List.mem_cons_self
      exact absurd (List.all_eq_true.1 hdigits _ hbreak) (by decide)
    refine ⟨s.drop width, fun c hc => hs c (List.mem_of_mem_drop hc), ?_⟩
    rw [← hr, List.drop_append_of_le_length hle]
  · cases h

theorem readBehind_digits (mark : Char) {low high : Nat} (hmark : mark.isDigit = false)
    (hbreak : '\n' ≠ mark) (hs : ∀ c ∈ s, c.isDigit = true) :
    readBehind mark low high (s ++ '\n' :: t) = none := by
  cases s with
  | nil => exact if_neg hbreak
  | cons c s => exact if_neg (ne_of_test (hs c List.mem_cons_self) hmark)

theorem readMoment_digits (hs : ∀ c ∈ s, c.isDigit = true) :
    readMoment (s ++ '\n' :: t) = none := by
  have hdate : readDate (s ++ '\n' :: t) = none := by
    unfold readDate
    cases hyear : readField 4 0 9999 (s ++ '\n' :: t) with
    | none => rfl
    | some year =>
      obtain ⟨s', hs', hrest⟩ := readField_digits hs hyear
      simp only [Option.bind_eq_bind, Option.bind_some, hrest,
        readBehind_digits '-' (by decide) (by decide) hs', Option.bind_none]
  have htime : readTime (s ++ '\n' :: t) = none := by
    unfold readTime
    cases hhour : readField 2 0 23 (s ++ '\n' :: t) with
    | none => rfl
    | some hour =>
      obtain ⟨s', hs', hrest⟩ := readField_digits hs hhour
      simp only [Option.bind_eq_bind, Option.bind_some, hrest,
        readBehind_digits ':' (by decide) (by decide) hs', Option.bind_none]
  simp only [readMoment, hdate, htime, Option.map_none]

end Moments

section Documents

theorem readPlain_toDigits {n : Nat} (h : n ≤ maxInteger) (t : List Char) :
    readPlain (Nat.toDigits 10 n ++ '\n' :: t) = some (.integer n, '\n' :: t) := by
  obtain ⟨c, r, hdigits, hc⟩ := exists_toDigits n
  have hquote : ¬ (c = '"' ∨ c = apostrophe) :=
    not_or.2 ⟨ne_of_test hc (by decide), ne_of_test hc (by decide)⟩
  have hword : ∀ d ∈ Nat.toDigits 10 n, isWordChar d = true := by
    intro d hd
    simp [isWordChar, Char.isAlphanum, isDigit_toDigits n d hd]
  obtain ⟨htake, hdrop⟩ := span_append (t := '\n' :: t) hword (by simp; decide)
  have hmoment := readMoment_digits (t := t) (isDigit_toDigits n)
  have htrue : Nat.toDigits 10 n ≠ "true".toList := toDigits_ne_cons (by decide)
  have hfalse : Nat.toDigits 10 n ≠ "false".toList := toDigits_ne_cons (by decide)
  have hnumber := number?_toDigits h
  simp only [hdigits, List.cons_append] at htake hdrop hmoment htrue hfalse hnumber ⊢
  simp only [readPlain, Bool.or_eq_true, decide_eq_true_eq, if_neg hquote, hmoment, htake, hdrop,
    if_neg htrue, if_neg hfalse, hnumber, Option.map_some]

theorem readValue_toDigits {n : Nat} (h : n ≤ maxInteger) (depth : Nat) (t : List Char) :
    readValue depth (Nat.toDigits 10 n ++ '\n' :: t) = some (.integer n, '\n' :: t) := by
  obtain ⟨c, r, hdigits, hc⟩ := exists_toDigits n
  have hplain := readPlain_toDigits h t
  rw [hdigits, List.cons_append] at hplain ⊢
  unfold readValue
  split
  case h_1 heq => exact absurd (List.cons.inj heq).1 (ne_of_test hc (by decide))
  case h_2 heq => exact absurd (List.cons.inj heq).1 (ne_of_test hc (by decide))
  case h_3 => exact hplain

theorem skipSpace_bare {c : Char} (h : isBareKeyChar c = true) (s : List Char) :
    skipSpace (c :: s) = some (c :: s) := by
  have hbreak : lineBreak? (c :: s) = none := by
    unfold lineBreak?
    split
    case h_1 heq => exact absurd (List.cons.inj heq).1 (ne_of_test h (by decide))
    case h_2 heq => exact absurd (List.cons.inj heq).1 (ne_of_test h (by decide))
    case h_3 => rfl
  simp only [skipSpace, skipLines, skipGap_bare h]
  split
  case h_1 heq => exact absurd (List.cons.inj heq).1 (ne_of_test h (by decide))
  case h_2 => simp only [hbreak]

theorem skipSpace_bracket (s : List Char) : skipSpace ('[' :: s) = some ('[' :: s) := rfl

theorem readPair_setting {key : String} (hkey : IsBareKey key) {n : Nat} (hn : n ≤ maxInteger)
    (t : List Char) :
    readPair (readValue maxDepth)
        (key.toList ++ ' ' :: '=' :: ' ' :: (Nat.toDigits 10 n ++ '\n' :: t)) =
      some (⟨[], key⟩, .integer n, '\n' :: t) := by
  have hgap : skipGap (' ' :: '=' :: ' ' :: (Nat.toDigits 10 n ++ '\n' :: t)) =
      '=' :: ' ' :: (Nat.toDigits 10 n ++ '\n' :: t) := rfl
  have hname := readKey_bare hkey (t := ' ' :: '=' :: ' ' :: (Nat.toDigits 10 n ++ '\n' :: t))
    (by simp; decide) (by simp [hgap])
  have hvalue : skipGap (' ' :: (Nat.toDigits 10 n ++ '\n' :: t)) =
      Nat.toDigits 10 n ++ '\n' :: t := by
    obtain ⟨c, r, hdigits, hc⟩ := exists_toDigits n
    have hbare : isBareKeyChar c = true := by simp [isBareKeyChar, Char.isAlphanum, hc]
    rw [hdigits]
    exact skipGap_bare hbare _
  rw [hgap] at hname
  simp only [readPair, hname, hvalue, readValue_toDigits hn, Option.map_some]

theorem readDocument_header {table : String} (htable : IsBareKey table) {root opened : Entries}
    (hopen : openTable [] table root = some opened) (k : Nat) (header : List String)
    (t : List Char) :
    readDocument (k + 1) header root ('[' :: (table.toList ++ ']' :: '\n' :: t)) =
      readDocument k [table] opened t := by
  have hname := readKey_bare htable (t := ']' :: '\n' :: t) (by simp; decide) (by simp [skipGap, isGap])
  have hgap : skipGap (']' :: '\n' :: t) = ']' :: '\n' :: t := rfl
  have hend : readLineEnd ('\n' :: t) = some t := rfl
  obtain ⟨c, r, hcons, hc⟩ := htable.exists_cons
  have hbracket : c ≠ '[' := ne_of_test hc (by decide)
  simp only [readDocument, skipSpace_bracket]
  split
  case h_1 heq => cases heq
  case h_2 heq => cases heq
  case h_3 heq =>
    rw [hcons] at heq
    exact absurd (List.cons.inj (List.cons.inj (Option.some.inj heq)).2).1 hbracket
  case h_4 heq =>
    cases heq
    simp only [hname, hgap, hend, hopen, List.nil_append]
  case h_5 hother heq => exact absurd (Option.some.inj heq).symm (hother _)

theorem readDocument_setting {key : String} (hkey : IsBareKey key) {n : Nat} (hn : n ≤ maxInteger)
    {header : List String} {root assigned : Entries}
    (hassign : assignUnder header [] key (.integer n) root = some assigned) (k : Nat)
    (t : List Char) :
    readDocument (k + 1) header root
        (key.toList ++ ' ' :: '=' :: ' ' :: (Nat.toDigits 10 n ++ '\n' :: t)) =
      readDocument k header assigned t := by
  have hpair := readPair_setting hkey hn t
  have hend : readLineEnd ('\n' :: t) = some t := rfl
  obtain ⟨c, r, hcons, hc⟩ := hkey.exists_cons
  have hbracket : c ≠ '[' := ne_of_test hc (by decide)
  rw [hcons, List.cons_append] at hpair ⊢
  simp only [readDocument, skipSpace_bare hc]
  split
  case h_1 heq => cases heq
  case h_2 heq => cases heq
  case h_3 heq => exact absurd (List.cons.inj (Option.some.inj heq)).1 hbracket
  case h_4 heq => exact absurd (List.cons.inj (Option.some.inj heq)).1 hbracket
  case h_5 heq =>
    cases heq
    simp only [hpair, hend, hassign]

def settingText (table key : String) (n : Nat) : String :=
  "[" ++ table ++ "]\n" ++ key ++ " = " ++ toString n ++ "\n"

theorem toList_settingText (table key : String) (n : Nat) :
    (settingText table key n).toList =
      '[' :: (table.toList ++ ']' :: '\n' :: (key.toList ++ ' ' :: '=' :: ' ' ::
        (Nat.toDigits 10 n ++ ['\n']))) := by
  simp [settingText, toString, Nat.repr]

theorem assignUnder_opened (table key : String) (v : Value) :
    assignUnder [table] [] key v [(table, .table .header [])] =
      some [(table, .table .header [(key, v)])] := by
  simp [assignUnder, edit, lookupEntry, Form.admits, assign, insertNew, putEntry]

theorem parse_settingText {table key : String} (htable : IsBareKey table) (hkey : IsBareKey key)
    {n : Nat} (hn : n ≤ maxInteger) :
    parse (settingText table key n) = some [(table, .table .header [(key, .integer n)])] := by
  have hopen : openTable [] table [] = some [(table, .table .header [])] := rfl
  obtain ⟨k, hk⟩ : ∃ k, (settingText table key n).toList.length + 1 = k + 3 := by
    refine ⟨(settingText table key n).toList.length - 2, ?_⟩
    simp only [toList_settingText, List.length_cons, List.length_append]
    omega
  have hmark : ¬ (settingText table key n).toList.head? = some byteOrderMark := by
    rw [toList_settingText]
    simp only [List.head?_cons]
    decide
  simp only [parse, if_neg hmark, hk]
  rw [toList_settingText, readDocument_header htable hopen,
    readDocument_setting hkey hn (assignUnder_opened table key _)]
  rfl

end Documents

end SourceDigest.Toml
