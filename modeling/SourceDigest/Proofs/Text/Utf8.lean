import SourceDigest.Text.Utf8

namespace SourceDigest.Text.Utf8

theorem toNat_ofNat {n : Nat} (h : n < 256) : (UInt8.ofNat n).toNat = n := by
  rw [UInt8.toNat_ofNat']
  omega

theorem continuation_tail {n lo hi good acc k : Nat} {s : List UInt8} (hk : k < 64)
    (hlo : lo ≤ k + 0x80) (hhi : k + 0x80 ≤ hi) :
    continuation (n + 1) lo hi good acc (UInt8.ofNat (k + 0x80) :: s) =
      continuation n 0x80 0xbf (good + 1) (acc * 0x40 + k) s := by
  simp only [continuation, toNat_ofNat (show k + 0x80 < 256 by omega)]
  rw [if_pos (by simp [hlo, hhi]), Nat.add_sub_cancel]

theorem character_of_following {b n lo hi : Nat} {s : List UInt8} (hb : 0x80 ≤ b) (hb' : b < 256)
    (h : following? b = some (n, lo, hi)) :
    character (UInt8.ofNat b) s = continuation n lo hi 1 (leading b) s := by
  unfold character
  rw [toNat_ofNat hb', if_neg (by omega), h]

theorem first_of_two : ∀ k < 32, 2 ≤ k →
    following? (k + 0xc0) = some (1, 0x80, 0xbf) ∧ leading (k + 0xc0) = k := by
  decide

theorem first_of_three : ∀ k < 16,
    following? (k + 0xe0) =
      some (2, if k = 0 then 0xa0 else 0x80, if k = 13 then 0x9f else 0xbf) ∧
    leading (k + 0xe0) = k := by
  decide

theorem first_of_four : ∀ k < 5,
    following? (k + 0xf0) =
      some (3, if k = 0 then 0x90 else 0x80, if k = 4 then 0x8f else 0xbf) ∧
    leading (k + 0xf0) = k := by
  decide

theorem character_encode (c : Char) (s : List UInt8) :
    ∃ b t, String.utf8EncodeChar c = b :: t ∧ character b (t ++ s) = .ok (c.toNat, s) := by
  have hvalid : c.toNat < 0xd800 ∨ 0xdfff < c.toNat ∧ c.toNat < 0x110000 := c.valid
  have hval : c.val.toNat = c.toNat := rfl
  unfold String.utf8EncodeChar
  simp only [hval]
  generalize c.toNat = n at *
  split
  · refine ⟨_, _, rfl, ?_⟩
    unfold character
    rw [toNat_ofNat (by omega), if_pos (by omega)]
    rfl
  split
  · obtain ⟨hfirst, hlead⟩ := first_of_two (n / 64 % 32) (by omega) (by omega)
    refine ⟨_, _, rfl, ?_⟩
    rw [character_of_following (by omega) (by omega) hfirst, hlead, List.cons_append,
      continuation_tail (by omega) (by omega) (by omega)]
    simp only [continuation, List.nil_append]
    exact congrArg (fun m => Except.ok (m, s)) (by omega)
  split
  · obtain ⟨hfirst, hlead⟩ := first_of_three (n / 4096 % 16) (by omega)
    refine ⟨_, _, rfl, ?_⟩
    rw [character_of_following (by omega) (by omega) hfirst, hlead, List.cons_append,
      continuation_tail (by omega) (by split <;> omega) (by split <;> omega), List.cons_append,
      continuation_tail (by omega) (by omega) (by omega)]
    simp only [continuation, List.nil_append]
    exact congrArg (fun m => Except.ok (m, s)) (by omega)
  · obtain ⟨hfirst, hlead⟩ := first_of_four (n / 262144 % 8) (by omega)
    refine ⟨_, _, rfl, ?_⟩
    rw [character_of_following (by omega) (by omega) hfirst, hlead, List.cons_append,
      continuation_tail (by omega) (by split <;> omega) (by split <;> omega), List.cons_append,
      continuation_tail (by omega) (by omega) (by omega), List.cons_append,
      continuation_tail (by omega) (by omega) (by omega)]
    simp only [continuation, List.nil_append]
    exact congrArg (fun m => Except.ok (m, s)) (by omega)

theorem decodeLossyFrom_encode {fuel : Nat} {cs : List Char}
    (h : (cs.flatMap String.utf8EncodeChar).length ≤ fuel) :
    decodeLossyFrom fuel (cs.flatMap String.utf8EncodeChar) = cs := by
  induction cs generalizing fuel with
  | nil => cases fuel <;> rfl
  | cons c cs ih =>
    obtain ⟨b, t, hc, hread⟩ := character_encode c (cs.flatMap String.utf8EncodeChar)
    rw [List.flatMap_cons, hc, List.cons_append] at h ⊢
    cases fuel with
    | zero => cases h
    | succ fuel =>
      simp only [List.length_cons, List.length_append] at h
      rw [decodeLossyFrom, hread]
      simp only [Char.ofNat_toNat]
      rw [ih (by omega)]

theorem decodeLossy_encode (s : String) : decodeLossy (encode s) = s := by
  rw [decodeLossy, encode, decodeLossyFrom_encode (Nat.le_refl _), String.ofList_toList]

theorem decodeFrom_encode {fuel index : Nat} {cs : List Char}
    (h : (cs.flatMap String.utf8EncodeChar).length ≤ fuel) :
    decodeFrom fuel index (cs.flatMap String.utf8EncodeChar) = .ok cs := by
  induction cs generalizing fuel index with
  | nil => cases fuel <;> rfl
  | cons c cs ih =>
    obtain ⟨b, t, hc, hread⟩ := character_encode c (cs.flatMap String.utf8EncodeChar)
    rw [List.flatMap_cons, hc, List.cons_append] at h ⊢
    cases fuel with
    | zero => cases h
    | succ fuel =>
      simp only [List.length_cons, List.length_append] at h
      rw [decodeFrom, hread]
      simp only [Char.ofNat_toNat]
      rw [ih (by omega)]

theorem decode_encode (s : String) : decode (encode s) = .ok s := by
  rw [decode, encode, decodeFrom_encode (Nat.le_refl _)]
  exact congrArg Except.ok String.ofList_toList

theorem exists_of_continuation {n lo hi good acc : Nat} {s rest : List UInt8} {m : Nat}
    (h : continuation (n + 1) lo hi good acc s = .ok (m, rest)) :
    ∃ x t, s = x :: t ∧ lo ≤ x.toNat ∧ x.toNat ≤ hi ∧
      continuation n 0x80 0xbf (good + 1) (acc * 0x40 + (x.toNat - 0x80)) t = .ok (m, rest) := by
  cases s with
  | nil => cases h
  | cons x t =>
    simp only [continuation] at h
    split at h
    · rename_i hx
      simp only [Bool.and_eq_true, decide_eq_true_eq] at hx
      exact ⟨x, t, rfl, hx.1, hx.2, h⟩
    · cases h

theorem eq_of_continuation_zero {lo hi good acc m : Nat} {s rest : List UInt8}
    (h : continuation 0 lo hi good acc s = .ok (m, rest)) : acc = m ∧ s = rest := by
  simpa only [continuation, Except.ok.injEq, Prod.mk.injEq] using h

theorem eq_ofNat {x : UInt8} {n : Nat} (h : x.toNat = n) : x = UInt8.ofNat n := by
  rw [← h, UInt8.ofNat_toNat]

theorem toNat_charOfNat {n : Nat} (h : n < 0xd800 ∨ 0xdfff < n ∧ n < 0x110000) :
    (Char.ofNat n).val.toNat = n := by
  rw [Char.ofNat, dif_pos h]
  rfl

theorem following?_cases : ∀ b < 256, ∀ r ∈ following? b,
    (r = (1, 0x80, 0xbf) ∧ 0xc2 ≤ b ∧ b < 0xe0) ∨
    (r = (2, if b = 0xe0 then 0xa0 else 0x80, if b = 0xed then 0x9f else 0xbf) ∧
      0xe0 ≤ b ∧ b < 0xf0) ∨
    (r = (3, if b = 0xf0 then 0x90 else 0x80, if b = 0xf4 then 0x8f else 0xbf) ∧
      0xf0 ≤ b ∧ b < 0xf5) := by
  decide +kernel

theorem encode_two {b x : UInt8} {n : Nat} (hb : 0xc2 ≤ b.toNat) (hb' : b.toNat < 0xe0)
    (hx : 0x80 ≤ x.toNat) (hx' : x.toNat ≤ 0xbf)
    (hn : leading b.toNat * 0x40 + (x.toNat - 0x80) = n) :
    String.utf8EncodeChar (Char.ofNat n) = [b, x] := by
  have hlead : leading b.toNat = b.toNat - 0xc0 := by
    unfold leading
    rw [if_pos hb']
  unfold String.utf8EncodeChar
  simp only [toNat_charOfNat (n := n) (by omega)]
  rw [if_neg (by omega), if_pos (by omega), ← @eq_ofNat b _ (by omega), ← @eq_ofNat x _ (by omega)]

theorem encode_three {b x y : UInt8} {n : Nat} (hb : 0xe0 ≤ b.toNat) (hb' : b.toNat < 0xf0)
    (hx : (if b.toNat = 0xe0 then 0xa0 else 0x80) ≤ x.toNat)
    (hx' : x.toNat ≤ if b.toNat = 0xed then 0x9f else 0xbf) (hy : 0x80 ≤ y.toNat)
    (hy' : y.toNat ≤ 0xbf)
    (hn : (leading b.toNat * 0x40 + (x.toNat - 0x80)) * 0x40 + (y.toNat - 0x80) = n) :
    String.utf8EncodeChar (Char.ofNat n) = [b, x, y] := by
  have hlead : leading b.toNat = b.toNat - 0xe0 := by
    unfold leading
    rw [if_neg (by omega), if_pos hb']
  have hsecond : 0x80 ≤ x.toNat ∧ x.toNat ≤ 0xbf ∧ (b.toNat = 0xe0 → 0xa0 ≤ x.toNat) ∧
      (b.toNat = 0xed → x.toNat ≤ 0x9f) := by
    split at hx <;> split at hx' <;> omega
  clear hx hx'
  unfold String.utf8EncodeChar
  simp only [toNat_charOfNat (n := n) (by omega)]
  rw [if_neg (by omega), if_neg (by omega), if_pos (by omega), ← @eq_ofNat b _ (by omega),
    ← @eq_ofNat x _ (by omega), ← @eq_ofNat y _ (by omega)]

theorem encode_four {b x y z : UInt8} {n : Nat} (hb : 0xf0 ≤ b.toNat) (hb' : b.toNat < 0xf5)
    (hx : (if b.toNat = 0xf0 then 0x90 else 0x80) ≤ x.toNat)
    (hx' : x.toNat ≤ if b.toNat = 0xf4 then 0x8f else 0xbf) (hy : 0x80 ≤ y.toNat)
    (hy' : y.toNat ≤ 0xbf) (hz : 0x80 ≤ z.toNat) (hz' : z.toNat ≤ 0xbf)
    (hn : ((leading b.toNat * 0x40 + (x.toNat - 0x80)) * 0x40 + (y.toNat - 0x80)) * 0x40 +
      (z.toNat - 0x80) = n) :
    String.utf8EncodeChar (Char.ofNat n) = [b, x, y, z] := by
  have hlead : leading b.toNat = b.toNat - 0xf0 := by
    unfold leading
    rw [if_neg (by omega), if_neg (by omega)]
  have hsecond : 0x80 ≤ x.toNat ∧ x.toNat ≤ 0xbf ∧ (b.toNat = 0xf0 → 0x90 ≤ x.toNat) ∧
      (b.toNat = 0xf4 → x.toNat ≤ 0x8f) := by
    split at hx <;> split at hx' <;> omega
  clear hx hx'
  unfold String.utf8EncodeChar
  simp only [toNat_charOfNat (n := n) (by omega)]
  rw [if_neg (by omega), if_neg (by omega), if_neg (by omega), ← @eq_ofNat b _ (by omega),
    ← @eq_ofNat x _ (by omega), ← @eq_ofNat y _ (by omega), ← @eq_ofNat z _ (by omega)]

theorem encode_ascii {b : UInt8} (hb : b.toNat < 0x80) :
    String.utf8EncodeChar (Char.ofNat b.toNat) = [b] := by
  unfold String.utf8EncodeChar
  simp only [toNat_charOfNat (n := b.toNat) (by omega)]
  rw [if_pos (by omega), ← eq_ofNat rfl]

theorem encode_character {b : UInt8} {s rest : List UInt8} {n : Nat}
    (h : character b s = .ok (n, rest)) :
    b :: s = String.utf8EncodeChar (Char.ofNat n) ++ rest := by
  unfold character at h
  split at h
  · rename_i hb
    cases h
    rw [encode_ascii hb]
    rfl
  split at h
  · cases h
  rename_i hf
  obtain ⟨hr, hb, hb'⟩ | ⟨hr, hb, hb'⟩ | ⟨hr, hb, hb'⟩ :=
    following?_cases b.toNat b.toNat_lt _ hf
  · cases hr
    obtain ⟨x, t, rfl, hx, hx', h⟩ := exists_of_continuation h
    obtain ⟨hn, rfl⟩ := eq_of_continuation_zero h
    rw [encode_two hb hb' hx hx' hn]
    rfl
  · cases hr
    obtain ⟨x, t, rfl, hx, hx', h⟩ := exists_of_continuation h
    obtain ⟨y, t, rfl, hy, hy', h⟩ := exists_of_continuation h
    obtain ⟨hn, rfl⟩ := eq_of_continuation_zero h
    rw [encode_three hb hb' hx hx' hy hy' hn]
    rfl
  · cases hr
    obtain ⟨x, t, rfl, hx, hx', h⟩ := exists_of_continuation h
    obtain ⟨y, t, rfl, hy, hy', h⟩ := exists_of_continuation h
    obtain ⟨z, t, rfl, hz, hz', h⟩ := exists_of_continuation h
    obtain ⟨hn, rfl⟩ := eq_of_continuation_zero h
    rw [encode_four hb hb' hx hx' hy hy' hz hz' hn]
    rfl

theorem encode_decodeFrom {fuel index : Nat} {s : List UInt8} {cs : List Char}
    (h : decodeFrom fuel index s = .ok cs) : cs.flatMap String.utf8EncodeChar = s := by
  induction fuel generalizing index s cs with
  | zero =>
    cases s with
    | nil => cases h; rfl
    | cons b s => cases h
  | succ fuel ih =>
    cases s with
    | nil => cases h; rfl
    | cons b s =>
      simp only [decodeFrom] at h
      split at h
      · cases h
      · rename_i n rest hread
        have hs := encode_character hread
        split at h
        · cases h
        · rename_i cs' hrest
          cases h
          rw [List.flatMap_cons, ih hrest, hs]

theorem decode_eq_ok_iff {bytes : List UInt8} {s : String} :
    decode bytes = .ok s ↔ encode s = bytes := by
  constructor
  · intro h
    unfold decode at h
    cases hcs : decodeFrom bytes.length 0 bytes with
    | error e => rw [hcs] at h; cases h
    | ok cs =>
      rw [hcs] at h
      cases h
      rw [encode, String.toList_ofList, encode_decodeFrom hcs]
  · rintro rfl
    exact decode_encode s

theorem decode?_eq_some_iff {bytes : List UInt8} {s : String} :
    decode? bytes = some s ↔ encode s = bytes := by
  rw [← decode_eq_ok_iff]
  unfold decode?
  cases decode bytes <;> simp [Except.toOption]

theorem encode_injective {s t : String} (h : encode s = encode t) : s = t := by
  rw [← decodeLossy_encode s, h, decodeLossy_encode]

theorem encode_append (s t : String) : encode (s ++ t) = encode s ++ encode t := by
  rw [encode, String.toList_append, List.flatMap_append]
  rfl

theorem encode_eq_nil_iff {s : String} : encode s = [] ↔ s = "" :=
  ⟨fun h => encode_injective (h.trans rfl), fun h => h ▸ rfl⟩

theorem mem_utf8EncodeChar_iff {b : UInt8} (hb : b.toNat < 0x80) {c : Char} :
    b ∈ String.utf8EncodeChar c ↔ c.toNat = b.toNat := by
  have hval : c.val.toNat = c.toNat := rfl
  unfold String.utf8EncodeChar
  simp only [hval]
  have hne {k : Nat} (hk : 0x80 ≤ k) (hk' : k < 256) : b ≠ UInt8.ofNat k := by
    rintro rfl
    rw [toNat_ofNat hk'] at hb
    omega
  split
  · rw [List.mem_singleton, ← UInt8.toNat_inj, toNat_ofNat (by omega)]
    exact eq_comm
  all_goals repeat' split
  all_goals
    refine iff_of_false ?_ (by omega)
    simp only [List.mem_cons, List.not_mem_nil, or_false, not_or]
  · exact ⟨hne (by omega) (by omega), hne (by omega) (by omega)⟩
  · exact ⟨hne (by omega) (by omega), hne (by omega) (by omega), hne (by omega) (by omega)⟩
  · exact ⟨hne (by omega) (by omega), hne (by omega) (by omega), hne (by omega) (by omega),
      hne (by omega) (by omega)⟩

theorem mem_encode_iff {b : UInt8} (hb : b.toNat < 0x80) {s : String} :
    b ∈ encode s ↔ ∃ c ∈ s.toList, c.toNat = b.toNat := by
  simp only [encode, List.mem_flatMap, mem_utf8EncodeChar_iff hb]

theorem infix_of_mem_decodeLossyFrom {fuel : Nat} {s : List UInt8} {c : Char}
    (h : c ∈ decodeLossyFrom fuel s) (hc : c ≠ replacement) : String.utf8EncodeChar c <:+: s := by
  induction fuel generalizing s with
  | zero => cases s <;> cases h
  | succ fuel ih =>
    cases s with
    | nil => cases h
    | cons b s =>
      simp only [decodeLossyFrom] at h
      split at h
      · rename_i n rest hread
        have hs := encode_character hread
        rcases List.mem_cons.1 h with rfl | h
        · exact ⟨[], rest, hs.symm⟩
        · exact (ih h).trans (hs ▸ (List.suffix_append _ _).isInfix)
      · rename_i good ended hread
        rcases List.mem_cons.1 h with rfl | h
        · exact absurd rfl hc
        · exact ((ih h).trans (List.drop_suffix _ _).isInfix).trans (List.suffix_cons b s).isInfix

theorem encode_decodeLossyFrom {fuel : Nat} {s : List UInt8} (hfuel : s.length ≤ fuel)
    (h : replacement ∉ decodeLossyFrom fuel s) :
    (decodeLossyFrom fuel s).flatMap String.utf8EncodeChar = s := by
  induction fuel generalizing s with
  | zero =>
    obtain rfl := List.eq_nil_of_length_eq_zero (Nat.le_zero.1 hfuel)
    rfl
  | succ fuel ih =>
    cases s with
    | nil => rfl
    | cons b s =>
      simp only [decodeLossyFrom] at h ⊢
      split at h
      · rename_i n rest hread
        have hs := encode_character hread
        have hlen := congrArg List.length hs
        rw [List.length_append, List.length_cons] at hlen
        have hpos := List.length_pos_iff.2 (String.utf8EncodeChar_ne_nil (c := Char.ofNat n))
        simp only [List.mem_cons, not_or] at h
        rw [List.flatMap_cons, ih (by rw [List.length_cons] at hfuel; omega) h.2, hs]
      · exact absurd List.mem_cons_self h

theorem encode_decodeLossy {s : List UInt8} (h : replacement ∉ (decodeLossy s).toList) :
    encode (decodeLossy s) = s := by
  rw [decodeLossy, String.toList_ofList] at h
  rw [encode, decodeLossy, String.toList_ofList, encode_decodeLossyFrom (Nat.le_refl _) h]

theorem mem_of_mem_encode_decodeLossy {b : UInt8} (hb : b.toNat < 0x80) {s : List UInt8}
    (h : b ∈ encode (decodeLossy s)) : b ∈ s := by
  obtain ⟨c, hc, hcb⟩ := (mem_encode_iff hb).1 h
  have hne : c ≠ replacement := by
    rintro rfl
    rw [← hcb] at hb
    exact absurd hb (by decide)
  rw [decodeLossy, String.toList_ofList] at hc
  exact (infix_of_mem_decodeLossyFrom hc hne).subset ((mem_utf8EncodeChar_iff hb).2 hcb)

end SourceDigest.Text.Utf8
