import SourceDigest.Proofs.Json.Equality
import SourceDigest.Proofs.Reply.Written

namespace SourceDigest.Reply

open Text (isBlank)

def Lexical.Quiet (l : Lexical) (c : Char) : Prop := l = .outside → c ≠ ',' ∧ isOpening c = false

instance (l : Lexical) (c : Char) : Decidable (l.Quiet c) :=
  inferInstanceAs (Decidable (l = .outside → c ≠ ',' ∧ isOpening c = false))

inductive Conserves (c out : List Char) : Prop
  | plain (finishes : Finishes c out)
  | string {t ks : List Char} (inString : Lexical.outside.run c = .inString) (trims : Trims c t)
    (closing : ∀ k ∈ ks, isClosingBracket k = true) (result : out = t ++ '"' :: ks)
  | backslash {s t ks : List Char} (text : c = s ++ ['\\'])
    (escaped : Lexical.outside.run c = .escaped) (trims : Trims s t)
    (closing : ∀ k ∈ ks, isClosingBracket k = true) (result : out = t ++ '"' :: ks)
  | key {s k x : List Char} (text : c = s ++ (k ++ ':' :: x))
    (outside : Lexical.outside.run s = .outside) (quiet : Passes Lexical.Quiet .outside k)
    (commas : ∀ c ∈ x, c = ',' ∨ isBlank c = true) (finishes : Finishes s out)

def OneComma (x : List Char) : Prop :=
  (∀ c ∈ x, isBlank c = true) ∨
    ∃ b b', x = b ++ ',' :: b' ∧ (∀ c ∈ b, isBlank c = true) ∧ ∀ c ∈ b', isBlank c = true

/-- A text that ends in a colon, but for blanks and one comma. Its last string begins behind `p`, and
`m` is what stands between the opening quote and the colon. -/
structure Dangling (c p m : List Char) : Prop where
  text : ∃ x, c = p ++ '"' :: (m ++ ':' :: x) ∧ OneComma x
  outside : Lexical.outside.run p = .outside
  last : Along Lexical.Stays .inString m
  closed : Lexical.inString.run m = .outside

section Repairing

variable {c : List Char}

def Scan.EndsInColon (σ : Scan) : Prop :=
  σ.lexical = .outside ∧ ((dropComma σ.written).dropWhile isBlank).head? = some ':'

theorem repair_of_colon (h : (Scan.start.run c).EndsInColon) :
    repair c = (Scan.closeBrackets (Scan.start.run c).closers
      (dropComma (Scan.start.run c).beforeString)).reverse := by
  obtain ⟨houtside, hcolon⟩ := h
  rw [repair, Scan.finish, Scan.closeString, houtside]
  show (Scan.closeBrackets _ (Scan.dropKey _ (dropComma (Scan.start.run c).written))).reverse = _
  rw [Scan.dropKey, if_pos hcolon]

theorem exists_backslash (h : Lexical.outside.run c = .escaped) :
    ∃ s, c = s ++ ['\\'] ∧ (Scan.start.run c).written = '\\' :: (Scan.start.run s).written := by
  rcases List.eq_nil_or_concat' c with rfl | ⟨s, d, rfl⟩
  · cases h
  · have hd : d = '\\' := by
      rw [Lexical.run_append] at h
      change (Lexical.outside.run s).step d = .escaped at h
      cases hs : Lexical.outside.run s <;> rw [hs] at h <;> simp only [Lexical.step] at h
      · split at h <;> cases h
      · by_contra hne
        rw [if_neg hne] at h
        split at h <;> cases h
      · cases h
    subst hd
    refine ⟨s, rfl, ?_⟩
    rw [run_concat, written_step, if_neg fun hclose => absurd hclose.2 (by decide)]

theorem conserves_of_not_colon (h : ¬ (Scan.start.run c).EndsInColon) : Conserves c (repair c) := by
  have htrims := trims_run c
  have hclosing := closing_run c
  have hlexical := lexical_start c
  have hquote : ∀ u, Firm ('"' :: u) := firm_cons (by decide) (by decide) (by decide)
  rw [repair, Scan.finish_eq]
  rcases hσ : Scan.start.run c with ⟨w, ks, l, b⟩
  rw [hσ] at h htrims hclosing hlexical
  cases l with
  | outside =>
    have hkey : Scan.dropKey b (dropComma w) = dropComma w := if_neg fun hcolon => h ⟨rfl, hcolon⟩
    show Conserves c (Scan.closeBrackets ks (Scan.dropKey b (dropComma w))).reverse
    rw [hkey]
    exact Conserves.plain (finishes_closeBrackets hclosing htrims)
  | inString =>
    have hresult : Scan.completed ⟨w, ks, .inString, b⟩ = '"' :: w :=
      Scan.completed_of_firm (hquote w)
    rw [hresult, closeBrackets_of_firm hclosing (hquote w)]
    refine Conserves.string hlexical.symm htrims hclosing ?_
    simp
  | escaped =>
    have hresult : Scan.completed ⟨w, ks, .escaped, b⟩ = '"' :: w.tail :=
      Scan.completed_of_firm (hquote w.tail)
    rw [hresult, closeBrackets_of_firm hclosing (hquote w.tail)]
    obtain ⟨s, hc, hwritten⟩ := exists_backslash hlexical.symm
    rw [hσ] at hwritten
    obtain rfl : w = _ := hwritten
    refine Conserves.backslash hc hlexical.symm (trims_run s) hclosing ?_
    simp

end Repairing

section Dangling

variable {c p m x : List Char}

theorem OneComma.each (h : OneComma x) : ∀ d ∈ x, d = ',' ∨ isBlank d = true := by
  intro d hd
  rcases h with hb | ⟨b, b', rfl, hb, hb'⟩
  · exact Or.inr (hb d hd)
  · rcases List.mem_append.1 hd with hd | hd
    · exact Or.inr (hb d hd)
    · exact (List.mem_cons.1 hd).imp id (hb' d)

theorem OneComma.colon (h : OneComma x) :
    ∀ d ∈ ':' :: x, d ≠ '"' ∧ isClosingBracket d = false := by
  intro d hd
  rcases List.mem_cons.1 hd with rfl | hd
  · decide
  · exact ⟨ne_quote_of_comma_or_blank (h.each d hd),
      isClosingBracket_of_comma_or_blank (h.each d hd)⟩

theorem dropComma_colon (h : OneComma x) (w : List Char) :
    ((dropComma ((':' :: x).reverse ++ w)).dropWhile isBlank).head? = some ':' := by
  have hcolon : ∀ {b : List Char}, (∀ c ∈ b, isBlank c = true) →
      (b.reverse ++ ':' :: w).dropWhile isBlank = ':' :: w := by
    intro b hb
    rw [List.dropWhile_append_of_pos (Text.reverse_isBlank hb), List.dropWhile_cons_of_neg (by decide)]
  rcases h with hb | ⟨b, b', rfl, hb, hb'⟩
  · have hdrop : dropComma (x.reverse ++ ':' :: w) = x.reverse ++ ':' :: w := by
      rw [dropComma, hcolon hb]
      rfl
    rw [List.reverse_cons, List.append_assoc, List.singleton_append, hdrop, hcolon hb]
    rfl
  · have hdrop := dropComma_comma (Text.reverse_isBlank hb') (b.reverse ++ ':' :: w)
    have hsplit : (':' :: (b ++ ',' :: b')).reverse ++ w =
        b'.reverse ++ ',' :: (b.reverse ++ ':' :: w) := by simp
    rw [hsplit, hdrop, hcolon hb]
    rfl

theorem Dangling.endsInColon (h : Dangling c p m) : (Scan.start.run c).EndsInColon := by
  obtain ⟨x, rfl, hx⟩ := h.text
  have hsplit : p ++ '"' :: (m ++ ':' :: x) = (p ++ '"' :: m) ++ ':' :: x := by simp
  have hclosed : Lexical.outside.run (p ++ '"' :: m) = .outside := by
    rw [Lexical.run_append, h.outside]
    exact h.closed
  rw [hsplit]
  constructor
  · rw [lexical_start, Lexical.run_append]
    exact (run_eq_outside_iff fun d hd => (hx.colon d hd).1).2 hclosed
  · rw [Scan.run_append, written_run fun d hd => (hx.colon d hd).2]
    exact dropComma_colon hx _

theorem Dangling.finishes (h : Dangling c p m) : Finishes p (repair c) := by
  rw [repair_of_colon h.endsInColon]
  obtain ⟨x, rfl, hx⟩ := h.text
  have hlast : Along Lexical.Stays .inString (m ++ ':' :: x) :=
    along_append.2 ⟨h.last, along_stays fun d hd => (hx.colon d hd).1⟩
  rw [beforeString_of_last h.outside hlast]
  exact finishes_closeBrackets (closing_run _) (trims_run p)

theorem exists_colon {w : List Char} (h : ((dropComma w).dropWhile isBlank).head? = some ':') :
    ∃ t x, w.reverse = t ++ ':' :: x ∧ OneComma x := by
  obtain ⟨r, hr⟩ := List.head?_eq_some_iff.1 h
  have hb : ∀ c ∈ (dropComma w).takeWhile isBlank, isBlank c = true :=
    fun c hc => List.all_eq_true.1 List.all_takeWhile c hc
  have hsplit : dropComma w = (dropComma w).takeWhile isBlank ++ ':' :: r := by
    rw [← hr, List.takeWhile_append_dropWhile]
  have hback := Text.reverse_isBlank hb
  refine ⟨r.reverse, ?_⟩
  rcases dropComma_cases w with hdrop | ⟨b, hb', hw⟩
  · refine ⟨((dropComma w).takeWhile isBlank).reverse, ?_, Or.inl hback⟩
    conv_lhs => rw [← hdrop, hsplit]
    simp
  · refine ⟨((dropComma w).takeWhile isBlank).reverse ++ ',' :: b.reverse, ?_,
      Or.inr ⟨_, _, rfl, hback, Text.reverse_isBlank hb'⟩⟩
    conv_lhs => rw [hw, hsplit]
    simp

theorem exists_last_string (s : List Char) : Along Lexical.Stays .outside s ∨
    ∃ p m, s = p ++ '"' :: m ∧ Lexical.outside.run p = .outside ∧ Along Lexical.Stays .inString m := by
  induction s using List.reverseRecOn with
  | nil => exact Or.inl trivial
  | append_singleton s c ih =>
    by_cases hc : Lexical.outside.run s = .outside ∧ c = '"'
    · exact Or.inr ⟨s, [], by rw [hc.2], hc.1, trivial⟩
    · have hstays : Lexical.Stays (Lexical.outside.run s) c := fun hl hquote => hc ⟨hl, hquote⟩
      rcases ih with ih | ⟨p, m, rfl, hp, hm⟩
      · exact Or.inl (along_append.2 ⟨ih, hstays, trivial⟩)
      · rw [Lexical.run_append, hp] at hstays
        exact Or.inr ⟨p, m ++ [c], by simp, hp, along_append.2 ⟨hm, hstays, trivial⟩⟩

theorem exists_dangling (h : (Scan.start.run c).EndsInColon) :
    (Scan.start.run c).beforeString = [] ∨ ∃ p m, Dangling c p m := by
  obtain ⟨hlexical, hcolon⟩ := h
  obtain ⟨t, x, hwritten, hx⟩ := exists_colon hcolon
  have htrims := trims_run c
  rw [hwritten] at htrims
  obtain ⟨s, rfl, -⟩ := htrims.exists_of_append fun d hd => (hx.colon d hd).2
  have hquote : ∀ d ∈ ':' :: x, d ≠ '"' := fun d hd => (hx.colon d hd).1
  have hs : Lexical.outside.run s = .outside := by
    rw [lexical_start, Lexical.run_append] at hlexical
    exact (run_eq_outside_iff hquote).1 hlexical
  rcases exists_last_string s with hnone | ⟨p, m, rfl, hp, hm⟩
  · left
    have hstays : Along Lexical.Stays .outside (s ++ ':' :: x) :=
      along_append.2 ⟨hnone, along_stays hquote⟩
    exact beforeString_run hstays
  · right
    rw [Lexical.run_append, hp] at hs
    exact ⟨p, m, ⟨x, by simp, hx⟩, hp, hm, hs⟩

theorem not_json_of_closing {ks : List Char} (hks : ∀ k ∈ ks, isClosingBracket k = true)
    {v : Json.Value} : Json.parse ks ≠ .ok v := by
  intro h
  obtain ⟨lead, trail, doc, rfl, -⟩ := Json.exists_lays_of_parse h
  obtain ⟨c, t, ht, -, hcloser⟩ := doc.text_head
  have hclose : isClosingBracket c = true := hks c (by simp [ht])
  simp only [isClosingBracket, Bool.or_eq_true, beq_iff_eq] at hclose
  rcases hclose with rfl | rfl
  · exact hcloser .curly rfl
  · exact hcloser .square rfl

theorem conserves_of_quiet {v : Json.Value} (h : Json.parse (repair c) = .ok v)
    (hquiet : ∀ p m, Dangling c p m → Along Lexical.Quiet .inString m) : Conserves c (repair c) := by
  by_cases hcolon : (Scan.start.run c).EndsInColon
  · rcases exists_dangling hcolon with hnone | ⟨p, m, hdangling⟩
    · -- nothing would be left but the brackets that close
      obtain ⟨t, x, -, hnil, hclose⟩ := exists_closeBrackets (closing_run c) []
      obtain ⟨rfl, -⟩ := List.append_eq_nil_iff.1 hnil.symm
      rw [repair_of_colon hcolon, hnone, show dropComma [] = [] from rfl, hclose] at h
      exact absurd h (not_json_of_closing (closing_run c))
    · obtain ⟨x, rfl, hx⟩ := hdangling.text
      refine Conserves.key (k := '"' :: m) rfl hdangling.outside ⟨⟨?_, ?_⟩, hdangling.closed⟩ hx.each
        hdangling.finishes
      · exact fun _ => by decide
      · exact hquiet p m hdangling
  · exact conserves_of_not_colon hcolon

theorem append_colon_inj {a a' x x' : List Char} (h : a ++ ':' :: x = a' ++ ':' :: x')
    (hx : ':' ∉ x) (hx' : ':' ∉ x') : a = a' := by
  rcases start_or_longer h with ⟨y, rfl⟩ | ⟨d, y, -, hy⟩
  · rcases start_or_longer h.symm with hstart | ⟨d, z, -, hz⟩
    · exact (List.prefix_append a y).eq_of_length_le hstart.length_le
    · obtain ⟨-, rfl⟩ := List.cons.inj hz
      exact absurd (List.mem_append_right z List.mem_cons_self) hx
  · obtain ⟨-, rfl⟩ := List.cons.inj hy
    exact absurd (List.mem_append_right y List.mem_cons_self) hx'

theorem Dangling.not_conserves {out : List Char} (h : Dangling c p m)
    (hloud : ¬ Along Lexical.Quiet .inString m) (hfinishes : Finishes p out) :
    ¬ Conserves c out := by
  have hout := hfinishes.count_quote
  obtain ⟨x, htext, hx⟩ := h.text
  have hcount : c.count '"' = p.count '"' + (1 + (m ++ ':' :: x).count '"') := by
    rw [htext, List.count_append, List.count_cons_self, Nat.add_comm 1]
  intro hconserves
  cases hconserves with
  | plain hplain =>
    have hsame := hplain.count_quote
    omega
  | string inString trims closing result =>
    rw [result, List.count_append, trims.count_quote, List.count_cons_self] at hout
    omega
  | @backslash s t ks text escaped trims closing result =>
    rw [result, List.count_append, trims.count_quote, List.count_cons_self] at hout
    rw [text, List.count_append, show List.count '"' ['\\'] = 0 from rfl] at hcount
    omega
  | @key s k y text outside quiet commas finishes =>
    have hsame := finishes.count_quote
    rw [htext] at text
    -- no quote of the string is in `s`, so that the key begins in `p` or where it ends
    obtain ⟨q, rfl⟩ : s <+: p := by
      rcases start_or_longer text.symm with hstart | ⟨d, y, rfl, hq⟩
      · exact hstart
      · obtain ⟨rfl, -⟩ := List.cons.inj hq
        rw [List.count_append, List.count_cons_self] at hsame
        omega
    have hq : k ++ ':' :: y = q ++ '"' :: (m ++ ':' :: x) := by
      rw [List.append_assoc] at text
      exact (List.append_cancel_left text).symm
    have hnot : ∀ {z : List Char}, (∀ d ∈ z, d = ',' ∨ isBlank d = true) → ':' ∉ z := by
      intro z hz hmem
      exact absurd (hz _ hmem) (by decide)
    rw [← List.cons_append, ← List.append_assoc] at hq
    obtain rfl := append_colon_inj hq (hnot commas) (hnot hx.each)
    have hstart : Lexical.outside.run q = .outside := by
      have houtside := h.outside
      rwa [Lexical.run_append, outside] at houtside
    have halong := (along_append.1 quiet.along).2
    rw [hstart] at halong
    exact hloud halong.2

end Dangling

theorem Conserves.exists_of_comma {c out r s : List Char} (h : Conserves c out) (hc : c = s ++ ',' :: r)
    (hs : Lexical.outside.run s = .outside) (hfirm : Firm s.reverse) :
    ∃ t, Trims s t ∧ t <+: out := by
  have hstart : s <+: c := ⟨',' :: r, hc.symm⟩
  cases h with
  | plain finishes => exact finishes.exists_of_start hstart hfirm
  | @string t ks inString trims closing result =>
    obtain ⟨t', ht', ht⟩ := trims.exists_of_start hstart hfirm
    exact ⟨t', ht', result ▸ ht.trans (List.prefix_append t _)⟩
  | @backslash u t ks text escaped trims closing result =>
    have hu : s <+: u := by
      rw [text] at hstart
      rcases List.prefix_concat_iff.1 hstart with rfl | hu
      · rw [text] at hc
        simp at hc
      · exact hu
    obtain ⟨t', ht', ht⟩ := trims.exists_of_start hu hfirm
    exact ⟨t', ht', result ▸ ht.trans (List.prefix_append t _)⟩
  | @key u k x text outside quiet commas finishes =>
    rw [text] at hc
    rcases start_or_longer hc.symm with hstart | ⟨d, q, rfl, hq⟩
    · exact finishes.exists_of_start hstart hfirm
    · -- the comma would stand in the key, or behind the colon
      rw [Lexical.run_append, outside] at hs
      rcases start_or_longer (s := d :: q) hq.symm with ⟨y, rfl⟩ | ⟨d', y, hlonger, hx⟩
      · rw [List.append_assoc] at hq
        have hrest : y ++ ':' :: x = ',' :: r := List.append_cancel_left hq
        cases y with
        | nil => cases hrest
        | cons e y =>
          obtain ⟨rfl, -⟩ := List.cons.inj hrest
          have halong := (along_append.1 quiet.along).2
          rw [hs] at halong
          exact absurd rfl (halong.1 rfl).1
      · obtain ⟨rfl, rfl⟩ := List.cons.inj hx
        rw [hlonger, ← List.append_assoc] at hfirm
        refine absurd hfirm (not_firm (Or.inr rfl) ?_ _)
        exact fun e he => commas e (List.mem_append_left _ he)

theorem repair_conserves_iff {c : List Char} {v : Json.Value} (h : Json.parse (repair c) = .ok v) :
    (Conserves c (repair c) ↔ ∀ p m, Dangling c p m → Along Lexical.Quiet .inString m) ∧
      (∀ p m, Dangling c p m → Finishes p (repair c)) ∧
      (Conserves c (repair c) → ∀ s r, c = s ++ ',' :: r → Lexical.outside.run s = .outside →
        Firm s.reverse → ∃ t, Trims s t ∧ t <+: repair c) := by
  refine ⟨⟨?_, conserves_of_quiet h⟩, fun p m hdangling => hdangling.finishes, ?_⟩
  · intro hconserves p m hdangling
    by_contra hloud
    exact hdangling.not_conserves hloud hdangling.finishes hconserves
  · intro hconserves s r hc hs hfirm
    exact hconserves.exists_of_comma hc hs hfirm

def openList : List Char := "[[1, ], \"x\\".toList

theorem repair_conserves_openList :
    Json.parse (repair openList) = .ok (.array [.array [.ofNat 1], .string "x"]) ∧
      repair openList = "[[1], \"x\"]".toList ∧ Conserves openList (repair openList) := by
  have hjson : Json.parse (repair openList) = .ok (.array [.array [.ofNat 1], .string "x"]) := by
    decide +kernel
  refine ⟨hjson, by decide +kernel, (repair_conserves_iff hjson).1.2 ?_⟩
  rintro p m ⟨⟨x, htext, -⟩, -, -, -⟩
  have hcolon : ':' ∈ openList := by simp [htext]
  exact absurd hcolon (by decide +kernel)

def finishedMember : List Char := "\x7b\"a\": \"x\", \"b\": 1".toList

theorem repair_loses_member :
    repair (finishedMember ++ ", c:".toList) = "\x7b\"a\": \"x\"\x7d".toList ∧
      Json.parse (repair (finishedMember ++ ", c:".toList)) = .ok (.object [("a", .string "x")]) ∧
        ¬ Conserves (finishedMember ++ ", c:".toList) (repair (finishedMember ++ ", c:".toList)) ∧
          ¬ ∃ t, Trims finishedMember t ∧ t <+: repair (finishedMember ++ ", c:".toList) := by
  have hrepair : repair (finishedMember ++ ", c:".toList) = "\x7b\"a\": \"x\"\x7d".toList := by
    decide +kernel
  have hdangling : Dangling (finishedMember ++ ", c:".toList) "\x7b\"a\": \"x\", ".toList
      "b\": 1, c".toList :=
    ⟨⟨[], by decide +kernel, Or.inl (by simp)⟩, by decide +kernel, by decide +kernel, by decide +kernel⟩
  have hloud : ¬ Along Lexical.Quiet .inString "b\": 1, c".toList := by
    decide +kernel
  refine ⟨hrepair, ?_, hdangling.not_conserves hloud hdangling.finishes, ?_⟩
  · rw [hrepair]
    decide +kernel
  · rintro ⟨t, ht, hstart⟩
    have hcount := hstart.sublist.count_le '"'
    rw [ht.count_quote, hrepair] at hcount
    exact absurd hcount (by decide +kernel)

end SourceDigest.Reply
