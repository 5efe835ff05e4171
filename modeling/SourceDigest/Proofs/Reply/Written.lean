import SourceDigest.Proofs.Reply.Mending

namespace SourceDigest.Reply

open Text (isBlank)

inductive Trims : List Char → List Char → Prop
  | nil : Trims [] []
  | keep {s t : List Char} (c : Char) (trims : Trims s t) : Trims (s ++ [c]) (t ++ [c])
  | drop {s t b : List Char} {c : Char} (trims : Trims s t)
    (outside : Lexical.outside.run s = .outside) (blank : ∀ c ∈ b, isBlank c = true)
    (closing : isClosingBracket c = true) : Trims (s ++ ',' :: (b ++ [c])) (t ++ [c])

structure Commas (x : List Char) : Prop where
  head : ∀ c ∈ x.head?, c = ','
  each : ∀ c ∈ x, c = ',' ∨ isBlank c = true

def Finishes (c out : List Char) : Prop :=
  ∃ s t x ks, c = s ++ x ∧ out = t ++ ks ∧ Trims s t ∧ Commas x ∧ ∀ k ∈ ks, isClosingBracket k = true

def Lexical.Stays (l : Lexical) (c : Char) : Prop := l = .outside → c ≠ '"'

instance (l : Lexical) (c : Char) : Decidable (l.Stays c) :=
  inferInstanceAs (Decidable (l = .outside → c ≠ '"'))

instance decidableAlong (A : Lexical → Char → Prop) [∀ l c, Decidable (A l c)] :
    (l : Lexical) → (s : List Char) → Decidable (Along A l s)
  | _, [] => inferInstanceAs (Decidable True)
  | l, c :: s =>
    have := decidableAlong A (l.step c) s
    inferInstanceAs (Decidable (A l c ∧ Along A (l.step c) s))

section Trimming

variable {s t u x : List Char} {c : Char}

theorem Trims.exists_of_concat (h : Trims u (t ++ [c])) (hc : isClosingBracket c = false) :
    ∃ s, u = s ++ [c] ∧ Trims s t := by
  generalize hv : t ++ [c] = v at h
  cases h with
  | nil => simp at hv
  | keep d h =>
    obtain ⟨rfl, hd⟩ := List.append_inj' hv rfl
    cases hd
    exact ⟨_, rfl, h⟩
  | drop h outside blank closing =>
    obtain ⟨rfl, hd⟩ := List.append_inj' hv rfl
    cases hd
    rw [closing] at hc
    cases hc

theorem Trims.exists_of_append (h : Trims u (t ++ x)) (hx : ∀ c ∈ x, isClosingBracket c = false) :
    ∃ s, u = s ++ x ∧ Trims s t := by
  induction x using List.reverseRecOn generalizing u with
  | nil =>
    rw [List.append_nil] at h
    exact ⟨u, (List.append_nil u).symm, h⟩
  | append_singleton x c ih =>
    rw [← List.append_assoc] at h
    obtain ⟨u, rfl, hu⟩ := h.exists_of_concat (hx c (by simp))
    obtain ⟨s, rfl, hs⟩ := ih hu fun d hd => hx d (List.mem_append_left _ hd)
    exact ⟨s, List.append_assoc _ _ _, hs⟩

theorem Trims.count_quote (h : Trims s t) : t.count '"' = s.count '"' := by
  induction h with
  | nil => rfl
  | keep c h ih => rw [List.count_append, List.count_append, ih]
  | @drop s t b c h outside blank closing ih =>
    have hb : b.count '"' = 0 := List.count_eq_zero.2 fun hmem => absurd (blank _ hmem) (by decide)
    simp [List.count_append, List.count_cons, ih, hb]

end Trimming

section Commas

variable {x y : List Char}

theorem commas_cons {b : List Char} (hb : ∀ c ∈ b, isBlank c = true) : Commas (',' :: b) where
  head := by simp
  each c hc := (List.mem_cons.1 hc).imp id (hb c)

theorem Commas.append (hx : Commas x) (hy : Commas y) : Commas (x ++ y) where
  head := by
    cases x with
    | nil => exact hy.head
    | cons c x => exact hx.head
  each c hc := (List.mem_append.1 hc).elim (hx.each c) (hy.each c)

theorem isClosingBracket_of_comma_or_blank {c : Char} (h : c = ',' ∨ isBlank c = true) :
    isClosingBracket c = false := by
  apply Bool.eq_false_iff.2
  intro hclose
  simp only [isClosingBracket, Bool.or_eq_true, beq_iff_eq] at hclose
  rcases hclose with rfl | rfl <;> exact absurd h (by decide)

theorem ne_quote_of_comma_or_blank {c : Char} (h : c = ',' ∨ isBlank c = true) : c ≠ '"' := by
  rintro rfl
  exact absurd h (by decide)

theorem dropComma_cases (w : List Char) :
    dropComma w = w ∨ ∃ b, (∀ c ∈ b, isBlank c = true) ∧ w = b ++ ',' :: dropComma w := by
  unfold dropComma
  split
  · rename_i r hr
    right
    refine ⟨w.takeWhile isBlank, fun c hc => List.all_eq_true.1 List.all_takeWhile c hc, ?_⟩
    rw [← hr, List.takeWhile_append_dropWhile]
  · exact Or.inl rfl

theorem exists_commas (w : List Char) : ∃ x, Commas x ∧ w.reverse = (dropComma w).reverse ++ x := by
  rcases dropComma_cases w with hdrop | ⟨b, hb, hw⟩
  · exact ⟨[], ⟨by simp, by simp⟩, by rw [hdrop, List.append_nil]⟩
  · refine ⟨',' :: b.reverse, commas_cons (Text.reverse_isBlank hb), ?_⟩
    conv_lhs => rw [hw]
    rw [List.reverse_append, List.reverse_cons, List.append_assoc, List.singleton_append]

end Commas

section Scanning

variable {m p s x : List Char}

theorem exists_step (σ : Scan) (c : Char) : ∃ ks, (∀ k ∈ ks, k ∈ σ.closers ∨ isClosingBracket k = true) ∧
    σ.step c = ⟨c :: (if σ.lexical = .outside ∧ isClosingBracket c = true then dropComma σ.written
      else σ.written), ks, σ.lexical.step c,
      if σ.lexical = .outside ∧ c = '"' then σ.written else σ.beforeString⟩ := by
  obtain ⟨w, ks, l, b⟩ := σ
  cases l with
  | inString => exact ⟨ks, fun _ => Or.inl, rfl⟩
  | escaped => exact ⟨ks, fun _ => Or.inl, rfl⟩
  | outside =>
    by_cases hquote : c = '"'
    · subst hquote
      exact ⟨ks, fun _ => Or.inl, rfl⟩
    by_cases hopen : isOpening c = true
    · have hclose : isClosingBracket c = false := by
        obtain ⟨k, rfl⟩ := exists_opener_of_isOpening hopen
        exact isClosingBracket_opener k
      refine ⟨closerOf c :: ks, ?_, by simp [Scan.step, Lexical.step, hquote, hopen, hclose]⟩
      intro k hk
      rcases List.mem_cons.1 hk with rfl | hk
      · right
        unfold closerOf
        split <;> rfl
      · exact Or.inl hk
    by_cases hclose : isClosingBracket c = true
    · refine ⟨if ks.head? = some c then ks.tail else ks, ?_,
        by simp [Scan.step, Lexical.step, hquote, hopen, hclose]⟩
      intro k hk
      split at hk
      · exact Or.inl (List.mem_of_mem_tail hk)
      · exact Or.inl hk
    · exact ⟨ks, fun _ => Or.inl, by simp [Scan.step, Lexical.step, hquote, hopen, hclose]⟩

theorem written_step (σ : Scan) (c : Char) :
    (σ.step c).written = c :: if σ.lexical = .outside ∧ isClosingBracket c = true
      then dropComma σ.written else σ.written := by
  obtain ⟨ks, -, hstep⟩ := exists_step σ c
  rw [hstep]

theorem beforeString_step (σ : Scan) (c : Char) :
    (σ.step c).beforeString =
      if σ.lexical = .outside ∧ c = '"' then σ.written else σ.beforeString := by
  obtain ⟨ks, -, hstep⟩ := exists_step σ c
  rw [hstep]

theorem run_concat (s : List Char) (c : Char) :
    Scan.start.run (s ++ [c]) = (Scan.start.run s).step c := Scan.run_append _ _ _

theorem closing_run (s : List Char) :
    ∀ k ∈ (Scan.start.run s).closers, isClosingBracket k = true := by
  induction s using List.reverseRecOn with
  | nil =>
    intro k hk
    cases hk
  | append_singleton s c ih =>
    intro k hk
    obtain ⟨ks, hks, hstep⟩ := exists_step (Scan.start.run s) c
    rw [run_concat, hstep] at hk
    exact (hks k hk).elim (ih k) id

theorem run_eq_outside_iff {l : Lexical} (hx : ∀ c ∈ x, c ≠ '"') :
    l.run x = .outside ↔ l = .outside := by
  induction x generalizing l with
  | nil => exact Iff.rfl
  | cons c x ih =>
    show (l.step c).run x = .outside ↔ _
    rw [ih fun d hd => hx d (List.mem_cons_of_mem c hd)]
    have hquote := hx c List.mem_cons_self
    cases l <;> simp [Lexical.step, hquote]
    split <;> simp

theorem lexical_start (s : List Char) : (Scan.start.run s).lexical = Lexical.outside.run s :=
  Scan.lexical_run _ _

theorem trims_run (s : List Char) : Trims s (Scan.start.run s).written.reverse := by
  induction s using List.reverseRecOn with
  | nil => exact Trims.nil
  | append_singleton s c ih =>
    rw [run_concat, written_step, List.reverse_cons]
    split
    · rename_i hclose
      rcases dropComma_cases (Scan.start.run s).written with hdrop | ⟨b, hb, hwritten⟩
      · rw [hdrop]
        exact ih.keep c
      · -- the comma is kept as it was read, so that it ends the text up to the bracket
        have hcomma := (commas_cons (Text.reverse_isBlank hb)).each
        rw [hwritten, List.reverse_append, List.reverse_cons, List.append_assoc,
          List.singleton_append] at ih
        obtain ⟨u, rfl, hu⟩ :=
          ih.exists_of_append fun d hd => isClosingBracket_of_comma_or_blank (hcomma d hd)
        have houtside : Lexical.outside.run u = .outside := by
          have hstate := hclose.1
          rw [lexical_start, Lexical.run_append] at hstate
          exact (run_eq_outside_iff fun d hd => ne_quote_of_comma_or_blank (hcomma d hd)).1 hstate
        rw [List.append_assoc, List.cons_append]
        exact hu.drop houtside (Text.reverse_isBlank hb) hclose.2
    · exact ih.keep c

theorem along_stays {l : Lexical} (hx : ∀ c ∈ x, c ≠ '"') : Along Lexical.Stays l x := by
  induction x generalizing l with
  | nil => trivial
  | cons c x ih =>
    exact ⟨fun _ => hx c List.mem_cons_self, ih fun d hd => hx d (List.mem_cons_of_mem c hd)⟩

theorem beforeString_run {σ : Scan} (h : Along Lexical.Stays σ.lexical s) :
    (σ.run s).beforeString = σ.beforeString := by
  induction s generalizing σ with
  | nil => rfl
  | cons c s ih =>
    show ((σ.step c).run s).beforeString = _
    rw [ih (Scan.lexical_step σ c ▸ h.2), beforeString_step, if_neg fun hquote => h.1 hquote.1 hquote.2]

theorem written_run {σ : Scan} (hx : ∀ c ∈ x, isClosingBracket c = false) :
    (σ.run x).written = x.reverse ++ σ.written := by
  induction x generalizing σ with
  | nil => rfl
  | cons c x ih =>
    have hc := hx c List.mem_cons_self
    show ((σ.step c).run x).written = _
    rw [ih fun d hd => hx d (List.mem_cons_of_mem c hd), written_step, hc]
    simp

theorem beforeString_of_last (hp : Lexical.outside.run p = .outside)
    (hm : Along Lexical.Stays .inString m) :
    (Scan.start.run (p ++ '"' :: m)).beforeString = (Scan.start.run p).written := by
  have hlexical := lexical_start p
  rw [hp] at hlexical
  have hquote : ((Scan.start.run p).step '"').lexical = .inString := by
    rw [Scan.lexical_step, hlexical]
    rfl
  rw [Scan.run_append]
  show (((Scan.start.run p).step '"').run m).beforeString = _
  rw [beforeString_run (hquote ▸ hm), beforeString_step, if_pos ⟨hlexical, rfl⟩]

end Scanning

section Finishing

variable {c out s w ks : List Char}

theorem closeBrackets_of_firm (hks : ∀ k ∈ ks, isClosingBracket k = true) (h : Firm w) :
    Scan.closeBrackets ks w = ks.reverse ++ w := by
  induction ks generalizing w with
  | nil => rfl
  | cons k ks ih =>
    have hfirm := firm_closing (hks k List.mem_cons_self) w
    show Scan.closeBrackets ks (k :: dropComma w) = _
    rw [dropComma_of_firm h, ih (fun d hd => hks d (List.mem_cons_of_mem k hd)) hfirm,
      List.reverse_cons, List.append_assoc, List.singleton_append]

theorem exists_closeBrackets (hks : ∀ k ∈ ks, isClosingBracket k = true) (w : List Char) :
    ∃ t x, Commas x ∧ w.reverse = t ++ x ∧ (Scan.closeBrackets ks w).reverse = t ++ ks := by
  cases ks with
  | nil => exact ⟨w.reverse, [], ⟨by simp, by simp⟩, by simp, by simp [Scan.closeBrackets]⟩
  | cons k ks =>
    obtain ⟨x, hx, hw⟩ := exists_commas w
    have hfirm := firm_closing (hks k List.mem_cons_self) (dropComma w)
    refine ⟨(dropComma w).reverse, x, hx, hw, ?_⟩
    show (Scan.closeBrackets ks (k :: dropComma w)).reverse = _
    rw [closeBrackets_of_firm (fun d hd => hks d (List.mem_cons_of_mem k hd)) hfirm]
    simp

theorem finishes_closeBrackets (hks : ∀ k ∈ ks, isClosingBracket k = true)
    (h : Trims s w.reverse) : Finishes s (Scan.closeBrackets ks (dropComma w)).reverse := by
  obtain ⟨x, hx, hw⟩ := exists_commas w
  obtain ⟨t, y, hy, hdrop, hclose⟩ := exists_closeBrackets hks (dropComma w)
  have hcommas := hy.append hx
  rw [hw, hdrop, List.append_assoc] at h
  obtain ⟨u, rfl, hu⟩ := h.exists_of_append fun c hc =>
    isClosingBracket_of_comma_or_blank (hcommas.each c hc)
  exact ⟨u, t, y ++ x, ks, rfl, hclose, hu, hcommas, hks⟩

theorem Finishes.count_quote (h : Finishes c out) : out.count '"' = c.count '"' := by
  obtain ⟨s, t, x, ks, rfl, rfl, htrims, hx, hks⟩ := h
  have hnone : x.count '"' = 0 :=
    List.count_eq_zero.2 fun hmem => ne_quote_of_comma_or_blank (hx.each _ hmem) rfl
  have hnone' : ks.count '"' = 0 := List.count_eq_zero.2 fun hmem => absurd (hks _ hmem) (by decide)
  rw [List.count_append, List.count_append, htrims.count_quote, hnone, hnone']

end Finishing

section Starts

variable {c out s t u : List Char}

theorem start_or_longer {q v : List Char} (h : s ++ q = u ++ v) :
    s <+: u ∨ ∃ d y, s = u ++ d :: y ∧ v = d :: (y ++ q) := by
  rcases List.append_eq_append_iff.1 h with ⟨x, hx, -⟩ | ⟨x, rfl, hx⟩
  · exact Or.inl ⟨x, hx.symm⟩
  · cases x with
    | nil => exact Or.inl ⟨[], by simp⟩
    | cons d y => exact Or.inr ⟨d, y, rfl, hx⟩

theorem not_firm {d : Char} (hd : d = ',' ∨ d = ':') {z : List Char}
    (hz : ∀ c ∈ z, c = ',' ∨ isBlank c = true) (s : List Char) : ¬ Firm (s ++ d :: z).reverse := by
  have hfront : ∀ y : List Char, (∀ c ∈ y, c = ',' ∨ isBlank c = true) → ∀ w, ¬ Firm (y ++ d :: w) := by
    intro y hy w
    induction y with
    | nil =>
      intro hfirm
      have hblank : isBlank d = false := by rcases hd with rfl | rfl <;> decide
      have hhead := hfirm d (by simp [hblank])
      exact hd.elim hhead.1 hhead.2
    | cons c y ih =>
      have hrest := ih fun e he => hy e (List.mem_cons_of_mem c he)
      by_cases hblank : isBlank c = true
      · rwa [List.cons_append, ← List.singleton_append,
          firm_blanks (List.forall_mem_singleton.2 hblank)]
      · intro hfirm
        have hhead := hfirm c (by simp [hblank])
        exact hhead.1 ((hy c List.mem_cons_self).resolve_right hblank)
  rw [List.reverse_append, List.reverse_cons, List.append_assoc, List.singleton_append]
  exact hfront z.reverse (fun c hc => hz c (List.mem_reverse.1 hc)) s.reverse

theorem Trims.exists_of_start (h : Trims u t) (hs : s <+: u) (hfirm : Firm s.reverse) :
    ∃ t', Trims s t' ∧ t' <+: t := by
  induction h with
  | nil =>
    rw [List.prefix_nil.1 hs]
    exact ⟨[], Trims.nil, List.nil_prefix⟩
  | @keep u t c h ih =>
    rcases List.prefix_concat_iff.1 hs with rfl | hs
    · exact ⟨_, h.keep c, List.prefix_rfl⟩
    · obtain ⟨t', ht', hstart⟩ := ih hs
      exact ⟨t', ht', hstart.trans (List.prefix_append t [c])⟩
  | @drop u t b c h outside blank closing ih =>
    rw [← List.cons_append, ← List.append_assoc] at hs
    rcases List.prefix_concat_iff.1 hs with rfl | hs
    · rw [List.append_assoc, List.cons_append]
      exact ⟨_, h.drop outside blank closing, List.prefix_rfl⟩
    · -- the comma would be the last character that is not blank
      obtain ⟨q, hq⟩ := hs
      rcases start_or_longer hq with hs | ⟨d, y, rfl, hb⟩
      · obtain ⟨t', ht', hstart⟩ := ih hs
        exact ⟨t', ht', hstart.trans (List.prefix_append t [c])⟩
      · obtain ⟨rfl, rfl⟩ := List.cons.inj hb
        refine absurd hfirm (not_firm (Or.inl rfl) ?_ u)
        exact fun e he => Or.inr (blank e (List.mem_append_left q he))

theorem Finishes.exists_of_start (h : Finishes c out) (hs : s <+: c) (hfirm : Firm s.reverse) :
    ∃ t, Trims s t ∧ t <+: out := by
  obtain ⟨u, t, x, ks, rfl, rfl, htrims, hx, -⟩ := h
  obtain ⟨q, hq⟩ := hs
  rcases start_or_longer hq with hs | ⟨d, y, rfl, rfl⟩
  · obtain ⟨t', ht', hstart⟩ := htrims.exists_of_start hs hfirm
    exact ⟨t', ht', hstart.trans (List.prefix_append t ks)⟩
  · refine absurd hfirm (not_firm (Or.inl (hx.head d rfl)) ?_ u)
    exact fun e he => hx.each e (List.mem_cons_of_mem d (List.mem_append_left q he))

end Starts

end SourceDigest.Reply
