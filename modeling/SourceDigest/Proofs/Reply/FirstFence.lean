import SourceDigest.Proofs.Reply.Prose

namespace SourceDigest.Reply

open Json (Bracket Fault Value)
open Text (trimChars)

def ClosingLine (z : List Char) : Prop :=
  ∃ br gap, z = br ++ (gap ++ ticks) ∧ br ∈ lineBreaks ∧ ∀ c ∈ gap, isGap c = true

def Fence (s p inner : List Char) : Prop :=
  ∃ o z r, s = p ++ (o ++ (inner ++ (z ++ r))) ∧ OpeningLine o ∧ ClosingLine z

structure FirstFence (s p inner : List Char) : Prop where
  fence : Fence s p inner
  first {p' inner' : List Char} (h : Fence s p' inner') : p.length ≤ p'.length
  shortest {inner' : List Char} (h : Fence s p inner') : inner.length ≤ inner'.length

inductive Kept (s : List Char) : List Char → Prop
  | fence {p inner : List Char} (first : FirstFence s p inner) : Kept s (trimChars inner)
  | cutOff {line rest : List Char} (unclosed : ∀ p inner, ¬ Fence s p inner) (opens : ticks <+: s)
    (text : s = line ++ '\n' :: rest) (oneLine : '\n' ∉ line) : Kept s (trimChars rest)
  | bare (unclosed : ∀ p inner, ¬ Fence s p inner) (opens : ¬ ticks <+: s) : Kept s s

section Lines

variable {s r : List Char}

theorem isClosing_eq_true_iff : isClosing s = true ↔ ∃ z r, ClosingLine z ∧ s = z ++ r := by
  constructor
  · intro h
    obtain ⟨br, hbr, r, rfl, hticks⟩ := exists_of_isClosing h
    obtain ⟨t, ht⟩ := List.isPrefixOf_iff_prefix.1 hticks
    refine ⟨_, t, ⟨br, r.takeWhile isGap, rfl, hbr,
      List.all_eq_true.1 List.all_takeWhile⟩, ?_⟩
    simp only [List.append_assoc]
    rw [ht, List.takeWhile_append_dropWhile]
  · rintro ⟨_, r, ⟨br, gap, rfl, hbr, hgap⟩, rfl⟩
    have hbreak : afterBreak? (br ++ (gap ++ ticks) ++ r) = some (gap ++ (ticks ++ r)) :=
      afterBreak?_eq_some_iff.2 ⟨br, hbr, by simp only [List.append_assoc]⟩
    have hticks : (ticks ++ r).dropWhile isGap = ticks ++ r := List.dropWhile_cons_of_neg (by decide)
    rw [isClosing, hbreak]
    show ticks.isPrefixOf ((gap ++ (ticks ++ r)).dropWhile isGap) = true
    rw [List.dropWhile_append_of_pos hgap, hticks]
    exact List.isPrefixOf_iff_prefix.2 (List.prefix_append ticks r)

theorem exists_beforeClosing? (t : List Char) (hr : isClosing r = true) :
    ∃ inner, beforeClosing? (t ++ r) = some inner ∧ inner.length ≤ t.length := by
  induction t with
  | nil =>
    cases r with
    | nil => cases hr
    | cons c r => exact ⟨[], by rw [List.nil_append, beforeClosing?, if_pos hr], Nat.le_refl 0⟩
  | cons c t ih =>
    rw [List.cons_append, beforeClosing?]
    split
    · exact ⟨[], rfl, Nat.zero_le _⟩
    · obtain ⟨inner, hinner, hle⟩ := ih
      exact ⟨c :: inner, by rw [hinner]; rfl, Nat.succ_le_succ hle⟩

end Lines

section Fences

variable {s p inner : List Char} {c : Char}

theorem fence_nil_iff : Fence s [] inner ↔
    ∃ t r, afterOpening? s = some t ∧ t = inner ++ r ∧ isClosing r = true := by
  constructor
  · rintro ⟨o, z, r, rfl, ho, hz⟩
    exact ⟨inner ++ (z ++ r), z ++ r, afterOpening?_eq_some_iff.2 ⟨o, ho, rfl⟩, rfl,
      isClosing_eq_true_iff.2 ⟨z, r, hz, rfl⟩⟩
  · rintro ⟨t, r, ht, rfl, hr⟩
    obtain ⟨o, ho, rfl⟩ := afterOpening?_eq_some_iff.1 ht
    obtain ⟨z, r, hz, rfl⟩ := isClosing_eq_true_iff.1 hr
    exact ⟨o, z, r, rfl, ho, hz⟩

theorem fence_cons_iff : Fence (c :: s) (c :: p) inner ↔ Fence s p inner := by
  simp only [Fence, List.cons_append, List.cons.injEq, true_and]

theorem exists_of_fence_cons (h : Fence (c :: s) p inner) :
    p = [] ∨ ∃ p', p = c :: p' ∧ Fence s p' inner := by
  cases p with
  | nil => exact Or.inl rfl
  | cons d p =>
    right
    obtain ⟨o, z, r, hs, -⟩ := id h
    obtain ⟨rfl, -⟩ := List.cons.inj hs
    exact ⟨p, rfl, fence_cons_iff.1 h⟩

theorem exists_of_fence_nil (h : Fence s [] inner) :
    ∃ inner', (afterOpening? s).bind beforeClosing? = some inner' ∧ inner'.length ≤ inner.length := by
  obtain ⟨t, r, ht, rfl, hr⟩ := fence_nil_iff.1 h
  obtain ⟨inner', hclose, hle⟩ := exists_beforeClosing? inner hr
  exact ⟨inner', by rw [ht]; exact hclose, hle⟩

theorem not_fence_nil (h : (afterOpening? s).bind beforeClosing? = none) : ¬ Fence s [] inner := by
  intro hfence
  obtain ⟨i, hi, -⟩ := exists_of_fence_nil hfence
  rw [h] at hi
  cases hi

theorem fence_of_bind (h : (afterOpening? s).bind beforeClosing? = some inner) : Fence s [] inner := by
  obtain ⟨t, ht, hclose⟩ := Option.bind_eq_some_iff.1 h
  obtain ⟨r, hr, hclosing⟩ := isClosing_append_of_beforeClosing? hclose
  exact fence_nil_iff.2 ⟨t, r, ht, hr, hclosing⟩

theorem exists_fenced? (h : Fence s p inner) : ∃ inner', fenced? s = some inner' := by
  induction s generalizing p with
  | nil =>
    obtain ⟨o, z, r, hs, ⟨tag, gap, br, rfl, -⟩, -⟩ := h
    simp [ticks] at hs
  | cons c s ih =>
    cases hbind : (afterOpening? (c :: s)).bind beforeClosing? with
    | some i => exact ⟨i, by rw [fenced?, hbind]⟩
    | none =>
      rcases exists_of_fence_cons h with rfl | ⟨p, rfl, htail⟩
      · exact absurd h (not_fence_nil hbind)
      · rw [fenced?, hbind]
        exact ih htail

theorem exists_firstFence (h : fenced? s = some inner) : ∃ p, FirstFence s p inner := by
  induction s with
  | nil => cases h
  | cons c s ih =>
    cases hbind : (afterOpening? (c :: s)).bind beforeClosing? with
    | some i =>
      rw [fenced?, hbind] at h
      cases h
      refine ⟨[], fence_of_bind hbind, fun _ => Nat.zero_le _, ?_⟩
      intro inner' h'
      obtain ⟨i, hi, hle⟩ := exists_of_fence_nil h'
      rw [hbind] at hi
      cases hi
      exact hle
    | none =>
      rw [fenced?, hbind] at h
      obtain ⟨p, hfence, hfirst, hshortest⟩ := ih h
      refine ⟨c :: p, fence_cons_iff.2 hfence, ?_, fun h' => hshortest (fence_cons_iff.1 h')⟩
      intro p' inner' h'
      rcases exists_of_fence_cons h' with rfl | ⟨p', rfl, htail⟩
      · exact absurd h' (not_fence_nil hbind)
      · exact Nat.succ_le_succ (hfirst htail)

theorem Fence.inner_eq {inner' : List Char} (h : Fence s p inner) (h' : Fence s p inner')
    (hlength : inner.length = inner'.length) : inner = inner' := by
  obtain ⟨o, z, r, rfl, ho, hz⟩ := h
  obtain ⟨o', z', r', hs, ho', hz'⟩ := h'
  -- the line that opens the fence is told by the text
  have hopening : afterOpening? (o ++ (inner ++ (z ++ r))) = some (inner ++ (z ++ r)) :=
    afterOpening?_eq_some_iff.2 ⟨o, ho, rfl⟩
  rw [List.append_cancel_left hs, afterOpening?_eq_some_iff.2 ⟨o', ho', rfl⟩] at hopening
  exact (List.append_inj (Option.some.inj hopening) hlength.symm).1.symm

theorem FirstFence.fenced? (h : FirstFence s p inner) : fenced? s = some inner := by
  obtain ⟨inner', hinner'⟩ := exists_fenced? h.fence
  obtain ⟨p', h'⟩ := exists_firstFence hinner'
  -- both stand at the same place and are as short as can be there
  have hp : p = p' := by
    obtain ⟨o, z, r, hs, -⟩ := h.fence
    obtain ⟨o', z', r', hs', -⟩ := h'.fence
    exact (List.append_inj (hs.symm.trans hs')
      (Nat.le_antisymm (h.first h'.fence) (h'.first h.fence))).1
  subst hp
  rw [hinner', h.fence.inner_eq h'.fence
    (Nat.le_antisymm (h.shortest h'.fence) (h'.shortest h.fence))]

theorem not_fence_of_fenced? (h : Reply.fenced? s = none) (p inner : List Char) :
    ¬ Fence s p inner := by
  intro hfence
  obtain ⟨i, hi⟩ := exists_fenced? hfence
  rw [h] at hi
  cases hi

end Fences

section Keeping

variable {s b : List Char}

theorem fenced?_eq_none_of_unclosed (h : ∀ p inner, ¬ Fence s p inner) : fenced? s = none := by
  cases hfenced : fenced? s with
  | none => rfl
  | some inner =>
    obtain ⟨p, hfirst⟩ := exists_firstFence hfenced
    exact absurd hfirst.fence (h p inner)

theorem Kept.body_eq (h : Kept s b) : body s = b := by
  cases h with
  | fence first => rw [body, first.fenced?]
  | cutOff unclosed opens text oneLine =>
    rw [body, fenced?_eq_none_of_unclosed unclosed, if_pos (List.isPrefixOf_iff_prefix.2 opens), text,
      Text.splitOnce_append_cons oneLine]
  | bare unclosed opens =>
    rw [body, fenced?_eq_none_of_unclosed unclosed, if_neg (mt List.isPrefixOf_iff_prefix.1 opens)]

theorem kept_or_oneLine (s : List Char) : (∃ b, Kept s b) ∨ ticks <+: s ∧ '\n' ∉ s := by
  cases hfenced : fenced? s with
  | some inner =>
    obtain ⟨p, hfirst⟩ := exists_firstFence hfenced
    exact Or.inl ⟨_, Kept.fence hfirst⟩
  | none =>
    have hunclosed := not_fence_of_fenced? hfenced
    by_cases hopens : ticks <+: s
    · by_cases hbreak : '\n' ∈ s
      · left
        obtain ⟨line, rest, rfl, hline⟩ := List.eq_append_cons_of_mem hbreak
        exact ⟨_, Kept.cutOff hunclosed hopens rfl hline⟩
      · exact Or.inr ⟨hopens, hbreak⟩
    · exact Or.inl ⟨s, Kept.bare hunclosed hopens⟩

end Keeping

section Values

variable {b : List Char}

inductive Considered (b candidate : List Char) : Except Unreadable Value → Prop
  | whole {v : Value} (hb : Json.parse b = .ok v) : Considered b candidate (.ok v)
  | alone {v : Value} {f : Fault} (hb : Json.parse b = .error f)
    (hc : Json.parse candidate = .ok v) : Considered b candidate (.ok v)
  | repaired {v : Value} {f g : Fault} (hb : Json.parse b = .error f)
    (hc : Json.parse candidate = .error g) (hr : Json.parse (repair candidate) = .ok v) :
    Considered b candidate (.ok v)
  | refused {f g h : Fault} (hb : Json.parse b = .error f) (hc : Json.parse candidate = .error g)
    (hr : Json.parse (repair candidate) = .error h) :
    Considered b candidate (.error (.invalid (repair candidate) h))

theorem considered_parseBody {candidate : List Char} (h : firstValue? b = some candidate) :
    Considered b candidate (parseBody b) := by
  unfold parseBody
  cases hwhole : Json.parse b with
  | ok v => exact .whole hwhole
  | error f =>
    simp only [h]
    cases halone : Json.parse candidate with
    | ok v => exact .alone hwhole halone
    | error g =>
      cases hrepaired : Json.parse (repair candidate) with
      | ok v => exact .repaired hwhole halone hrepaired
      | error h => exact .refused hwhole halone hrepaired

theorem Considered.ne_noValue {candidate : List Char} {r : Except Unreadable Value}
    (h : Considered b candidate r) : r ≠ .error .noValue := by
  cases h <;> exact fun hr => nomatch hr

theorem exists_candidate (h : ∃ c ∈ b, isOpening c = true) :
    ∃ (p candidate q : List Char) (k : Bracket), b = p ++ (candidate ++ q) ∧
      (∀ c ∈ p, isOpening c = false) ∧ k.opener ∈ candidate.head? ∧ firstValue? b = some candidate := by
  obtain ⟨p, c, t, rfl, hopen, hplain⟩ : ∃ p c t, b = p ++ c :: t ∧ isOpening c = true ∧
      ∀ d ∈ p, isOpening d = false := by
    obtain ⟨c, hfind⟩ := Option.isSome_iff_exists.1 (List.find?_isSome.2 h)
    obtain ⟨hopen, p, t, htext, hplain⟩ := List.find?_eq_some_iff_append.1 hfind
    refine ⟨p, c, t, htext, hopen, ?_⟩
    intro d hd
    simpa using hplain d hd
  obtain ⟨k, rfl⟩ := exists_opener_of_isOpening hopen
  obtain ⟨q, hq⟩ := takeBalanced_prefix 0 .outside (k.opener :: t)
  refine ⟨p, _, q, k, by rw [hq], hplain, ?_, firstValue?_append hplain rfl⟩
  rw [takeBalanced_opener]
  rfl

end Values

section Replies

theorem parseBody_eq_noValue_iff (b : List Char) : parseBody b = .error .noValue ↔
    (∀ c ∈ b, isOpening c = false) ∧ ∀ v, Json.parse b ≠ .ok v := by
  constructor
  · intro h
    constructor
    · apply firstValue?_eq_none_iff.1
      cases hfirst : firstValue? b with
      | none => rfl
      | some candidate => exact absurd h (considered_parseBody hfirst).ne_noValue
    · intro v hv
      rw [parseBody, hv] at h
      cases h
  · rintro ⟨hplain, hwhole⟩
    unfold parseBody
    cases hparse : Json.parse b with
    | ok v => exact absurd hparse (hwhole v)
    | error f => rw [firstValue?_eq_none_iff.2 hplain]

theorem parse_of_kept (raw : String) :
    ((∃ b, Kept (trimChars raw.toList) b) ∨
      ticks <+: trimChars raw.toList ∧ '\n' ∉ trimChars raw.toList) ∧
    ∀ b, Kept (trimChars raw.toList) b →
      (parse raw = .error .noValue → ∀ c ∈ b, isOpening c = false) ∧
      ((∃ c ∈ b, isOpening c = true) → ∃ (p candidate q : List Char) (k : Bracket),
        b = p ++ (candidate ++ q) ∧ (∀ c ∈ p, isOpening c = false) ∧ k.opener ∈ candidate.head? ∧
          firstValue? b = some candidate ∧ Considered b candidate (parse raw)) := by
  refine ⟨kept_or_oneLine _, ?_⟩
  intro b hkept
  have hparse : parse raw = parseBody b := by rw [parse, hkept.body_eq]
  rw [hparse]
  refine ⟨fun h => ((parseBody_eq_noValue_iff b).1 h).1, ?_⟩
  intro hopen
  obtain ⟨p, candidate, q, k, hb, hplain, hhead, hfirst⟩ := exists_candidate hopen
  exact ⟨p, candidate, q, k, hb, hplain, hhead, hfirst, considered_parseBody hfirst⟩

def valueBeforeFence : String := "[1]\n\x60\x60\x60\nx\n\x60\x60\x60"

theorem noValue_beforeFence :
    parse valueBeforeFence = .error .noValue ∧ '[' ∈ valueBeforeFence.toList := by
  have hbody : body (trimChars valueBeforeFence.toList) = ['x'] := by
    decide +kernel
  refine ⟨?_, by decide +kernel⟩
  rw [parse, hbody]
  rfl

end Replies

end SourceDigest.Reply
