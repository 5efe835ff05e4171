import SourceDigest.Proofs.Path.Components
import SourceDigest.Proofs.Text.Utf8

namespace SourceDigest

open Text.Utf8 (encode decodeLossy replacement)

namespace Component

def shown : Component → Component
  | .normal n => .normal (encode (decodeLossy n))
  | c => c

def IsText (c : Component) : Prop := ∀ n, c = .normal n → ∃ s : String, n = encode s

variable {c : Component}

theorem isText_iff_shown : c.IsText ↔ c.shown = c := by
  cases c with
  | normal n =>
    constructor
    · intro h
      obtain ⟨s, rfl⟩ := h n rfl
      rw [shown, Text.Utf8.decodeLossy_encode]
    · rintro h _ ⟨⟩
      exact ⟨decodeLossy n, (Component.normal.inj h).symm⟩
  | _ => exact iff_of_true (fun _ h => nomatch h) rfl

instance (c : Component) : Decidable c.IsText := decidable_of_iff _ isText_iff_shown.symm

theorem isText_shown (c : Component) : c.shown.IsText := by
  cases c with
  | normal n =>
    rintro _ ⟨⟩
    exact ⟨_, rfl⟩
  | _ => exact fun _ h => nomatch h

def bytes : Component → List UInt8
  | .root => [slash]
  | .current => [dot]
  | .parent => [dot, dot]
  | .normal n => n

theorem IsPart.eq_bytes {s : List UInt8} (h : c.IsPart s) : s = c.bytes := by
  rcases eq_parent_or_normal_of_ofPart? h.part with ⟨rfl, hs⟩ | rfl
  · exact hs
  · rfl

theorem IsPart.bytes {s : List UInt8} (h : c.IsPart s) : c.IsPart c.bytes := h.eq_bytes ▸ h

theorem normal_isPart_of_ne {n : List UInt8} (hsep : slash ∉ n) (hnil : n ≠ []) (hdot : n ≠ [dot])
    (hdots : n ≠ [dot, dot]) : (normal n).IsPart n :=
  ⟨hsep, by rw [ofPart?, if_neg (not_or.2 ⟨hnil, hdot⟩), if_neg hdots]⟩

theorem IsPart.shown (h : c.IsPart c.bytes) : c.shown.IsPart c.shown.bytes := by
  cases c with
  | normal n =>
    have hback (s : String) (hs : replacement ∉ s.toList)
        (he : encode (decodeLossy n) = encode s) : (normal (encode s)).IsPart (encode s) := by
      have hshown : decodeLossy n = s := Text.Utf8.encode_injective he
      rw [← he, Text.Utf8.encode_decodeLossy (hshown ▸ hs)]
      exact h
    have hsep : slash ∉ encode (decodeLossy n) := fun hmem =>
      h.sep (Text.Utf8.mem_of_mem_encode_decodeLossy (by decide) hmem)
    exact normal_isPart_of_ne hsep
      (fun he => absurd (hback "" (by decide) he).part (by decide))
      (fun he => absurd (hback "." (by decide) he).part (by decide))
      (fun he => absurd (hback ".." (by decide) he).part (by decide))
  | _ => exact h

end Component

namespace Path

variable {p q base : Path} {c : Component} {cs : List Component}

theorem isPart_or_start (h : q.components = p.components ++ c :: cs) :
    c.IsPart c.bytes ∨ p = ⟨[]⟩ ∧ (c = .root ∨ c = .current) := by
  cases hp : p.components with
  | nil =>
    have hbytes : p = ⟨[]⟩ := by
      obtain ⟨bytes⟩ := p
      exact congrArg Path.mk (components_eq_nil_iff.1 hp)
    rw [hp, List.nil_append] at h
    cases c with
    | root => exact Or.inr ⟨hbytes, Or.inl rfl⟩
    | current => exact Or.inr ⟨hbytes, Or.inr rfl⟩
    | parent => exact Or.inl ⟨by decide, rfl⟩
    | normal n =>
      obtain ⟨s, hs⟩ := exists_isPart_of_normal (h ▸ List.mem_cons_self)
      exact Or.inl hs.bytes
  | cons d ds =>
    rw [hp, List.cons_append] at h
    obtain ⟨s, hs⟩ := exists_isPart_of_mem_tail h (List.mem_append_right ds List.mem_cons_self)
    exact Or.inl hs.bytes

theorem components_join_bytes (h : q.components = p.components ++ c :: cs) :
    (p.join c.bytes).components = p.components ++ [c] := by
  rcases isPart_or_start h with hpart | ⟨rfl, rfl | rfl⟩
  · exact components_join hpart
  · rfl
  · rfl

theorem components_join_shown (h : q.components = p.components ++ c :: cs) :
    (p.join c.shown.bytes).components = p.components ++ [c.shown] := by
  rcases isPart_or_start h with hpart | ⟨rfl, rfl | rfl⟩
  · exact components_join hpart.shown
  · rfl
  · rfl

theorem exists_components_eq {ds : List Component} (h : q.components = p.components ++ (cs ++ ds)) :
    ∃ d : Path, d.components = p.components ++ cs := by
  induction cs generalizing p with
  | nil => exact ⟨p, (List.append_nil _).symm⟩
  | cons c cs ih =>
    have hjoin := components_join_bytes h
    obtain ⟨d, hd⟩ := ih (p := p.join c.bytes) (by
      rw [h, hjoin, List.append_assoc]
      rfl)
    exact ⟨d, by rw [hd, hjoin, List.append_assoc]; rfl⟩

def TextBelow (p base : Path) : Prop :=
  ∀ cs, p.components = base.components ++ cs → ∀ c ∈ cs, c.IsText

theorem textBelow_iff (h : p.components = base.components ++ cs) :
    p.TextBelow base ↔ ∀ c ∈ cs, c.IsText := by
  simp only [TextBelow, h, List.append_cancel_left_eq, forall_eq']

end Path

end SourceDigest
