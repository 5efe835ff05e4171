import SourceDigest.Proofs.Json.Cut
import SourceDigest.Proofs.Json.Reading

namespace SourceDigest.Json

section Steps

variable {α : Type}

inductive Fails (step : Bool → List Char → Reading (Option α)) :
    Bool → List Char → List α → Fault → Prop
  | now {first : Bool} {s : List Char} {f : Fault} (h : step first s = .error f) :
    Fails step first s [] f
  | later {first : Bool} {s r : List Char} {a : α} {as : List α} {f : Fault}
    (h : step first s = .ok (some a, r)) (rest : Fails step false r as f) :
    Fails step first s (a :: as) f

variable {step : Bool → List Char → Reading (Option α)}

theorem Fails.readParts {n : Nat} {first : Bool} {s : List Char} {as : List α} {f : Fault}
    (h : Fails step first s as f) (hn : as.length < n) : readParts step n first s = .error f := by
  induction h generalizing n with
  | now h =>
    obtain ⟨m, rfl⟩ := Nat.exists_eq_add_of_lt hn
    rw [Json.readParts, h]
  | later h rest ih =>
    obtain ⟨m, rfl⟩ := Nat.exists_eq_add_of_lt hn
    rw [Json.readParts, h]
    simp only
    rw [ih (by simp only [List.length_cons]; omega)]

theorem length_le_commaEach (es : List (Entry Doc)) :
    es.length ≤ (commaEach (es.map Doc.entryText)).length := by
  induction es with
  | nil => exact Nat.le_refl 0
  | cons e es ih =>
    simp only [commaEach, List.map_cons, List.flatMap_cons, List.length_append,
      List.length_cons] at ih ⊢
    omega

def FailsAt (step : Bool → List Char → Reading (Option α)) (x : List Char) (f : Fault) : Prop :=
  ∀ first (b : Blanks), step first (b.chars ++ (separator first ++ x)) = .error f

namespace ReadsEntries

variable {k : Bracket} {d : Nat} {out : String × Value → α} {done : List (Entry Doc)}
  {x : List Char} {f : Fault}

theorem fails (H : ReadsEntries k d step out) (hdone : ∀ e ∈ done, Sound k d e)
    (hx : FailsAt step x f) (first : Bool) (b : Blanks) :
    Fails step first (b.chars ++ (separator first ++ (commaEach (done.map Doc.entryText) ++ x)))
      (done.map fun e => out (e.key, e.doc.value)) f := by
  induction done generalizing first b with
  | nil => exact Fails.now (hx first b)
  | cons e done ih =>
    have hrest := ih (fun d hd => hdone d (List.mem_cons_of_mem e hd)) false e.after
    have hstep := H.takes first b (hdone e List.mem_cons_self) (stops_blanks e.after (stops_comma
      (commaEach (done.map Doc.entryText) ++ x)))
    simp only [separator, Bool.false_eq_true, if_false, List.cons_append, List.nil_append] at hrest
    simp only [List.map_cons, commaEach, List.flatMap_cons, Doc.entryText, List.append_assoc,
      List.cons_append, List.nil_append] at hrest hstep ⊢
    exact Fails.later hstep hrest

theorem readParts_error (H : ReadsEntries k d step out) (hdone : ∀ e ∈ done, Sound k d e)
    (hx : FailsAt step x f) :
    let s := commaEach (done.map Doc.entryText) ++ x
    Json.readParts step (s.length + 1) true s = .error f := by
  intro s
  apply (H.fails hdone hx true Blanks.none).readParts
  have hlen := length_le_commaEach done
  simp only [List.length_map, s, List.length_append]
  omega

end ReadsEntries

end Steps

section Groups

variable {d : Nat} {x : List Char} {f : Fault}

def Bracket.FailsAt (d : Nat) (x : List Char) (f : Fault) : Bracket → Prop
  | .square => Json.FailsAt (nextElement (readValue d)) x f
  | .curly => Json.FailsAt (nextMember (readValue d)) x f

theorem readValue_begun_error {k : Bracket} {done : List (Entry Doc)}
    (hdone : ∀ e ∈ done, Sound k d e) (hx : k.FailsAt d x f) :
    readValue (d + 1) (k.begun done ++ x) = .error f := by
  cases k with
  | square =>
    have hparts := (reads d).elements.readParts_error hdone hx
    rw [Bracket.begun, List.cons_append, Bracket.opener, readValue_square, hparts]
    rfl
  | curly =>
    have hparts := (reads d).members.readParts_error hdone hx
    rw [Bracket.begun, List.cons_append, Bracket.opener, readValue_curly, hparts]
    rfl

theorem failsAt_head {k : Bracket} {e : Entry Doc} (hfits : k.Fits e.label) {c : Char}
    {t : List Char} (hspace : isSpace c = false) (hclose : c ≠ ']')
    (hx : readValue d (c :: t) = .error f) : k.FailsAt d (e.head ++ c :: t) f := by
  obtain ⟨label, before, doc, after⟩ := e
  cases k with
  | square =>
    intro first b
    have hnone : label = none := Option.isNone_iff_eq_none.1 (by simpa [Bracket.Fits] using hfits)
    subst hnone
    cases first with
    | true =>
      have hnext := nextElement_first (readValue d) (b.append before) hspace hclose t
      rw [hx, Blanks.append, List.append_assoc] at hnext
      exact hnext
    | false =>
      have hnext := nextElement_later (readValue d) b before hspace hclose t
      rw [hx] at hnext
      exact hnext
  | curly =>
    intro first b
    obtain ⟨l, rfl⟩ : ∃ l, label = some l :=
      Option.isSome_iff_exists.1 (by simpa [Bracket.Fits] using hfits)
    have hnext := nextMember_label (readValue d) first b l (before.chars ++ c :: t)
    rw [readValue_append before.blank, hx] at hnext
    simp only [Entry.head, List.append_assoc]
    exact hnext

theorem failsAt_key (b : Blanks) (gs : List Glyph) {c : Char} {t : List Char}
    (hspace : isSpace c = false) (hcolon : c ≠ ':') :
    Bracket.curly.FailsAt d (b.chars ++ (quoted gs ++ c :: t)) ⟨.wantedColon, c :: t, 1⟩ := by
  intro first b'
  have hreadColon : readColon (c :: t) = .error ⟨.wantedColon, c :: t, 1⟩ := by
    unfold readColon
    rw [skipSpace_cons hspace]
    split
    · rename_i heq
      cases heq
    · rename_i heq
      cases heq
      exact absurd rfl hcolon
    · rfl
  unfold nextMember
  rw [nextKey_takes first b' b gs]
  simp only
  rw [hreadColon]

end Groups

end SourceDigest.Json
