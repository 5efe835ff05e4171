import SourceDigest.Proofs.Json.Failing
import SourceDigest.Proofs.Json.Printing
import SourceDigest.Proofs.Reply.TrailingCommas

namespace SourceDigest.Reply

open Json (Blanks Bracket Broken Cut Doc Entry Lays Problem Tail Value readValue)
open Text (EndsSolid dropEndBlanks isBlank trimChars)

inductive KeyCut : Doc → List Char → Value → Prop
  | here (k : Bracket) (done next : List (Entry Doc)) (tail : Tail) {e : Entry Doc} {l : Json.Label}
    (label : e.label = some l) {s r : List Char}
    (text : s ++ r = Json.quoted l.glyphs ++ l.after.chars) (some : s ≠ [])
    (escape : ¬ Broken (.string l.glyphs) s) :
    KeyCut (.group k (done ++ e :: next) tail) (k.begun done ++ (l.before.chars ++ s))
      (k.collect (done.map Entry.pair))
  | inside (k : Bracket) (done next : List (Entry Doc)) (tail : Tail) {e : Entry Doc}
    {s : List Char} {w : Value} (cut : KeyCut e.doc s w) :
    KeyCut (.group k (done ++ e :: next) tail) (k.begun done ++ (e.head ++ s))
      (k.collect (done.map Entry.pair ++ [(e.key, w)]))

theorem KeyCut.exists_cuts {d : Doc} {c : List Char} {w : Value} (h : KeyCut d c w) :
    ∃ s u, s <+: c ∧ c <+: u ∧ u <+: d.text ∧ EndsSolid s ∧ EndsSolid u ∧ Cut d s w ∧ Cut d u w := by
  induction h with
  | @here k done next tail e l label s r text some escape =>
    have hlabel : l.before.chars ++ s ++ (r ++ [':']) = l.text := by
      rw [Json.Label.text, ← List.append_assoc (Json.quoted l.glyphs), ← text]
      simp only [List.append_assoc]
    have hsolid : EndsSolid l.text := by
      rw [← hlabel, ← List.append_assoc]
      exact ⟨_, ':', rfl, by decide⟩
    refine ⟨k.begun done, k.begun done ++ l.text, List.prefix_append _ _, ?_, ?_,
      k.begun_endsSolid done, hsolid.append _, ?_, Cut.labelled k done next tail label⟩
    · rw [← hlabel]
      exact ⟨r ++ [':'], by simp only [List.append_assoc]⟩
    · rw [Json.text_middle, Entry.head, label]
      simp only [List.append_assoc]
      exact List.prefix_append_right_inj _ |>.2 (List.prefix_append _ _)
    · exact Cut.opened k done (e :: next) tail (Or.inr (List.cons_ne_nil e next))
  | @inside k done next tail e c w cut ih =>
    obtain ⟨s, u, hs, hu, ⟨r, hr⟩, hsolid, hsolid', hcut, hcut'⟩ := ih
    have hstart : ∀ {a b : List Char}, a <+: b →
        k.begun done ++ (e.head ++ a) <+: k.begun done ++ (e.head ++ b) := fun h =>
      (List.prefix_append_right_inj _).2 ((List.prefix_append_right_inj _).2 h)
    refine ⟨_, _, hstart hs, hstart hu, ?_, (hsolid.append _).append _, (hsolid'.append _).append _,
      Cut.inside k done next tail hcut, Cut.inside k done next tail hcut'⟩
    rw [Json.text_middle, ← hr]
    apply hstart
    rw [List.append_assoc]
    exact List.prefix_append u _

section Scanning

theorem closes_of_cut {gs : List Json.Glyph} {s : List Char} {v : Value}
    (h : Cut (.string gs) s v) : ∃ kept, Closes s kept := by
  generalize hd : Doc.string gs = d at h
  cases h with
  | whole d =>
    subst hd
    exact ⟨gs, closes_quoted gs⟩
  | string kept rest => exact ⟨kept, closes_inked kept⟩
  | backslash kept g next htext => exact ⟨kept, closes_backslash kept⟩
  | opened => cases hd
  | labelled => cases hd
  | inside => cases hd

structure LacksColon (n : Nat) (x : List Char) : Prop where
  opener : ∃ (k : Bracket) (t : List Char), x = k.opener :: t
  closer : ∃ (k : Bracket) (t : List Char), x = t ++ [k.closer]
  fails {depth : Nat} (h : n ≤ depth) (r : List Char) :
    ∃ f, readValue depth (x ++ r) = .error f ∧ f.problem = .wantedColon

theorem LacksColon.firm {n : Nat} {x : List Char} (h : LacksColon n x) (w : List Char) :
    Firm (x.reverse ++ w) := by
  obtain ⟨k, t, rfl⟩ := h.closer
  rw [List.reverse_append, List.reverse_singleton, List.singleton_append, List.cons_append]
  exact firm_closing (isClosingBracket_closer k) _

theorem lacksColon_key {k : Bracket} {done next : List (Entry Doc)} {tail : Tail} {e : Entry Doc}
    {l : Json.Label} (hd : (Doc.group k (done ++ e :: next) tail).Strict) (hl : e.label = some l)
    (kept : List Json.Glyph) :
    LacksColon (Doc.group k (done ++ e :: next) tail).height
      (k.begun done ++ (l.before.chars ++ (Json.quoted kept ++ [k.closer]))) where
  opener := ⟨k, _, rfl⟩
  closer := ⟨k, k.begun done ++ (l.before.chars ++ Json.quoted kept), by simp⟩
  fails := by
    intro depth hdepth r
    obtain ⟨n, rfl⟩ : ∃ n, depth = n + 1 := by
      rw [Doc.height_group] at hdepth
      exact ⟨depth - 1, by omega⟩
    have hsound := Json.sound_of_strict hd hdepth
    have hfits := (hsound e (List.mem_append_right done List.mem_cons_self)).fits
    obtain rfl : k = .curly := by
      rw [hl] at hfits
      simpa [Bracket.Fits] using hfits
    have hkey := Json.failsAt_key (d := n) l.before kept (c := '\x7d') (t := r) rfl (by decide)
    refine ⟨⟨.wantedColon, '\x7d' :: r, 1⟩, ?_, rfl⟩
    have hread := Json.readValue_begun_error
      (fun e' he => hsound e' (List.mem_append_left _ he)) hkey
    simpa [Bracket.closer] using hread

theorem LacksColon.inside {k : Bracket} {done next : List (Entry Doc)} {tail : Tail} {e : Entry Doc}
    {x : List Char} (h : LacksColon e.doc.height x)
    (hd : (Doc.group k (done ++ e :: next) tail).Strict) :
    LacksColon (Doc.group k (done ++ e :: next) tail).height
      (k.begun done ++ (e.head ++ (x ++ [k.closer]))) where
  opener := ⟨k, _, rfl⟩
  closer := ⟨k, k.begun done ++ (e.head ++ x), by simp⟩
  fails := by
    intro depth hdepth r
    obtain ⟨n, rfl⟩ : ∃ n, depth = n + 1 := by
      rw [Doc.height_group] at hdepth
      exact ⟨depth - 1, by omega⟩
    have hsound := Json.sound_of_strict hd hdepth
    have he := hsound e (List.mem_append_right done List.mem_cons_self)
    obtain ⟨f, hread, hproblem⟩ := h.fails he.height (k.closer :: r)
    obtain ⟨k', t, rfl⟩ := h.opener
    refine ⟨f, ?_, hproblem⟩
    have hspace : Json.isSpace k'.opener = false := by cases k' <;> rfl
    have hclose : k'.opener ≠ ']' := by cases k' <;> decide
    have hhead := Json.failsAt_head he.fits hspace hclose hread
    have hbegun := Json.readValue_begun_error
      (fun e' he => hsound e' (List.mem_append_left _ he)) hhead
    simpa using hbegun

def Strands (d : Doc) (s : List Char) : Prop :=
  ∀ w ks b, ∃ opened x,
    (Scan.run ⟨w, ks, .outside, b⟩ s).closers = opened ++ ks ∧
      Scan.closeBrackets opened (Scan.run ⟨w, ks, .outside, b⟩ s).completed = x.reverse ++ w ∧
        LacksColon d.height x

theorem strands_key {k : Bracket} {done next : List (Entry Doc)} {tail : Tail} {e : Entry Doc}
    {l : Json.Label} (hd : (Doc.group k (done ++ e :: next) tail).Strict) (hl : e.label = some l)
    {s : List Char} {kept : List Json.Glyph} (hs : Closes s kept) :
    Strands (.group k (done ++ e :: next) tail) (k.begun done ++ (l.before.chars ++ s)) := by
  intro w ks b
  obtain ⟨b', hbegun⟩ := copies_begun (k := k)
    (fun e' he => ((Doc.strict_group.1 hd).1 e' (List.mem_append_left _ he)).2) w ks b
  have hrun : Scan.run ⟨w, ks, .outside, b⟩ (k.begun done ++ (l.before.chars ++ s)) =
      Scan.run ⟨l.before.chars.reverse ++ ((k.begun done).reverse ++ w), k.closer :: ks, .outside, b'⟩
        s := by
    rw [Scan.run_append, hbegun, Scan.run_append, scan_plain _ _ _ l.before.isPlain]
  rw [hrun]
  refine ⟨[k.closer], _, (hs _ _ _).1, ?_, lacksColon_key hd hl kept⟩
  rw [hs.completed]
  have hfirm : Firm ((Json.quoted kept).reverse ++
      (l.before.chars.reverse ++ ((k.begun done).reverse ++ w))) := firm_doc (.string kept) _
  show k.closer :: dropComma _ = _
  rw [dropComma_of_firm hfirm]
  simp

theorem Strands.inside {k : Bracket} {done next : List (Entry Doc)} {tail : Tail} {e : Entry Doc}
    {s : List Char} (h : Strands e.doc s) (hd : (Doc.group k (done ++ e :: next) tail).Strict) :
    Strands (.group k (done ++ e :: next) tail) (k.begun done ++ (e.head ++ s)) := by
  intro w ks b
  obtain ⟨b₁, hbegun⟩ := copies_begun (k := k)
    (fun e' he => ((Doc.strict_group.1 hd).1 e' (List.mem_append_left _ he)).2) w ks b
  obtain ⟨b₂, hhead⟩ := additive_copies.head e ((k.begun done).reverse ++ w) (k.closer :: ks) b₁
  obtain ⟨opened, x, hclosers, hclosed, hlacks⟩ :=
    h (e.head.reverse ++ ((k.begun done).reverse ++ w)) (k.closer :: ks) b₂
  rw [Scan.run_append, hbegun, Scan.run_append, hhead]
  refine ⟨opened ++ [k.closer], _, ?_, ?_, hlacks.inside hd⟩
  · rw [hclosers, List.append_assoc]
    rfl
  · rw [closeBrackets_append, hclosed, dropComma_of_firm (hlacks.firm _)]
    simp

end Scanning

theorem exists_strands {d : Doc} (hd : d.Strict) {c : List Char} {w : Value} (h : KeyCut d c w) :
    ∃ s b, c = s ++ b ∧ (∀ c ∈ b, isBlank c = true) ∧ EndsSolid s ∧ Strands d s := by
  induction h with
  | @here k done next tail e l label s r text some escape =>
    obtain ⟨s, b, r', v, rfl, hb, hsolid, -, hcut⟩ :=
      exists_cut (d := .string l.glyphs) trivial some text escape
    obtain ⟨kept, hcloses⟩ := closes_of_cut hcut
    refine ⟨k.begun done ++ (l.before.chars ++ s), b, ?_, hb, ?_, strands_key hd label hcloses⟩
    · simp only [List.append_assoc]
    · exact (hsolid.append l.before.chars).append (k.begun done)
  | @inside k done next tail e s w cut ih =>
    have he : e ∈ done ++ e :: next := List.mem_append_right done List.mem_cons_self
    obtain ⟨s, b, rfl, hb, hsolid, hstrands⟩ := ih ((Doc.strict_group.1 hd).1 e he).2
    refine ⟨k.begun done ++ (e.head ++ s), b, ?_, hb, ?_, hstrands.inside hd⟩
    · simp only [List.append_assoc]
    · exact (hsolid.append e.head).append (k.begun done)

section Parsing

variable {t : List Char} {v : Value} {lead trail : Blanks} {d : Doc}

theorem parse_of_start (h : Lays t v lead trail d) (hv : v.isGroup = true) {s : List Char} {w : Value}
    (hs : s <+: d.text) (hsolid : EndsSolid s) (hcut : Cut d s w) :
    parse (String.ofList (lead.chars ++ s)) = .ok w := by
  obtain ⟨k, es, tail, rfl⟩ := Doc.exists_group_of_value (h.value.symm ▸ hv)
  obtain ⟨r, hr⟩ := hs
  have hnone : Front [] := Front.prose (by simp) (by decide) (by simp [Text.dropBlanks])
  have hparse := (remnant_of_cut h.strict h.height hr hsolid hcut).parse_front lead (b := []) (by simp)
    hnone
  rwa [List.nil_append, List.append_nil] at hparse

theorem parse_of_strands (h : Lays t v lead trail d) (hv : v.isGroup = true) {s b : List Char}
    (hs : s <+: d.text) (hsolid : EndsSolid s) (hb : ∀ c ∈ b, isBlank c = true) (hstrands : Strands d s) :
    ∃ f, parse (String.ofList (lead.chars ++ (s ++ b))) = .error (.invalid (repair s) f) ∧
      f.problem = .wantedColon := by
  obtain ⟨k, es, tail, rfl⟩ := Doc.exists_group_of_value (h.value.symm ▸ hv)
  obtain ⟨opened, x, hclosers, hclosed, hlacks⟩ := hstrands [] [] []
  rw [List.append_nil] at hclosers hclosed
  have hrepair : repair s = x := by
    rw [repair, Scan.start, Scan.finish_eq, hclosers, hclosed, List.reverse_reverse]
  obtain ⟨f, hread, hproblem⟩ := hlacks.fails h.height []
  rw [List.append_nil] at hread
  have hjson : Json.parse (repair s) = .error f := by
    rw [hrepair, Json.parse, hread]
  obtain ⟨r, hr⟩ := hs
  exact ⟨f, (stump_of_start hr hsolid).parse_error lead hb hjson, hproblem⟩

end Parsing

theorem parse_keyCut {t : List Char} {v : Value} (h : Json.parse t = .ok v) (hv : v.isGroup = true) :
    (∃ lead trail d, Lays t v lead trail d) ∧
      ∀ lead trail d, Lays t v lead trail d → ∀ c w, KeyCut d c w →
        (∃ s u, s <+: c ∧ c <+: u ∧ Cut d s w ∧ Cut d u w ∧
          parse (String.ofList (lead.chars ++ s)) = .ok w ∧
            parse (String.ofList (lead.chars ++ u)) = .ok w) ∧
        ∃ f, parse (String.ofList (lead.chars ++ c)) =
            .error (.invalid (repair (dropEndBlanks c)) f) ∧ f.problem = .wantedColon := by
  refine ⟨Json.exists_lays_of_parse h, ?_⟩
  intro lead trail d hlays c w hcut
  obtain ⟨s, u, hs, hu, htext, hsolid, hsolid', hs', hu'⟩ := hcut.exists_cuts
  constructor
  · exact ⟨s, u, hs, hu, hs', hu', parse_of_start hlays hv (hs.trans (hu.trans htext)) hsolid hs',
      parse_of_start hlays hv htext hsolid' hu'⟩
  · obtain ⟨s, b, rfl, hb, hsolid, hstrands⟩ := exists_strands hlays.strict hcut
    rw [Text.dropEndBlanks_of_endsSolid hsolid hb]
    have hstart : s <+: d.text := (List.prefix_append s b).trans (hu.trans htext)
    exact parse_of_strands hlays hv hstart hsolid hb hstrands

def member (before : Blanks) (key : List Json.Glyph) (n : Nat) (h : n ≤ Json.maxNatural) :
    Entry Doc :=
  ⟨some ⟨before, key, Blanks.none⟩, gap, .word (.natural n h), Blanks.none⟩

def firstMember : Entry Doc := member Blanks.none (letters.take 1) 1 (by decide)

def secondMember : Entry Doc := member gap (letters.drop 1) 2 (by decide)

def membersDoc : Doc := .group .curly [firstMember, secondMember] ⟨false, Blanks.none⟩

def firstValue : Value := .object [("a", .ofNat 1)]

theorem membersDoc_strict : membersDoc.Strict := by
  refine Doc.strict_group.2 ⟨?_, rfl⟩
  intro e he
  rcases List.mem_cons.1 he with rfl | he
  · exact ⟨rfl, trivial⟩
  · rw [List.mem_singleton.1 he]
    exact ⟨rfl, trivial⟩

theorem not_broken_letter {c : Char} (h : c ≠ '"' ∧ c ≠ '\\' ∧ 0x20 ≤ c.toNat) (s : List Char) :
    ¬ Broken (.string [letter c h]) s := by
  intro hbroken
  generalize hd : Doc.string [letter c h] = d at hbroken
  cases hbroken with
  | word => cases hd
  | label => cases hd
  | inside => cases hd
  | escape kept g next htext hlen hrest =>
    injection hd with hgs
    obtain ⟨rfl, rfl⟩ := eq_of_singleton_eq hgs
    have hone := congrArg List.length htext
    rw [List.length_append, letter, List.length_singleton] at hone
    omega

theorem membersDoc_keyCut {s r : List Char} (text : s ++ r = ['"', 'b', '"']) (some : s ≠ []) :
    KeyCut membersDoc ("\x7b\"a\": 1, ".toList ++ s) firstValue := by
  have hcut := KeyCut.here .curly [firstMember] [] ⟨false, Blanks.none⟩ (e := secondMember)
    (l := ⟨gap, letters.drop 1, Blanks.none⟩) rfl (s := s) (r := r) text some
    (not_broken_letter _ s)
  have hbegun : Bracket.curly.begun [firstMember] ++ (gap.chars ++ s) =
      "\x7b\"a\": 1, ".toList ++ s := by
    rw [← List.append_assoc]
    congr 1
  rwa [hbegun] at hcut

theorem parse_keyCut_nested :
    Json.parse (listOf [membersDoc]).text = .ok (.array [membersDoc.value]) ∧
      KeyCut (listOf [membersDoc]) "[\x7b\"a\": 1, \"b\"".toList (.array [firstValue]) ∧
        ∃ f, parse "[\x7b\"a\": 1, \"b\"" =
          .error (.invalid "[\x7b\"a\": 1, \"b\"\x7d]".toList f) ∧ f.problem = .wantedColon := by
  have hlays : Lays (listOf [membersDoc]).text (.array [membersDoc.value]) Blanks.none Blanks.none
      (listOf [membersDoc]) :=
    ⟨(List.append_nil _).symm, rfl, strict_listOf (List.forall_mem_singleton.2 membersDoc_strict),
      by decide⟩
  have hcut : KeyCut (listOf [membersDoc]) "[\x7b\"a\": 1, \"b\"".toList (.array [firstValue]) :=
    KeyCut.inside .square [] [] ⟨false, Blanks.none⟩ (e := item membersDoc)
      (membersDoc_keyCut (r := []) rfl (List.cons_ne_nil _ _))
  have hrepair : repair (dropEndBlanks "[\x7b\"a\": 1, \"b\"".toList) =
      "[\x7b\"a\": 1, \"b\"\x7d]".toList := by decide +kernel
  obtain ⟨-, f, hparse, hproblem⟩ := (parse_keyCut hlays.parse rfl).2 _ _ _ hlays _ _ hcut
  rw [hrepair] at hparse
  exact ⟨hlays.parse, hcut, f, hparse, hproblem⟩

theorem danglingKey_stays :
    Json.parse "\x7b\"a\": 1, \"b\": 2\x7d".toList = .ok membersDoc.value ∧
      Lays "\x7b\"a\": 1, \"b\": 2\x7d".toList membersDoc.value Blanks.none Blanks.none membersDoc ∧
        KeyCut membersDoc "\x7b\"a\": 1, \"b".toList firstValue ∧
          parse "\x7b\"a\": 1, \"b" ≠ .ok firstValue := by
  have hlays : Lays "\x7b\"a\": 1, \"b\": 2\x7d".toList membersDoc.value Blanks.none Blanks.none
      membersDoc := ⟨by decide +kernel, rfl, membersDoc_strict, by decide⟩
  have hcut := membersDoc_keyCut (s := ['"', 'b']) (r := ['"']) rfl (List.cons_ne_nil _ _)
  exact ⟨hlays.parse, hlays, hcut, by decide +kernel⟩

end SourceDigest.Reply
