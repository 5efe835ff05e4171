import SourceDigest.Proofs.Files.Listing

namespace SourceDigest

open Text (joinWith)
open Text.Utf8 (encode decodeLossy)

namespace Component

variable {n : List UInt8}

theorem IsPart.ne_nil (h : (normal n).IsPart n) : n ≠ [] := by
  rintro rfl
  cases h.not_idle

theorem isPart_of_normal_mem {p : Path} (h : normal n ∈ p.components) : (normal n).IsPart n := by
  obtain ⟨s, hs⟩ := Path.exists_isPart_of_normal h
  exact hs.bytes

theorem exists_names {cs : List Component} (h : ∀ c ∈ cs, ∃ n, c = .normal n) :
    ∃ names : List (List UInt8), cs = names.map .normal := by
  induction cs with
  | nil => exact ⟨[], rfl⟩
  | cons c cs ih =>
    obtain ⟨n, rfl⟩ := h c List.mem_cons_self
    obtain ⟨names, rfl⟩ := ih fun d hd => h d (List.mem_cons_of_mem _ hd)
    exact ⟨n :: names, rfl⟩

end Component

namespace Path

variable {p root : Path} {cs : List Component}

def slashed (names : List String) : String :=
  String.ofList (joinWith ['/'] (names.map String.toList))

theorem slashed_singleton (n : String) : slashed [n] = n := String.ofList_toList

theorem slashed_cons_cons (n k : String) (names : List String) :
    slashed (n :: k :: names) = n ++ ("/" ++ slashed (k :: names)) := by
  refine String.toList_inj.1 ?_
  simp [slashed, joinWith]

theorem encode_slashed (names : List String) :
    encode (slashed names) = joinWith [slash] (names.map encode) := by
  induction names with
  | nil => rfl
  | cons n names ih =>
    cases names with
    | nil => rw [slashed_singleton]; rfl
    | cons k names =>
      rw [slashed_cons_cons, Text.Utf8.encode_append, Text.Utf8.encode_append, ih]
      simp only [List.map_cons]
      rw [Text.joinWith_cons_cons _ _ (List.cons_ne_nil _ _), List.append_assoc]
      rfl

def lead (p : Path) : List UInt8 :=
  if p.bytes = [] ∨ p.bytes.getLast? = some slash then p.bytes else p.bytes ++ [slash]

theorem join_eq_lead {s : List UInt8} (h : s.head? ≠ some slash) : p.join s = ⟨p.lead ++ s⟩ := by
  unfold join lead
  rw [if_neg h]
  split
  · rfl
  · rw [List.append_assoc, List.singleton_append]

theorem lead_append {n : List UInt8} (hn : (Component.normal n).IsPart n) (t : List UInt8) :
    (Path.mk (t ++ n)).lead = t ++ n ++ [slash] := by
  refine if_neg (not_or.2 ⟨fun hempty => hn.ne_nil ?_, fun hlast => hn.sep ?_⟩)
  · exact (List.append_eq_nil_iff.1 hempty).2
  · rw [List.getLast?_append, List.getLast?_eq_some_getLast hn.ne_nil, Option.some_or,
      ← List.getLast?_eq_some_getLast hn.ne_nil] at hlast
    exact List.mem_of_getLast? hlast

theorem head?_append_ne_slash {n : List UInt8} (hn : (Component.normal n).IsPart n)
    (t : List UInt8) : (n ++ t).head? ≠ some slash := by
  obtain ⟨b, n, rfl⟩ := List.exists_cons_of_ne_nil hn.ne_nil
  exact fun hhead => hn.sep (List.mem_of_mem_head? hhead)

theorem head?_joinWith_ne_slash {n : List UInt8} (hn : (Component.normal n).IsPart n)
    (names : List (List UInt8)) : (joinWith [slash] (n :: names)).head? ≠ some slash := by
  cases names with
  | nil =>
    rw [joinWith, ← List.append_nil n]
    exact head?_append_ne_slash hn []
  | cons k names =>
    rw [Text.joinWith_cons_cons _ _ (List.cons_ne_nil k names), List.append_assoc]
    exact head?_append_ne_slash hn _

theorem join_append_slash {n s : List UInt8} (hn : (Component.normal n).IsPart n)
    (hs : s.head? ≠ some slash) : p.join (n ++ [slash] ++ s) = (p.join n).join s := by
  have hhead : n.head? ≠ some slash := fun he => hn.sep (List.mem_of_mem_head? he)
  have hlong : (n ++ [slash] ++ s).head? ≠ some slash := by
    rw [List.append_assoc]
    exact head?_append_ne_slash hn _
  rw [join_eq_lead hlong, join_eq_lead hhead, join_eq_lead hs, lead_append hn]
  simp only [List.append_assoc]

theorem components_join_names {names : List (List UInt8)} (hne : names ≠ [])
    (h : ∀ n ∈ names, (Component.normal n).IsPart n) :
    (p.join (joinWith [slash] names)).components = p.components ++ names.map .normal := by
  induction names generalizing p with
  | nil => exact absurd rfl hne
  | cons n names ih =>
    have hn : (Component.normal n).IsPart n := h n List.mem_cons_self
    cases names with
    | nil => exact components_join hn
    | cons k names =>
      have hrest : ∀ m ∈ k :: names, (Component.normal m).IsPart m :=
        fun m hm => h m (List.mem_cons_of_mem n hm)
      have hhead := head?_joinWith_ne_slash (hrest k List.mem_cons_self) names
      rw [Text.joinWith_cons_cons _ _ (List.cons_ne_nil k names), join_append_slash hn hhead,
        ih (List.cons_ne_nil k names) hrest, components_join hn, List.append_assoc]
      rfl

theorem relativeTo_eq_slashed (h : p.components = root.components ++ cs) :
    relativeTo root p = slashed ((cs.filterMap Component.name?).map decodeLossy) := by
  simp only [relativeTo, stripBase?_eq_some_iff.2 h, Option.getD_some, slashed, List.map_map,
    Function.comp_def]

theorem relativeTo_of_names {names : List (List UInt8)}
    (h : p.components = root.components ++ names.map .normal) :
    relativeTo root p = slashed (names.map decodeLossy) := by
  have hnames : (names.map Component.normal).filterMap Component.name? = names := by
    rw [List.filterMap_map]
    exact List.filterMap_some
  rw [relativeTo_eq_slashed h, hnames]

theorem isPart_of_names {names : List (List UInt8)}
    (h : p.components = root.components ++ names.map .normal) :
    ∀ n ∈ names, (Component.normal n).IsPart n := by
  intro n hn
  refine Component.isPart_of_normal_mem (p := p) ?_
  rw [h]
  exact List.mem_append_right _ (List.mem_map_of_mem hn)

theorem components_join_slashed {names : List (List UInt8)} (hne : names ≠ [])
    (h : ∀ n ∈ names, (Component.normal n).IsPart n) :
    (p.join (slashed (names.map decodeLossy))).components =
      p.components ++ names.map fun n => (Component.normal n).shown := by
  rw [encode_slashed, components_join_names (by simpa using hne)]
  · simp only [List.map_map, Function.comp_def, Component.shown]
  · intro s hs
    rw [List.map_map] at hs
    obtain ⟨n, hn, rfl⟩ := List.mem_map.1 hs
    exact (h n hn).shown

theorem components_join_relativeTo (h : p.components = root.components ++ cs) (hne : cs ≠ [])
    (hnames : ∀ c ∈ cs, ∃ n, c = .normal n) :
    (root.join (relativeTo root p)).components =
      root.components ++ cs.map Component.shown := by
  obtain ⟨names, rfl⟩ := Component.exists_names hnames
  rw [relativeTo_of_names h, components_join_slashed (by simpa using hne) (isPart_of_names h),
    List.map_map]
  rfl

theorem exists_name_of_mem {c : Component} (h : p.components = root.components ++ cs)
    (hparent : .parent ∉ cs) (hroot : root.bytes = [] → ∃ n, p.components.head? = some (.normal n))
    (hc : c ∈ cs) : ∃ n, c = .normal n := by
  have hpart {d : Component} {ds : List Component} (hp : p.components = d :: ds) (hmem : c ∈ ds) :
      ∃ n, c = .normal n := by
    obtain ⟨s, hs⟩ := exists_isPart_of_mem_tail hp hmem
    rcases Component.eq_parent_or_normal_of_ofPart? hs.part with ⟨rfl, -⟩ | hn
    · exact absurd hc hparent
    · exact ⟨_, hn⟩
  cases hbase : root.components with
  | cons d ds =>
    rw [hbase] at h
    exact hpart h (List.mem_append_right ds hc)
  | nil =>
    rw [hbase, List.nil_append] at h
    obtain ⟨n, hn⟩ := hroot (components_eq_nil_iff.1 hbase)
    obtain ⟨ds, hds⟩ := List.head?_eq_some_iff.1 hn
    rw [← h, hds] at hc
    rcases List.mem_cons.1 hc with rfl | hmem
    · exact ⟨n, rfl⟩
    · exact hpart hds hmem

theorem depthOf_slashed {names : List (List UInt8)} (hne : names ≠ [])
    (h : ∀ n ∈ names, (Component.normal n).IsPart n) :
    depthOf (slashed (names.map decodeLossy)) = names.length - 1 := by
  have hsep : ∀ w ∈ (names.map decodeLossy).map String.toList, '/' ∉ w := by
    simp only [List.map_map, List.mem_map]
    rintro w ⟨n, hn, rfl⟩ hmem
    exact (h n hn).shown.sep ((Text.Utf8.mem_encode_iff (by decide)).2 ⟨_, hmem, rfl⟩)
  have hfull : ∀ w ∈ (names.map decodeLossy).map String.toList, (!w.isEmpty) = true := by
    simp only [List.map_map, List.mem_map]
    rintro w ⟨n, hn, rfl⟩
    have hne : encode (decodeLossy n) ≠ [] := (h n hn).shown.ne_nil
    simpa [Text.Utf8.encode_eq_nil_iff] using hne
  rw [depthOf, slashed, String.toList_ofList, Text.splitOn_joinWith (by simpa using hne) hsep,
    List.filter_eq_self.2 hfull, List.length_map, List.length_map]

def Descends (p base : Path) : Prop :=
  ∃ c cs, p.components = base.components ++ c :: cs ∧ Component.parent ∉ c :: cs

variable {q base : Path} {c : Component}

theorem Descends.trans_append {ds : List Component} (h : p.Descends q)
    (hq : q.components = base.components ++ ds) (hds : Component.parent ∉ ds) :
    p.Descends base := by
  obtain ⟨c, cs, hp, hcs⟩ := h
  obtain ⟨d, rest, hcons⟩ : ∃ d rest, ds ++ c :: cs = d :: rest :=
    List.exists_cons_of_ne_nil (List.append_ne_nil_of_right_ne_nil ds (List.cons_ne_nil c cs))
  refine ⟨d, rest, ?_, ?_⟩
  · rw [hp, hq, List.append_assoc, hcons]
  · rw [← hcons, List.mem_append]
    exact not_or.2 ⟨hds, hcs⟩

theorem components_join_relativeTo_of_descends (h : p.Descends base)
    (hbase : base.bytes = [] → ∃ n, p.components.head? = some (.normal n))
    (htext : p.TextBelow base) : (base.join (relativeTo base p)).components = p.components := by
  obtain ⟨c, cs, hp, hparent⟩ := h
  have hshown : (c :: cs).map Component.shown = (c :: cs).map id :=
    List.map_congr_left fun d hd => Component.isText_iff_shown.1 (htext _ hp d hd)
  rw [components_join_relativeTo hp (List.cons_ne_nil c cs)
    fun _ => exists_name_of_mem hp hparent hbase, hshown, List.map_id, hp]

end Path

end SourceDigest
