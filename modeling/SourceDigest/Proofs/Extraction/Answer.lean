import SourceDigest.Extraction.Extract
import SourceDigest.Proofs.Reply.Prose
import SourceDigest.Proofs.Snapshot.RoundTrip

namespace SourceDigest

open Json (Blanks Bracket Doc Layout Value)
open Reply (isOpening isTagChar lineBreaks ticks)

namespace Extraction

inductive Presents (t : List Char) : List Char → Prop
  | bare : Presents t t
  | fenced {p tag first last : List Char} (fence : ¬ ticks <:+: p)
    (tagged : ∀ c ∈ tag, isTagChar c = true) (opened : first ∈ lineBreaks)
    (closed : last ∈ lineBreaks) (s : List Char) :
    Presents t (p ++ (ticks ++ (tag ++ (first ++ (t ++ (last ++ (ticks ++ s)))))))
  | prose {p s : List Char} (bracket : ∀ c ∈ p, isOpening c = false) (front : '\x60' ∉ p)
    (back : '\x60' ∉ s) : Presents t (p ++ (t ++ s))

theorem laid_object_cons (l : Layout) (indent : Nat) (k : String) (v : Value)
    (ms : List (String × Value)) :
    ∃ u w, (Value.object ((k, v) :: ms)).laid l indent
      = Bracket.curly.opener :: ((l.line (indent + 1)).chars ++ '"' :: (u ++ '"' :: w)) := by
  rw [Value.laid, Value.laidMembers, Json.commaJoin, Json.stringChars]
  simp only [List.append_assoc, List.cons_append, List.nil_append]
  exact ⟨_, _, rfl⟩

theorem not_ticks_of_not_mem {s : List Char} (h : '\x60' ∉ s) : ¬ ticks <:+: s := by
  intro hrun
  exact h (hrun.subset List.mem_cons_self)

theorem parse_presents (x : Insights) (l : Layout) {raw : List Char}
    (h : Presents (x.toJson.laid l 0) raw) :
    Reply.parse (String.ofList raw) = .ok x.toJson.sorted := by
  have hprintable := (Insights.faithful.printable x).mono (show 4 ≤ Json.depthLimit by decide)
  obtain ⟨doc, htext, hvalue, hstrict, hheight⟩ := hprintable.writes l 0
  obtain ⟨u, w, hstarts⟩ : ∃ u w, x.toJson.laid l 0
      = Bracket.curly.opener :: ((l.line 1).chars ++ '"' :: (u ++ '"' :: w)) :=
    laid_object_cons l 0 _ _ _
  rw [← hvalue]
  rw [← htext] at h hstarts
  cases h with
  | bare => exact Reply.parse_doc hstrict hheight
  | fenced fence tagged opened closed s =>
    exact Reply.parse_fenced_doc hstrict hheight fence tagged opened closed s
  | prose bracket front back =>
    exact Reply.parse_prose hstrict hheight hstarts ⟨'"', by simp, by decide⟩ bracket
      (not_ticks_of_not_mem front) (not_ticks_of_not_mem back)

theorem ofValue_sorted (path : String) (x : Insights) :
    Outcome.ofValue path x.toJson.sorted = .insights x := by
  have hdecodes : Insights.ofJson x.toJson.sorted = .ok x := Insights.faithful.decodes x
  rw [Outcome.ofValue, hdecodes]
  intro h
  cases h

theorem extract_of_presents (x : Insights) {t : String}
    (ht : t = x.toJson.compact ∨ t = x.toJson.pretty) {raw : List Char}
    (h : Presents t.toList raw) (sampling : Sampling) (path : String) (tree : Syntax.Node)
    {model : Model}
    (hmodel : model (request sampling path tree.condense) = .text (String.ofList raw)) :
    extract model sampling path tree = .insights x := by
  have hparse : Reply.parse (String.ofList raw) = .ok x.toJson.sorted := by
    rcases ht with rfl | rfl
    · apply parse_presents x .compact
      rwa [Value.laid_compact, ← String.toList_ofList (l := x.toJson.compactChars)]
    · apply parse_presents x .pretty
      rwa [Value.laid_pretty, ← String.toList_ofList (l := x.toJson.prettyChars 0)]
  rw [extract, hmodel, Outcome.ofAnswer, hparse]
  exact ofValue_sorted path x

def hostileInsights : Insights := ⟨[⟨"```json\n[", ["\"\\", "\x7d```"]⟩], [⟨""⟩], []⟩

def hostileAnswer : List Char :=
  " \"Here: ".toList ++ (hostileInsights.toJson.compact.toList ++ "\n]\n".toList)

theorem extract_of_presents_hostile :
    Presents hostileInsights.toJson.compact.toList hostileAnswer
      ∧ extract (fun _ => .text (String.ofList hostileAnswer)) .default "a.ts" .emptyNode
        = .insights hostileInsights := by
  have hpresents : Presents hostileInsights.toJson.compact.toList hostileAnswer :=
    .prose (by simp [isOpening]) (by decide) (by decide)
  exact ⟨hpresents, extract_of_presents hostileInsights (.inl rfl) hpresents .default "a.ts"
    .emptyNode rfl⟩

end Extraction

end SourceDigest
