import SourceDigest.Proofs.Json.Equality
import SourceDigest.Proofs.Json.Reading
import SourceDigest.Proofs.Reply.Fence
import SourceDigest.Reply.Parse

namespace SourceDigest.Reply

open Json (Value Doc Blanks)
open Text (trimChars)

theorem body_of_not_closing {s : List Char} (hclosing : ∀ t, t <:+ s → isClosing t = false)
    (hticks : ticks.isPrefixOf s = false) : body s = s := by
  rw [body, fenced?_eq_none_of_not_closing hclosing, hticks]
  rfl

theorem trimChars_doc (lead trail : Blanks) (d : Doc) :
    trimChars (lead.chars ++ (d.text ++ trail.chars)) = d.text := by
  obtain ⟨c, t, ht, hc, -⟩ := d.text_starts_solid
  have hends := d.text_endsSolid
  rw [ht] at hends ⊢
  exact Text.trimChars_of_edges lead.isBlank hc hends trail.isBlank

theorem body_doc (d : Doc) : body d.text = d.text := by
  apply body_of_not_closing
  · exact not_closing_of_tidy (composable_passes.doc d).along
  · obtain ⟨c, t, ht, -, hc⟩ := d.text_starts_solid
    rw [ht, ticks, List.isPrefixOf, beq_eq_false_iff_ne.2 (Ne.symm hc), Bool.false_and]

theorem parse_of_json {raw : String} {v : Value} (h : Json.parse raw.toList = .ok v) :
    parse raw = .ok v := by
  obtain ⟨lead, trail, doc, hraw, rfl, hstrict, hheight⟩ := Json.exists_lays_of_parse h
  rw [parse, hraw, trimChars_doc, body_doc, parseBody,
    Json.parse_doc_text hstrict hheight]

def fencedStrings : String :=
  "\t\x7b\"```json\\n[\": [\"\\\"```\\n```\", -2, \"\x7d\"], \"\": null\x7d\n"

def fencedStringsValue : Value :=
  .object [("", .null), ("```json\n[",
    .array [.string "\"```\n```", .number (.negative 2), .string "\x7d"])]

theorem parse_of_json_fencedStrings :
    Json.parse fencedStrings.toList = .ok fencedStringsValue ∧
      parse fencedStrings = .ok fencedStringsValue := by
  have h : Json.parse fencedStrings.toList = .ok fencedStringsValue := by decide +kernel
  exact ⟨h, parse_of_json h⟩

end SourceDigest.Reply
