import SampleTypes.Document
import SampleTypes.Proofs.Json.Strict

set_option autoImplicit false

/-! # Ways to hand over a document

A document comes as octets, as a text, in pieces from a stream, or parsed already. All but the
last are relaxed before they are read, which leaves a strict source alone, so that the result is
the same each time: the same text, or the same failure. -/

namespace SampleTypes

open Json (Bytes Value)

/-! ## Streams -/

/-- The stream that hands out these pieces and ends. -/
def Stream.ofChunks : List Bytes → Stream
  | [] => .done
  | chunk :: rest => .more chunk (ofChunks rest)

theorem Stream.readAll_ofChunks (chunks : List Bytes) :
    (Stream.ofChunks chunks).readAll = .ok chunks.flatten := by
  induction chunks with
  | nil => rfl
  | cons chunk rest ih => rw [ofChunks, readAll, ih, List.flatten_cons]

/-- Where a source is cut into pieces does not matter. -/
theorem renderStream_ofChunks (name : String) (chunks : List Bytes) (o : Options) :
    renderStream name (.ofChunks chunks) o = renderBytes name chunks.flatten o := by
  rw [renderStream, Stream.readAll_ofChunks]

/-! ## Strict sources -/

theorem renderBytes_of_readDocument {source : Bytes} {document : Value}
    (h : Json.readDocument source = .ok document) (name : String) (o : Options) :
    renderBytes name source o = renderDocument name document o := by
  rw [renderBytes, renderDocument, Json.relax_of_readDocument h, parseStrict, h]

/-- A strict source is left alone by relaxing. Its octets, its text and any pieces that it is cut
    into are rendered like the document that it holds, also where rendering fails. -/
theorem strict_entries_agree {source : Bytes} {document : Value}
    (h : Json.readDocument source = .ok document) :
    Json.relax source = source ∧
      ∀ (name : String) (o : Options),
        renderBytes name source o = renderDocument name document o ∧
        (∀ text, utf8Bytes text = source →
          renderText name text o = renderDocument name document o) ∧
        ∀ chunks : List Bytes, chunks.flatten = source →
          renderStream name (.ofChunks chunks) o = renderDocument name document o := by
  refine ⟨Json.relax_of_readDocument h, fun name o => ?_⟩
  have hbytes := renderBytes_of_readDocument h name o
  refine ⟨hbytes, ?_, ?_⟩
  · rintro text rfl
    exact hbytes
  · rintro chunks rfl
    rw [renderStream_ofChunks]
    exact hbytes

/-- Strings that hold all that is relaxed elsewhere: comments, a comma in front of a bracket, and
    quotes behind backslashes. -/
theorem strings_entries_agree :
    let text := "\x7b\"u\": \"//x /*y*/\", \"s\": [\"a,]\", \"\\\\\"], \"q\": \"\\\",\x7d//\"\x7d"
    let document : Value := .object [("u", .string "//x /*y*/"),
      ("s", .array [.string "a,]", .string "\\"]), ("q", .string "\",\x7d//")]
    Json.readDocument (utf8Bytes text) = .ok document ∧
      Json.relax (utf8Bytes text) = utf8Bytes text ∧
      renderText "row" text .default = renderDocument "row" document .default ∧
      renderStream "row" (.ofChunks [(utf8Bytes text).take 9, (utf8Bytes text).drop 9]) .default
        = renderDocument "row" document .default := by
  intro text document
  have h : Json.readDocument (utf8Bytes text) = .ok document := by cbv
  obtain ⟨hrelax, hentries⟩ := strict_entries_agree h
  obtain ⟨-, htext, hchunks⟩ := hentries "row" .default
  exact ⟨h, hrelax, htext text rfl, hchunks _ (by simp)⟩

end SampleTypes
