import HandlerGuard.Proofs.Json.Reading
import HandlerGuard.Proofs.SourceMap.Decoding
import HandlerGuard.Proofs.SourceMap.Resolution

namespace HandlerGuard

namespace SourceMap

/-- What a source map with any number of sources says. -/
structure Contents where
  version : Nat
  names : List Text
  sources : List Text
  sourcesContent : List Text
  entries : List Entry
deriving DecidableEq, Repr

def texts? : Value → Option (List Text)
  | .list items => items.mapM fun
      | .text t => some t
      | _ => none
  | _ => none

def Contents.ofValue? (v : Value) : Option Contents := do
  let .natural version ← v.get? "version".toList | none
  let names ← (v.get? "names".toList).bind texts?
  let sources ← (v.get? "sources".toList).bind texts?
  let sourcesContent ← (v.get? "sourcesContent".toList).bind texts?
  let .text mappings ← v.get? "mappings".toList | none
  let entries ← readMappings? mappings
  some ⟨version, names, sources, sourcesContent, entries⟩

def read? (t : Text) : Option Contents := (Json.parse? t).bind Contents.ofValue?

def mappingsText (map : SourceMap) : Text := writeMappings 0 true 0 Position.origin map.mappings

def fields (map : SourceMap) : List Json.Field :=
  [⟨"version".toList, ['3'], .natural 3⟩,
    ⟨"names".toList, ['[', ']'], .list []⟩,
    ⟨"sources".toList, '[' :: Json.quote map.source ++ [']'], .list [.text map.source]⟩,
    ⟨"sourcesContent".toList, '[' :: Json.quote map.content ++ [']'], .list [.text map.content]⟩,
    ⟨"mappings".toList, Json.quote map.mappingsText, .text map.mappingsText⟩]

theorem quote_mappingsText (map : SourceMap) :
    Json.quote map.mappingsText = '"' :: map.mappingsText ++ ['"'] := by
  have hall : ((',' :: ';' :: Vlq.alphabet).all fun c => decide (Json.escape c = [c])) = true := by
    decide +kernel
  have hplain : ∀ c ∈ ',' :: ';' :: Vlq.alphabet, Json.escape c = [c] := by
    intro c hc
    simpa using List.all_eq_true.mp hall c hc
  have hself : map.mappingsText.flatMap Json.escape = map.mappingsText := by
    have hmap : map.mappingsText.map Json.escape = map.mappingsText.map fun c => [c] :=
      List.map_congr_left fun c hc => hplain c (mem_writeMappings hc)
    rw [List.flatMap_def, hmap, ← List.flatMap_def, List.flatMap_singleton']
  rw [Json.quote, hself]

theorem toJson_eq (map : SourceMap) :
    map.toJson = '\x7b' :: Json.Field.join map.fields ++ ['\x7d'] := by
  have hfront : "\x7b\"version\":3,\"names\":[],\"sources\":[".toList =
      '\x7b' :: (Json.quote "version".toList ++ ':' :: '3' :: ',' ::
        (Json.quote "names".toList ++ ':' :: '[' :: ']' :: ',' ::
          (Json.quote "sources".toList ++ [':', '[']))) := by decide
  have hcontent : "],\"sourcesContent\":[".toList =
      ']' :: ',' :: (Json.quote "sourcesContent".toList ++ [':', '[']) := by decide
  have hmappings : "],\"mappings\":\"".toList =
      ']' :: ',' :: (Json.quote "mappings".toList ++ [':', '"']) := by decide
  have hend : "\"\x7d".toList = ['"', '\x7d'] := by decide
  have hwritten : writeMappings 0 true 0 Position.origin map.mappings = map.mappingsText := rfl
  unfold toJson
  simp only [hfront, hcontent, hmappings, hend, hwritten, fields, Json.Field.join_cons_cons,
    Json.Field.join_singleton, quote_mappingsText, List.append_assoc, List.cons_append,
    List.nil_append]

theorem parse?_toJson (map : SourceMap) :
    Json.parse? map.toJson = some (.table (Json.Field.addTo map.fields [])) := by
  rw [toJson_eq]
  apply Json.parse?_join
  · simp [fields]
  · intro f hf
    simp only [fields, List.mem_cons, List.not_mem_nil, or_false] at hf
    rcases hf with rfl | rfl | rfl | rfl | rfl
    · exact Json.isRead_three _
    · exact Json.isRead_nil _
    · exact Json.isRead_singleton _ map.source
    · exact Json.isRead_singleton _ map.content
    · exact Json.isRead_quote _ map.mappingsText

theorem read?_toJson {map : SourceMap}
    (hlines : map.mappings.Pairwise fun a b => a.generated.line ≤ b.generated.line) :
    read? map.toJson =
      some ⟨3, [], [map.source], [map.content], map.mappings.map Entry.ofMapping⟩ := by
  have htable : Json.Field.addTo map.fields [] = map.fields.map fun f => (f.key, f.value) := rfl
  have hentries : readMappings? map.mappingsText = some (map.mappings.map Entry.ofMapping) :=
    readMappings?_writeMappings hlines
  rw [read?, parse?_toJson, Option.bind_some, htable]
  -- every field is found under its key
  change (readMappings? map.mappingsText).bind
    (fun entries => some (Contents.mk 3 [] [map.source] [map.content] entries)) = _
  rw [hentries]
  rfl

end SourceMap

namespace Patch

/-- Every patch that requests lead to has mappings: one for each mapped character of its segments, from
where the character stands in the patched text to where it comes from, none of them twice. The map made
of them is read back from its text: its version is 3, it has no names, one source, with the text that the
patch was made for, and exactly the mappings, in their order and all to that source. -/
theorem reached_map_read (source : Text) (requests : List Request) (id : Text) (hires : Bool) :
    ∃ parts text maps,
      (reached source requests).segments = .ok parts ∧
      (reached source requests).render = .ok text ∧
      (reached source requests).mappings hires = .ok maps ∧
      maps.map Mapping.ends =
        ((parts.flatMap Glyph.ofSegment).zipIdx.filter fun g => g.1.isMapped hires).map (fun g =>
          (Position.origin.advanceOver (text.take g.2),
            (LineIndex.ofText source).position? g.1.provenance.offset)) ∧
      SourceMap.read? (SourceMap.toJson ⟨id, (reached source requests).source, maps⟩) =
        some ⟨3, [], [id], [source], maps.map SourceMap.Entry.ofMapping⟩ ∧
      maps.Nodup := by
  have hwf := wellFormed_reached source requests
  obtain ⟨maps, hmaps, hends⟩ := hwf.exists_mappings hires
  have horder := Mapping.pairwise_of_ends hends
  refine ⟨_, _, maps, hwf.segments_eq, hwf.render_eq, hmaps, ?_, ?_, ?_⟩
  · rw [hends, ends_glyphs, source_reached]
  · rw [source_reached, SourceMap.read?_toJson]
    refine horder.imp ?_
    intro a b h
    rcases h with h | ⟨h, -⟩ <;> omega
  · refine horder.imp ?_
    intro a b h heq
    exact h.ne (congrArg Mapping.generated heq)

end Patch

end HandlerGuard
