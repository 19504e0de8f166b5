import Rerank.Proofs.Discovery.Found
import Rerank.Proofs.Endpoint

/-!
# Endpoints of the hosted catalog

Whatever counts as an endpoint of the catalog is a url, and its text is the one that was configured.
-/

namespace Rerank.Catalog

/-- Where the hosted service is. -/
def hostedAuthority : Url.Authority where
  username := ""
  password := none
  host := .name "ai.api.nvidia.com"
  port := none

theorem canonical_hostedAuthority [Url.Idna] : hostedAuthority.Canonical (.special 443) := by
  refine Url.Authority.canonical_of_host (Url.Host.Canonical.readsBack rfl ?_)
  apply Url.Host.Canonical.name
  · decide
  · have hall : ("ai.api.nvidia.com".toList.all fun c =>
        decide (Url.Host.isForbiddenInDomain c = false ∧ c.toLower = c)) = true := by decide
    exact Url.Host.toAscii_of_plain
      (fun c hc => of_decide_eq_true (List.all_eq_true.1 hall c hc)) (by decide)
  · decide

/-- An endpoint of the catalog is the text of a canonical url. -/
theorem exists_segments_of_mem_hosted {known : Model} (hknown : known ∈ hosted) {endpoint : String}
    (hendpoint : known.endpoint = some endpoint) :
    ∃ segments : List String, (∀ s ∈ segments, Url.Path.Plain s.toList) ∧ segments ≠ [] ∧
      endpoint = (Url.ofParts "https" hostedAuthority segments).text ∧
      endpoint.toList.getLast? = some 'g' := by
  simp only [hosted, List.mem_cons, List.not_mem_nil, or_false] at hknown
  obtain rfl | rfl | rfl | rfl := hknown <;> cases hendpoint
  · exact ⟨["v1", "retrieval", "nvidia", "reranking"], by decide, by simp, by decide, by decide⟩
  · exact ⟨["v1", "retrieval", "nvidia", "llama-3_2-nv-rerankqa-1b-v1", "reranking"],
      by decide, by simp, by decide, by decide⟩
  · exact ⟨["v1", "retrieval", "nvidia", "llama-3_2-nv-rerankqa-1b-v2", "reranking"],
      by decide, by simp, by decide, by decide⟩
  · exact ⟨["v1", "retrieval", "nvidia", "nv-rerankqa-mistral-4b-v3", "reranking"],
      by decide, by simp, by decide, by decide⟩

theorem trimEndSlashes_of_mem_hosted {known : Model} (hknown : known ∈ hosted) {endpoint : String}
    (hendpoint : known.endpoint = some endpoint) : Text.trimEndSlashes endpoint = endpoint := by
  obtain ⟨-, -, -, -, hlast⟩ := exists_segments_of_mem_hosted hknown hendpoint
  obtain ⟨front, hfront⟩ := List.getLast?_eq_some_iff.1 hlast
  exact Text.trimEndSlashes_of_concat hfront (by decide)

/-- Slashes after a url are empty segments. -/
theorem toList_text_replicate (scheme : String) (authority : Url.Authority)
    (segments : List String) (n : Nat) :
    (Url.ofParts scheme authority (segments ++ List.replicate n "")).text.toList =
      (Url.ofParts scheme authority segments).text.toList ++ List.replicate n '/' := by
  have hslashes : (List.replicate n "").flatMap (fun s => '/' :: s.toList) =
      List.replicate n '/' := by
    induction n with
    | zero => rfl
    | succ n ih =>
      rw [List.replicate_succ, List.flatMap_cons, ih]
      rfl
  simp [Url.toList_text_ofParts, Url.Path.toList_text_rooted, hslashes]

/-- What counts as an endpoint is read as a url with the same text. -/
theorem exists_parse_of_hasEndpoint [Url.Idna] {raw : String} (hraw : hosted.HasEndpoint raw) :
    ∃ url, Url.parse raw = .ok url ∧ url.text = raw := by
  obtain ⟨known, hknown, endpoint, hendpoint, hsame⟩ := hraw
  obtain ⟨n, hslashes⟩ := Text.exists_slashes raw
  rw [← hsame, trimEndSlashes_of_mem_hosted hknown hendpoint] at hslashes
  obtain ⟨segments, hplain, hne, rfl, -⟩ := exists_segments_of_mem_hosted hknown hendpoint
  rw [← toList_text_replicate] at hslashes
  obtain rfl := String.toList_inj.1 hslashes
  refine ⟨_, ?_, rfl⟩
  apply Url.parse_text_ofParts rfl canonical_hostedAuthority (by simp [hne])
  rw [List.forall_mem_append]
  refine ⟨hplain, ?_⟩
  intro s hs
  rw [List.eq_of_mem_replicate hs]
  exact Url.Path.plain_nil

end Rerank.Catalog
