/-
  VirtualService/Proofs/Http.lean
  ===============================
  **Requests that arrive by HTTP.**

  The fields of such a request have names that are apart in lower case, and hold
  texts, arrays of texts and objects of these (`HttpParts.toRequest_cases`).  So two
  of them that are the same to the program are identical.
-/
import VirtualService.Proofs.Key
import VirtualService.Proofs.Sameness
import VirtualService.Proofs.WellFormed
import VirtualService.Request

namespace VirtualService

namespace Json

theorem gather_floatless {members : Dict Json} (h : (Json.obj members).Floatless) (key : String)
    {j : Json} (hj : j.Floatless) : (Json.obj (gather members key j)).Floatless := by
  have values := floatlessMembers_iff.mp h
  have insert {j : Json} (hj : j.Floatless) : (Json.obj (Dict.insert members key j)).Floatless := by
    refine floatlessMembers_iff.mpr fun entry mem => ?_
    rcases Dict.mem_insert mem with rfl | mem
    · exact hj
    · exact values entry mem
  rw [gather]
  split
  · exact insert hj
  · next items found =>
    have before : FloatlessItems items := values _ (Dict.mem_of_find? found)
    refine insert (floatlessItems_iff.mpr fun item mem => ?_)
    rcases List.mem_append.mp mem with mem | mem
    · exact floatlessItems_iff.mp before item mem
    · exact List.mem_singleton.mp mem ▸ hj
  · next first _ found => exact insert ⟨values _ (Dict.mem_of_find? found), hj, trivial⟩

theorem gatherAll_floatless {members : Dict Json} (h : (Json.obj members).Floatless)
    {pairs : List (String × Json)} (values : ∀ entry ∈ pairs, entry.2.Floatless) :
    (Json.obj (gatherAll members pairs)).Floatless := by
  induction pairs generalizing members with
  | nil => exact h
  | cons entry rest ih =>
    rw [gatherAll, List.foldl_cons]
    exact ih (gather_floatless h entry.1 (values entry List.mem_cons_self))
      fun other mem => values other (List.mem_cons_of_mem _ mem)

end Json

theorem Query.parse_wellFormed (query : String) : (Json.obj (parse query)).WellFormed := by
  refine Json.gatherAll_wellFormed Json.wellFormed_nil fun entry mem => ?_
  obtain ⟨pair, -, rfl⟩ := List.mem_map.mp mem
  trivial

theorem Query.parse_floatless (query : String) : (Json.obj (parse query)).Floatless := by
  have start : (Json.obj []).Floatless := trivial
  refine Json.gatherAll_floatless start fun entry mem => ?_
  obtain ⟨pair, -, rfl⟩ := List.mem_map.mp mem
  trivial

namespace HttpParts

variable {parts : HttpParts} {entry : String × Json}

/-- The names that fields of a request by HTTP can have. -/
def names : List String :=
  ["requestFrom", "ip", "method", "path", "query", "form", "headers", "body"]

/-- What a field of a request by HTTP can be. -/
theorem toRequest_cases (mem : entry ∈ parts.toRequest) :
    entry.1 ∈ names ∧
      ((∃ text, entry.2 = .str text) ∨ (∃ text, entry.2 = .obj (Query.parse text)) ∨
        ∃ headers : List (String × String),
          entry.2 = .obj (Dict.ofList (headers.map fun header => (header.1, .str header.2)))) := by
  have among := Dict.mem_ofList mem
  simp only [List.mem_append, List.mem_cons, List.not_mem_nil, or_false] at among
  rcases among with ((sender | rfl | rfl | rfl) | form) | rfl | rfl
  · cases sent : parts.sender with
    | none => simp [sent] at sender
    | some address =>
      simp only [sent, List.mem_cons, List.not_mem_nil, or_false] at sender
      rcases sender with rfl | rfl
      · exact ⟨by simp [names], .inl ⟨_, rfl⟩⟩
      · exact ⟨by simp [names], .inl ⟨_, rfl⟩⟩
  · exact ⟨by simp [names], .inl ⟨_, rfl⟩⟩
  · exact ⟨by simp [names], .inl ⟨_, rfl⟩⟩
  · exact ⟨by simp [names], .inr (.inl ⟨_, rfl⟩)⟩
  · split at form
    · rw [List.mem_singleton.mp form]
      exact ⟨by simp [names], .inr (.inl ⟨_, rfl⟩)⟩
    · cases form
  · exact ⟨by simp [names], .inr (.inr ⟨parts.headers, rfl⟩)⟩
  · exact ⟨by simp [names], .inl ⟨_, rfl⟩⟩

theorem toRequest_wellFormed (parts : HttpParts) : (Json.obj parts.toRequest).WellFormed := by
  have values : ∀ entry ∈ parts.toRequest, entry.2.WellFormed := by
    intro entry mem
    rcases (toRequest_cases mem).2 with ⟨text, value⟩ | ⟨text, value⟩ | ⟨headers, value⟩
    · rw [value]
      trivial
    · rw [value]
      exact Query.parse_wellFormed text
    · rw [value]
      refine Json.wellFormed_ofList fun entry mem => ?_
      obtain ⟨header, -, rfl⟩ := List.mem_map.mp mem
      trivial
  exact Json.wellFormed_obj.mpr ⟨Dict.sorted_ofList _, values⟩

theorem toRequest_floatless (mem : entry ∈ parts.toRequest) : entry.2.Floatless := by
  rcases (toRequest_cases mem).2 with ⟨text, value⟩ | ⟨text, value⟩ | ⟨headers, value⟩
  · rw [value]
    trivial
  · rw [value]
    exact Query.parse_floatless text
  · rw [value]
    refine Json.floatlessMembers_iff.mpr fun entry mem => ?_
    obtain ⟨header, -, rfl⟩ := List.mem_map.mp (Dict.mem_ofList mem)
    trivial

/-- No two fields have names that agree in lower case. -/
theorem toRequest_apart (parts : HttpParts) : KeyMatch.folded.Apart parts.toRequest := by
  have distinct : (parts.toRequest.map Prod.fst).Nodup := (Dict.sorted_ofList _).keys_nodup
  have injective : ∀ a ∈ names, ∀ b ∈ names, lowered a = lowered b → a = b := by
    decide +kernel
  have lower : ((parts.toRequest.map Prod.fst).map lowered).Nodup := by
    refine distinct.map_on fun a memA b memB same => ?_
    obtain ⟨entryA, thereA, rfl⟩ := List.mem_map.mp memA
    obtain ⟨entryB, thereB, rfl⟩ := List.mem_map.mp memB
    exact injective _ (toRequest_cases thereA).1 _ (toRequest_cases thereB).1 same
  rw [List.map_map] at lower
  exact lower

theorem find?_method (parts : HttpParts) :
    Dict.find? parts.toRequest "method" = some (.str parts.method) := by
  unfold toRequest
  dsimp only
  rw [Dict.find?_ofList]
  simp only [List.reverse_append, Dict.find?_append]
  cases parts.isForm <;> simp

end HttpParts

end VirtualService
