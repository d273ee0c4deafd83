import Mathlib.Data.List.Nodup
import Recall.Proofs.Labels

namespace Recall

/-- The copy of a label that a document carries. -/
structure DocumentMetadata.Describes (m : DocumentMetadata) (kind : RecordKind)
    (label : Label) : Prop where
  docType : m.docType = kind.docType
  sourceId : m.sourceId = label.id
  project : m.project = label.project
  scope : m.scope = label.scope.map Scope.name

theorem RecordKind.docType_injective {first second : RecordKind}
    (same : first.docType = second.docType) : first = second := by
  revert same
  cases first <;> cases second <;> decide

theorem Document.make_describes (kind : RecordKind) (label : Label) (field : String)
    (index : Option Nat) (content : String) :
    (Document.make kind label.id label.project label.scope field index content).metadata.Describes
      kind label :=
  ⟨rfl, rfl, rfl, rfl⟩

theorem Document.ofObservation_made {o : Observation} {d : Document}
    (member : d ∈ Document.ofObservation o) :
    ∃ field index content,
      d = Document.make .observation o.id o.project (some o.scope) field index content := by
  simp only [Document.ofObservation] at member
  split at member
  · rcases List.mem_append.mp member with narrative | fact
    · obtain ⟨text, -, rfl⟩ := List.mem_map.mp narrative
      exact ⟨_, _, _, rfl⟩
    · obtain ⟨⟨text, i⟩, -, made⟩ := List.mem_filterMap.mp fact
      obtain ⟨content, -, rfl⟩ := Option.map_eq_some_iff.mp made
      exact ⟨_, _, _, rfl⟩
  · split at member
    · rw [List.mem_singleton.mp member]
      exact ⟨_, _, _, rfl⟩
    · rw [List.mem_singleton.mp member]
      exact ⟨_, _, _, rfl⟩
    · cases member

theorem Document.ofSummary_made {s : Summary} {d : Document}
    (member : d ∈ Document.ofSummary s) :
    ∃ field content, d = Document.make .summary s.id s.project none field none content := by
  obtain ⟨⟨field, content⟩, -, rfl⟩ := List.mem_map.mp member
  exact ⟨field, content, rfl⟩

theorem Document.mem_ofPrompt {p : Prompt} {d : Document} : d ∈ Document.ofPrompt p ↔
    Text.isBlank p.text = false ∧
      d = Document.make .prompt p.id p.project none "prompt" none p.text := by
  simp only [Document.ofPrompt, Document.nonBlank]
  cases blank : Text.isBlank p.text with
  | true => simp [Option.filter, blank]
  | false => simp [Option.filter, blank]

theorem Document.ofObservation_source {o : Observation} {d : Document}
    (member : d ∈ Document.ofObservation o) : d.metadata.sourceId = o.id := by
  obtain ⟨field, index, content, rfl⟩ := Document.ofObservation_made member
  rfl

theorem Document.ofSummary_source {s : Summary} {d : Document}
    (member : d ∈ Document.ofSummary s) : d.metadata.sourceId = s.id := by
  obtain ⟨field, content, rfl⟩ := Document.ofSummary_made member
  rfl

theorem Document.ofPrompt_source {p : Prompt} {d : Document}
    (member : d ∈ Document.ofPrompt p) : d.metadata.sourceId = p.id := by
  rw [(Document.mem_ofPrompt.mp member).2]
  rfl

namespace Table

variable [Row α] {table : Table α} {row : α} {id : Int}

theorem find?_present (found : table.find? id = some row) :
    row ∈ table.rows ∧ Row.id row = id :=
  ⟨List.mem_of_find?_eq_some found, by simpa using List.find?_some found⟩

theorem find?_of_nodup (once : (table.rows.map Row.id).Nodup) (live : row ∈ table.rows) :
    table.find? (Row.id row) = some row := by
  cases found : table.find? (Row.id row) with
  | none =>
      have absent := List.find?_eq_none.mp found row live
      simp at absent
  | some other =>
      obtain ⟨present, same⟩ := find?_present found
      rw [List.inj_on_of_nodup_map once present live same]

theorem mem_find?_flatMap (once : (table.rows.map Row.id).Nodup) {made : α → List Document}
    {d : Document} (own : ∀ row, d ∈ made row → d.metadata.sourceId = Row.id row) :
    d ∈ (table.find? id).toList.flatMap made ↔
      d ∈ table.rows.flatMap made ∧ d.metadata.sourceId = id := by
  simp only [List.mem_flatMap, Option.mem_toList]
  constructor
  · rintro ⟨row, found, member⟩
    obtain ⟨live, same⟩ := find?_present found
    exact ⟨⟨row, live, member⟩, (own row member).trans same⟩
  · rintro ⟨⟨row, live, member⟩, rfl⟩
    refine ⟨row, ?_, member⟩
    rw [own row member]
    exact find?_of_nodup once live

theorem find?_remove (table : Table α) {ids : List Int} (kept : id ∉ ids) :
    (table.remove ids).find? id = table.find? id := by
  simp only [find?, remove, List.find?_filter]
  congr 1
  funext row
  by_cases same : Row.id row = id
  · simp [same, kept]
  · simp [same]

end Table

namespace Store

def documents (store : Store) : RecordKind → List Document
  | .observation => store.observations.rows.flatMap Document.ofObservation
  | .summary => store.summaries.rows.flatMap Document.ofSummary
  | .prompt => store.prompts.rows.flatMap Document.ofPrompt

theorem documents_made {store : Store} {kind : RecordKind} {d : Document}
    (member : d ∈ store.documents kind) :
    ∃ label ∈ store.labels kind, ∃ field index content,
      d = Document.make kind label.id label.project label.scope field index content := by
  cases kind with
  | observation =>
      obtain ⟨o, live, made⟩ := List.mem_flatMap.mp member
      exact ⟨o.label, List.mem_map_of_mem live, Document.ofObservation_made made⟩
  | summary =>
      obtain ⟨s, live, made⟩ := List.mem_flatMap.mp member
      obtain ⟨field, content, made⟩ := Document.ofSummary_made made
      exact ⟨s.label, List.mem_map_of_mem live, field, none, content, made⟩
  | prompt =>
      obtain ⟨p, live, made⟩ := List.mem_flatMap.mp member
      exact ⟨p.label, List.mem_map_of_mem live, "prompt", none, p.text,
        (Document.mem_ofPrompt.mp made).2⟩

theorem documents_describe {store : Store} {kind : RecordKind} {d : Document}
    (member : d ∈ store.documents kind) :
    ∃ label ∈ store.labels kind, d.metadata.Describes kind label := by
  obtain ⟨label, live, field, index, content, rfl⟩ := documents_made member
  exact ⟨label, live, Document.make_describes kind label field index content⟩

theorem Sound.label_unique {store : Store} (sound : store.Sound) {kind : RecordKind}
    {first second : Label} (one : first ∈ store.labels kind) (other : second ∈ store.labels kind)
    (same : first.id = second.id) : first = second :=
  List.inj_on_of_nodup_map (sound.nodup kind) one other same

theorem Sound.find?_observation {store : Store} (sound : store.Sound) {o : Observation}
    (live : o ∈ store.observations.rows) : store.observations.find? o.id = some o := by
  have once := sound.nodup .observation
  rw [ids_observation] at once
  exact Table.find?_of_nodup once live

theorem Sound.find?_summary {store : Store} (sound : store.Sound) {s : Summary}
    (live : s ∈ store.summaries.rows) : store.summaries.find? s.id = some s := by
  have once := sound.nodup .summary
  rw [ids_summary] at once
  exact Table.find?_of_nodup once live

theorem Sound.find?_prompt {store : Store} (sound : store.Sound) {p : Prompt}
    (live : p ∈ store.prompts.rows) : store.prompts.find? p.id = some p := by
  have once := sound.nodup .prompt
  rw [ids_prompt] at once
  exact Table.find?_of_nodup once live

theorem Sound.mem_documentsOf {store : Store} (sound : store.Sound)
    {kind : RecordKind} {id : Int} {d : Document} : d ∈ store.documentsOf kind id ↔
      d ∈ store.documents kind ∧ d.metadata.sourceId = id := by
  have once := sound.nodup kind
  cases kind with
  | observation =>
      rw [ids_observation] at once
      exact Table.mem_find?_flatMap once fun _ => Document.ofObservation_source
  | summary =>
      rw [ids_summary] at once
      exact Table.mem_find?_flatMap once fun _ => Document.ofSummary_source
  | prompt =>
      rw [ids_prompt] at once
      exact Table.mem_find?_flatMap once fun _ => Document.ofPrompt_source

theorem documentsOf_subset {store : Store} {kind : RecordKind} {id : Int}
    {d : Document} (member : d ∈ store.documentsOf kind id) : d ∈ store.documents kind := by
  cases kind with
  | observation | summary | prompt =>
      obtain ⟨row, found, made⟩ := List.mem_flatMap.mp member
      have live := List.mem_of_find?_eq_some (Option.mem_toList.mp found)
      exact List.mem_flatMap.mpr ⟨row, live, made⟩

theorem documentsOf_source {store : Store} {kind : RecordKind} {id : Int} {d : Document}
    (member : d ∈ store.documentsOf kind id) : d.metadata.sourceId = id := by
  cases kind with
  | observation =>
      obtain ⟨row, found, made⟩ := List.mem_flatMap.mp member
      exact (Document.ofObservation_source made).trans
        (Table.find?_present (Option.mem_toList.mp found)).2
  | summary =>
      obtain ⟨row, found, made⟩ := List.mem_flatMap.mp member
      exact (Document.ofSummary_source made).trans
        (Table.find?_present (Option.mem_toList.mp found)).2
  | prompt =>
      obtain ⟨row, found, made⟩ := List.mem_flatMap.mp member
      exact (Document.ofPrompt_source made).trans
        (Table.find?_present (Option.mem_toList.mp found)).2

theorem documentsOf_delete (store : Store) (kind : RecordKind) {id : Int} {ids : List Int}
    (kept : id ∉ ids) : (store.delete ids kind).documentsOf kind id = store.documentsOf kind id := by
  cases kind with
  | observation | summary | prompt => simp only [documentsOf, delete, Table.find?_remove _ kept]

end Store

end Recall
