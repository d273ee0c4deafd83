import Recall.Embedding.WordHash
import Recall.Proofs.Stranding

namespace Recall

namespace Store

/-- The document names a record that is there, and agrees with it. -/
def Owns (store : Store) (d : Document) : Prop :=
  ∃ kind, ∃ label ∈ store.labels kind, d.metadata.Describes kind label

/-- The document names a record that is or once was there, and agrees with it if it is. -/
def Knows (store : Store) (d : Document) : Prop :=
  ∃ kind, d.metadata.docType = kind.docType ∧ d.metadata.sourceId ≤ store.lastId kind ∧
    ∀ label ∈ store.labels kind, label.id = d.metadata.sourceId → d.metadata.Describes kind label

theorem Sound.knows {store : Store} (sound : store.Sound) {kind : RecordKind} {d : Document}
    (member : d ∈ store.documents kind) : store.Knows d := by
  obtain ⟨own, present, describes⟩ := documents_describe member
  refine ⟨kind, describes.docType, ?_, ?_⟩
  · rw [describes.sourceId]
    exact (sound.bounds kind own.id (List.mem_map_of_mem present)).2
  · intro label live same
    rw [sound.label_unique live present (same.trans describes.sourceId)]
    exact describes

theorem Knows.delete {store : Store} {d : Document} (known : store.Knows d) (ids : List Int)
    (kind : RecordKind) : (store.delete ids kind).Knows d := by
  obtain ⟨own, named, bounded, agrees⟩ := known
  refine ⟨own, named, by rwa [lastId_delete], ?_⟩
  intro label live same
  rw [labels_delete] at live
  split at live
  · rename_i sameKind
    subst sameKind
    exact agrees label (List.mem_filter.mp live).1 same
  · exact agrees label live same

end Store

theorem Engine.perform_knows {engine : Engine} (operation : Operation)
    (sound : engine.store.Sound) (known : ∀ d ∈ engine.documents, engine.store.Knows d)
    {d : Document} (member : d ∈ (engine.perform operation).engine.documents) :
    (engine.perform operation).engine.store.Knows d := by
  have effect := engine.perform_effect operation
  rcases engine.perform_documents operation member with
    ⟨earlier, -⟩ | ⟨kind, new⟩ | ⟨submission, occasion, stored, mid, rfl, overtaken, new⟩
  · obtain ⟨kind, named, bounded, agrees⟩ := known d earlier
    have grown := effect.lastId_le kind
    refine ⟨kind, named, by omega, ?_⟩
    intro label live same
    rcases effect.label_cases live with before | fresh
    · exact agrees label before same
    · omega
  · exact (effect.sound sound).knows new
  · have stores := (Submission.transaction_writes overtaken.ran).stores
    obtain ⟨ids, deleted⟩ := overtaken.deleted
    change (engine.record occasion submission).engine.store.Knows d
    rw [deleted]
    exact ((stores.sound sound).knows (Store.documentsOf_subset new)).delete ids submission.kind

theorem Engine.perform_owns {engine : Engine} {operation : Operation} (online : engine.Online)
    (spared : ∀ kind ids, operation ≠ .delete kind ids)
    (unhurried : ¬ Step.Overtaken ⟨engine, operation⟩)
    (owned : ∀ d ∈ engine.documents, engine.store.Owns d) {d : Document}
    (member : d ∈ (engine.perform operation).engine.documents) :
    (engine.perform operation).engine.store.Owns d := by
  rcases engine.perform_documents operation member with
    ⟨earlier, unnamed⟩ | ⟨kind, new⟩ | ⟨submission, occasion, stored, mid, asked, overtaken, -⟩
  · obtain ⟨kind, label, live, describes⟩ := owned d earlier
    rcases (engine.perform_effect operation).label_kept live with
      kept | ⟨eviction, reported, same, named⟩ | ⟨ids, asked⟩
    · exact ⟨kind, label, kept, describes⟩
    · refine absurd ?_ (unnamed online eviction reported)
      refine ⟨?_, ?_⟩
      · rw [same]
        exact describes.docType
      · rw [describes.sourceId]
        exact named
    · exact absurd asked (spared kind ids)
  · obtain ⟨label, live, describes⟩ := Store.documents_describe new
    exact ⟨kind, label, live, describes⟩
  · exact absurd ⟨submission, occasion, stored, mid, asked, overtaken⟩ unhurried

/-- An index that was served at some time during the run may name records that are gone, but
it never contradicts one that is there. -/
theorem Engine.after_knows (engine : Engine) (operations : List Operation)
    (sound : engine.store.Sound) (bare : engine.documents = []) :
    ∀ d ∈ (engine.after operations).documents, (engine.after operations).store.Knows d := by
  let holds (met : Engine) : Prop :=
    met.store.Sound ∧ ∀ d ∈ met.documents, met.store.Knows d
  have reached : holds (engine.after operations) := by
    apply engine.after_invariant holds operations
    · exact ⟨sound, by simp [bare]⟩
    · rintro operation - met ⟨sound, known⟩
      exact ⟨(met.perform_effect operation).sound sound,
        fun d member => met.perform_knows operation sound known member⟩
  exact reached.2

theorem Engine.Strands.not_owned {engine : Engine} {kind : RecordKind} {id : Int}
    (strands : engine.Strands kind id) : ∃ d ∈ engine.documents, ¬ engine.store.Owns d := by
  obtain ⟨d, held, own⟩ := strands.held
  refine ⟨d, held, ?_⟩
  rintro ⟨other, label, live, describes⟩
  obtain rfl := RecordKind.docType_injective (describes.docType.symm.trans own.1)
  have named : label.id = id := describes.sourceId.symm.trans own.2
  exact strands.gone (named ▸ List.mem_map_of_mem live)

theorem Engine.after_owns {engine : Engine} {operations : List Operation}
    (online : engine.Online) (bare : engine.documents = [])
    (spared : ∀ operation ∈ operations, ∀ kind ids, operation ≠ .delete kind ids)
    (unhurried : ∀ step ∈ engine.history operations, ¬ step.Overtaken) :
    ∀ d ∈ (engine.after operations).documents, (engine.after operations).store.Owns d := by
  induction operations using List.reverseRecOn with
  | nil =>
      change ∀ d ∈ engine.documents, engine.store.Owns d
      simp [bare]
  | append_singleton operations operation ih =>
      rw [Engine.history_concat] at unhurried
      have owned := ih (fun other member => spared other (List.mem_append_left _ member))
        fun step member => unhurried step (List.mem_append_left _ member)
      have still : (engine.after operations).Online :=
        engine.after_invariant Online operations online fun other _ met held =>
          met.perform_online other held
      rw [Engine.after_concat]
      exact fun d member => Engine.perform_owns still (spared operation (by simp))
        (unhurried _ (by simp)) owned member

theorem Engine.not_overtaken_of_owned {engine : Engine} {operations : List Operation}
    (sound : engine.store.Sound) (online : engine.Online) (bare : engine.documents = [])
    (owned : ∀ d ∈ (engine.after operations).documents, (engine.after operations).store.Owns d) :
    ∀ step ∈ engine.history operations, ¬ step.Overtaken := by
  intro step member overtaken
  have made : engine.AllMade := by
    intro d held
    rw [bare] at held
    cases held
  obtain ⟨kind, id, strands⟩ := Engine.after_strands online made sound member overtaken
  obtain ⟨d, held, lost⟩ := strands.not_owned
  exact lost (owned d held)

/-- Embedders may fail on any text, give too few vectors and be exchanged during the run, and
quotas may be zero. -/
theorem indexed_documents_owned_iff (engine : Engine) (operations : List Operation)
    (sound : engine.store.Sound) (online : engine.Online) (bare : engine.documents = [])
    (spared : ∀ operation ∈ operations, ∀ kind ids, operation ≠ .delete kind ids) :
    (∀ d ∈ (engine.after operations).documents, (engine.after operations).store.Owns d) ↔
      ∀ step ∈ engine.history operations, ¬ step.Overtaken :=
  ⟨Engine.not_overtaken_of_owned sound online bare, Engine.after_owns online bare spared⟩

def faulty : Engine where
  retention := { observationsPerProject := 0, observationsEverywhere := 1, prompts := 1 }
  index := some { embedder := Embedding.withFaults (Embedding.wordEmbedder "first") }

/-- Records that are evicted at once or later, or cannot be indexed, and a change of vectors. -/
def faulting : List Operation :=
  let occasion (now : Int) (pass : PassTurn) : Occasion :=
    { sessionKey := "session", project := "project", now, pass }
  let draft (scope : Scope) (narrative : String) : ObservationDraft :=
    { content := { type := .bugfix, narrative := some narrative }, scope := some scope }
  [.record (.observation (draft .project "gone at once") none) (occasion 1 .early),
    .record (.observation (draft .project "gone at last") none) (occasion 1 .late),
    .record (.observation (draft .project "poison") none) (occasion 1 .between),
    .record (.observation (draft .everywhere "kept for a while") (some 1)) (occasion 2 .between),
    .record (.newObservation (draft .everywhere "a shortfall of vectors") none) (occasion 3 .late),
    .record (.summary { request := some "poison", learned := some "little" } none)
      (occasion 4 .early),
    .record (.prompt 1 "why?") (occasion 5 .between),
    .record (.prompt 1 "what?") (occasion 6 .between),
    .record (.prompt 2 "poison?") (occasion 7 .early),
    .embedWith (Embedding.wordEmbedder "second"),
    .cleanup .observation .everywhere,
    .amend (.markSuperseded [3]),
    .reembed,
    .search { query := some "while" } 8]

theorem faulty_documents_owned_iff :
    (faulty.store.Sound ∧ faulty.Online ∧ faulty.documents = [] ∧
      ∀ operation ∈ faulting, ∀ kind ids, operation ≠ .delete kind ids) ∧
    ((∀ d ∈ (faulty.after faulting).documents, (faulty.after faulting).store.Owns d) ↔
      ∀ step ∈ faulty.history faulting, ¬ step.Overtaken) := by
  have online : faulty.Online := by
    rintro served ⟨rfl⟩
    rfl
  have spared : ∀ operation ∈ faulting, ∀ kind ids, operation ≠ .delete kind ids := by
    simp [faulting]
  exact ⟨⟨Store.sound_empty, online, rfl, spared⟩,
    indexed_documents_owned_iff faulty faulting Store.sound_empty online rfl spared⟩

def racing : List Operation :=
  let occasion : Occasion :=
    { sessionKey := "session", project := "project", now := 1, pass := .between }
  let draft : ObservationDraft :=
    { content := { type := .bugfix, narrative := some "a race" }, scope := some .project }
  [.record (.observation draft none) occasion]

theorem raced_document_not_owned :
    ¬ ∀ d ∈ (faulty.after racing).documents, (faulty.after racing).store.Owns d := by
  intro owned
  let left := Document.make .observation 1 "project" (some .project) "narrative" none "a race"
  have held : left ∈ (faulty.after racing).documents := by decide +kernel
  obtain ⟨kind, label, live, -⟩ := owned left held
  have bare : (faulty.after racing).store.labels kind = [] := by
    cases kind <;> decide +kernel
  rw [bare] at live
  cases live

end Recall
