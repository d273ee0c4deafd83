import Recall.Proofs.Stranding

/-!
What an index holds in fact. A prompt that is saved anew with a blank text keeps the document
that it had, so for each prompt the index goes by the last text that was not blank. Under
these texts a write and a deletion change the expected documents of one record only, or of
those that are deleted.
-/

namespace Recall

namespace Store

def indexedDocuments (store : Store) (texts : Int → Option String) : RecordKind → List Document
  | .observation => store.documents .observation
  | .summary => store.documents .summary
  | .prompt => (store.labels .prompt).flatMap fun label =>
    (texts label.id).toList.map
      (Document.make .prompt label.id label.project label.scope "prompt" none)

variable {store : Store} {texts : Int → Option String} {kind : RecordKind} {d : Document}

theorem mem_indexedPrompts : d ∈ store.indexedDocuments texts .prompt ↔
    ∃ label ∈ store.labels .prompt, ∃ text, texts label.id = some text ∧
      d = Document.make .prompt label.id label.project label.scope "prompt" none text := by
  simp only [indexedDocuments, List.mem_flatMap, List.mem_map, Option.mem_toList, eq_comm]

theorem indexedDocuments_made (member : d ∈ store.indexedDocuments texts kind) :
    ∃ label ∈ store.labels kind, ∃ field index content,
      d = Document.make kind label.id label.project label.scope field index content := by
  cases kind with
  | observation | summary => exact documents_made member
  | prompt =>
      obtain ⟨label, live, text, -, made⟩ := mem_indexedPrompts.mp member
      exact ⟨label, live, "prompt", none, text, made⟩

theorem indexedDocuments_isOf (member : d ∈ store.indexedDocuments texts kind) :
    ∃ id ∈ store.ids kind, d.IsOf kind id := by
  obtain ⟨label, live, field, index, content, rfl⟩ := indexedDocuments_made member
  exact ⟨label.id, List.mem_map_of_mem live, rfl, rfl⟩

theorem mem_flatMap_filter {rows : List α} (key : α → Int) {made : α → List Document}
    {ids : List Int} (own : ∀ row, ∀ d ∈ made row, d.metadata.sourceId = key row) :
    d ∈ (rows.filter fun row => !(key row ∈ ids)).flatMap made ↔
      d ∈ rows.flatMap made ∧ d.metadata.sourceId ∉ ids := by
  simp only [List.mem_flatMap, List.mem_filter, Bool.not_eq_true', decide_eq_false_iff_not]
  constructor
  · rintro ⟨row, ⟨live, kept⟩, member⟩
    rw [own row d member]
    exact ⟨⟨row, live, member⟩, kept⟩
  · rintro ⟨⟨row, live, member⟩, kept⟩
    rw [own row d member] at kept
    exact ⟨row, ⟨live, kept⟩, member⟩

theorem mem_delete_iff {ids : List Int} {other : RecordKind} (kind : RecordKind)
    (expected : Store → List Document)
    (type : d ∈ expected store → d.metadata.docType = kind.docType)
    (own : d ∈ expected (store.delete ids kind) ↔
      d ∈ expected store ∧ d.metadata.sourceId ∉ ids)
    (others : other ≠ kind → expected (store.delete ids other) = expected store) :
    d ∈ expected (store.delete ids other) ↔
      d ∈ expected store ∧ ¬ Eviction.Names ⟨other, ids⟩ d := by
  by_cases same : other = kind
  · subst same
    refine own.trans (and_congr_right fun member => not_congr ?_)
    rw [Document.names_iff ⟨type member, rfl⟩]
    exact (and_iff_right rfl).symm
  · rw [others same]
    refine ⟨fun member => ⟨member, ?_⟩, And.left⟩
    rw [Document.names_iff ⟨type member, rfl⟩]
    exact fun named => same named.1

theorem mem_documents_delete {ids : List Int} {other : RecordKind} :
    d ∈ (store.delete ids other).documents kind ↔
      d ∈ store.documents kind ∧ ¬ Eviction.Names ⟨other, ids⟩ d := by
  refine mem_delete_iff kind (·.documents kind) (fun member => ?_) ?_ fun differs => ?_
  · obtain ⟨label, -, describes⟩ := documents_describe member
    exact describes.docType
  · cases kind with
    | observation =>
        exact mem_flatMap_filter Observation.id fun _ _ => Document.ofObservation_source
    | summary => exact mem_flatMap_filter Summary.id fun _ _ => Document.ofSummary_source
    | prompt => exact mem_flatMap_filter Prompt.id fun _ _ => Document.ofPrompt_source
  · cases kind with
    | observation =>
        cases other with
        | observation => exact absurd rfl differs
        | summary | prompt => rfl
    | summary =>
        cases other with
        | summary => exact absurd rfl differs
        | observation | prompt => rfl
    | prompt =>
        cases other with
        | prompt => exact absurd rfl differs
        | observation | summary => rfl

theorem mem_indexedDocuments_delete {ids : List Int} {other : RecordKind} :
    d ∈ (store.delete ids other).indexedDocuments texts kind ↔
      d ∈ store.indexedDocuments texts kind ∧ ¬ Eviction.Names ⟨other, ids⟩ d := by
  cases kind with
  | observation =>
      change d ∈ (store.delete ids other).documents .observation ↔ _
      exact mem_documents_delete
  | summary =>
      change d ∈ (store.delete ids other).documents .summary ↔ _
      exact mem_documents_delete
  | prompt =>
      refine mem_delete_iff .prompt (·.indexedDocuments texts .prompt) (fun member => ?_) ?_
        fun differs => ?_
      · obtain ⟨id, -, own⟩ := indexedDocuments_isOf member
        exact own.1
      · simp only [indexedDocuments, labels_delete, if_true]
        refine mem_flatMap_filter Label.id fun label d made => ?_
        obtain ⟨text, -, rfl⟩ := List.mem_map.mp made
        rfl
      · simp only [indexedDocuments, labels_delete, if_neg (Ne.symm differs)]

end Store

namespace Submission

/-- A text that is not blank is the one that its prompt is indexed under from now on. -/
def renew (texts : Int → Option String) (id : Int) : Submission → Int → Option String
  | prompt _ text, other =>
    if other = id ∧ Text.isBlank text = false then some text else texts other
  | _, other => texts other

theorem renew_other {submission : Submission} {texts : Int → Option String} {id other : Int}
    (apart : submission.kind = .prompt → other ≠ id) :
    submission.renew texts id other = texts other := by
  cases submission with
  | prompt number text => exact if_neg fun same => apart rfl same.1
  | observation draft number | newObservation draft number | summary content number => rfl

namespace Writes

variable {submission : Submission} {occasion : Occasion} {before after : Store} {stored : Stored}

theorem documents_other (writes : submission.Writes occasion before after stored)
    {kind : RecordKind} {d : Document} (other : ¬ d.IsOf submission.kind stored.id)
    (kept : kind ≠ .prompt) : d ∈ after.documents kind ↔ d ∈ before.documents kind := by
  cases writes with
  | observation draft number isObservation scope room id written summaries prompts =>
      cases kind with
      | observation =>
          simp only [Store.documents, written, Table.insert, List.flatMap_append,
            List.flatMap_singleton, List.mem_append]
          refine or_iff_left fun made => other ?_
          obtain ⟨field, index, content, rfl⟩ := Document.ofObservation_made made
          exact ⟨congrArg RecordKind.docType isObservation.symm, id.symm⟩
      | summary => simp only [Store.documents, summaries]
      | prompt => exact absurd rfl kept
  | summary content number room id written observations prompts =>
      cases kind with
      | observation => simp only [Store.documents, observations]
      | summary =>
          simp only [Store.documents, written, Table.insert, List.flatMap_append,
            List.flatMap_singleton, List.mem_append]
          refine or_iff_left fun made => other ?_
          obtain ⟨field, content, rfl⟩ := Document.ofSummary_made made
          exact ⟨rfl, id.symm⟩
      | prompt => exact absurd rfl kept
  | newPrompt number text room id written observations summaries
  | savedPrompt number text room present written observations summaries =>
      cases kind with
      | observation => simp only [Store.documents, observations]
      | summary => simp only [Store.documents, summaries]
      | prompt => exact absurd rfl kept

theorem prompt_cases (writes : submission.Writes occasion before after stored)
    (sound : before.Sound) {p : Prompt} (live : p ∈ after.prompts.rows) :
    (∃ number text, submission = .prompt number text ∧ p.id = stored.id ∧ p.text = text) ∨
      (p ∈ before.prompts.rows ∧ (submission.kind = .prompt → p.id ≠ stored.id)) := by
  cases writes with
  | observation draft number isObservation scope room id written summaries prompts =>
      rw [prompts] at live
      refine Or.inr ⟨live, fun isPrompt => ?_⟩
      rw [isObservation] at isPrompt
      cases isPrompt
  | summary content number room id written observations prompts =>
      rw [prompts] at live
      exact Or.inr ⟨live, fun isPrompt => by cases isPrompt⟩
  | newPrompt number text room id written observations summaries =>
      rw [written, Table.insert, List.mem_append, List.mem_singleton] at live
      rcases live with old | rfl
      · refine Or.inr ⟨old, fun _ => ?_⟩
        have bound := (sound.bounds .prompt p.id (by
          rw [Store.ids_prompt]
          exact List.mem_map_of_mem old)).2
        simp only [Store.lastId] at bound
        omega
      · exact Or.inl ⟨number, text, rfl, id.symm, rfl⟩
  | savedPrompt number text room present written observations summaries =>
      rw [written] at live
      obtain ⟨old, member, rfl⟩ := List.mem_map.mp live
      by_cases same : old.id = stored.id
      · have named : Row.id old ∈ [stored.id] := List.mem_singleton.mpr same
        rw [if_pos named]
        exact Or.inl ⟨number, text, rfl, same, rfl⟩
      · have unnamed : Row.id old ∉ [stored.id] := fun named => same (List.mem_singleton.mp named)
        rw [if_neg unnamed]
        exact Or.inr ⟨member, fun _ => same⟩

theorem indexedDocuments_other (writes : submission.Writes occasion before after stored)
    (texts : Int → Option String) {kind : RecordKind} {d : Document}
    (other : ¬ d.IsOf submission.kind stored.id) :
    d ∈ after.indexedDocuments (submission.renew texts stored.id) kind ↔
      d ∈ before.indexedDocuments texts kind := by
  have renewed {label : Label} {text : String}
      (made : d = Document.make .prompt label.id label.project label.scope "prompt" none text) :
      submission.renew texts stored.id label.id = texts label.id := by
    refine renew_other fun isPrompt same => other ?_
    rw [made, isPrompt]
    exact ⟨rfl, same⟩
  cases kind with
  | observation =>
      have kept : RecordKind.observation ≠ .prompt := by decide
      exact writes.documents_other other kept
  | summary =>
      have kept : RecordKind.summary ≠ .prompt := by decide
      exact writes.documents_other other kept
  | prompt =>
      have labels (label : Label) (text : String)
          (made : d = Document.make .prompt label.id label.project label.scope "prompt" none text) :
          label ∈ after.labels .prompt ↔ label ∈ before.labels .prompt := by
        rcases writes.stores.labels_cases .prompt with same | ⟨new, grown, isPrompt, named, -⟩
        · rw [same]
        · rw [grown, List.mem_append, List.mem_singleton]
          refine or_iff_left fun isNew => other ?_
          rw [made, isNew, ← isPrompt]
          exact ⟨rfl, named⟩
      simp only [Store.mem_indexedPrompts]
      constructor
      · rintro ⟨label, live, text, shown, made⟩
        rw [renewed made] at shown
        exact ⟨label, (labels label text made).mp live, text, shown, made⟩
      · rintro ⟨label, live, text, shown, made⟩
        rw [← renewed made] at shown
        exact ⟨label, (labels label text made).mpr live, text, shown, made⟩

theorem not_indexed_before {kind : RecordKind} (next : stored.id = (before.lastId kind + 1 : Nat))
    (sound : before.Sound) {texts : Int → Option String} {d : Document}
    (own : d.IsOf kind stored.id) : d ∉ before.indexedDocuments texts kind := by
  intro member
  obtain ⟨id, live, isOf⟩ := Store.indexedDocuments_isOf member
  have bound := (sound.bounds kind id live).2
  have same : id = stored.id := isOf.2.symm.trans own.2
  omega

section Prompts

variable {number : Int} {text : String} {texts : Int → Option String} {d : Document}

theorem text_of_saved (writes : (Submission.prompt number text).Writes occasion before after stored)
    (sound : before.Sound) {p : Prompt} (live : p ∈ after.prompts.rows) (same : p.id = stored.id) :
    p.text = text := by
  rcases writes.prompt_cases sound live with ⟨_, _, isPrompt, -, saved⟩ | ⟨-, apart⟩
  · cases isPrompt
    exact saved
  · exact absurd same (apart rfl)

theorem not_documented_blank
    (writes : (Submission.prompt number text).Writes occasion before after stored)
    (sound : before.Sound) (blank : Text.isBlank text = true)
    (member : d ∈ after.documents .prompt) : ¬ d.IsOf .prompt stored.id := by
  intro isOf
  obtain ⟨p, live, made⟩ := List.mem_flatMap.mp member
  obtain ⟨filled, rfl⟩ := Document.mem_ofPrompt.mp made
  rw [writes.text_of_saved sound live isOf.2, blank] at filled
  cases filled

theorem documented_filled
    (writes : (Submission.prompt number text).Writes occasion before after stored)
    (sound : before.Sound) (filled : Text.isBlank text = false) {p : Prompt}
    (live : p ∈ after.prompts.rows) (same : p.id = stored.id) :
    Document.make .prompt p.id p.project none "prompt" none text ∈ after.documents .prompt := by
  have saved := writes.text_of_saved sound live same
  refine List.mem_flatMap.mpr ⟨p, live, Document.mem_ofPrompt.mpr ⟨?_, ?_⟩⟩
  · rw [saved]
    exact filled
  · rw [saved]

/-- A blank text is no reason to look for the prompt under another one than before. -/
theorem indexedPrompt_blank
    (writes : (Submission.prompt number text).Writes occasion before after stored)
    (sound : before.Sound)
    (known : ∀ id : Int, before.lastId .prompt < id → texts id = none)
    (own : d.IsOf .prompt stored.id) :
    d ∈ after.indexedDocuments texts .prompt ↔ d ∈ before.indexedDocuments texts .prompt := by
  rcases writes.stores with ⟨keeps, -⟩ | adds
  · simp only [Store.mem_indexedPrompts, keeps.labels]
  · refine iff_of_false ?_ (not_indexed_before adds.next sound own)
    intro member
    obtain ⟨label, -, shown, named, rfl⟩ := Store.mem_indexedPrompts.mp member
    have sameId : label.id = stored.id := own.2
    have next := adds.next
    simp only [Submission.kind] at next
    have past : (before.lastId .prompt : Int) < label.id := by omega
    rw [known label.id past] at named
    cases named

/-- A prompt without a document of its present state keeps the one that it had. -/
theorem indexedPrompt_own
    (writes : (Submission.prompt number text).Writes occasion before after stored)
    (sound : before.Sound)
    (known : ∀ id : Int, before.lastId .prompt < id → texts id = none)
    (own : d.IsOf .prompt stored.id) :
    d ∈ after.indexedDocuments ((Submission.prompt number text).renew texts stored.id) .prompt ↔
      d ∈ after.documents .prompt ∨
        (d ∈ before.indexedDocuments texts .prompt ∧
          ∀ e ∈ after.documents .prompt, e.IsOf .prompt stored.id → d.docId ≠ e.docId) := by
  cases blank : Text.isBlank text with
  | true =>
      have renewed : (Submission.prompt number text).renew texts stored.id = texts := by
        funext other
        exact if_neg fun same => by simp [blank] at same
      have undocumented {e : Document} (member : e ∈ after.documents .prompt) :
          ¬ e.IsOf .prompt stored.id :=
        writes.not_documented_blank sound blank member
      rw [renewed, writes.indexedPrompt_blank sound known own]
      constructor
      · exact fun member => Or.inr ⟨member, fun e made isOf => absurd isOf (undocumented made)⟩
      · exact fun either => (either.resolve_left fun member => undocumented member own).1
  | false =>
      have renewed : (Submission.prompt number text).renew texts stored.id stored.id = some text :=
        if_pos ⟨rfl, blank⟩
      constructor
      · intro member
        obtain ⟨label, live, shown, named, rfl⟩ := Store.mem_indexedPrompts.mp member
        have same : label.id = stored.id := own.2
        rw [same, renewed] at named
        cases named
        obtain ⟨p, present, rfl⟩ := List.mem_map.mp live
        exact Or.inl (writes.documented_filled sound blank present same)
      · rintro (member | ⟨old, apart⟩)
        · obtain ⟨p, live, isOf⟩ := List.mem_flatMap.mp member
          obtain ⟨-, rfl⟩ := Document.mem_ofPrompt.mp isOf
          have same : p.id = stored.id := own.2
          refine Store.mem_indexedPrompts.mpr ⟨p.label, List.mem_map_of_mem live, p.text, ?_, rfl⟩
          change (Submission.prompt number text).renew texts stored.id p.id = some p.text
          rw [same, renewed, writes.text_of_saved sound live same]
        · rcases writes.stores with ⟨keeps, -⟩ | adds
          · obtain ⟨label, live, shown, -, rfl⟩ := Store.mem_indexedPrompts.mp old
            rw [← keeps.labels] at live
            obtain ⟨p, present, rfl⟩ := List.mem_map.mp live
            -- The new document of the prompt has the id of the old one.
            have made := writes.documented_filled sound blank present own.2
            exact (apart _ made ⟨rfl, own.2⟩ rfl).elim
          · exact absurd old (not_indexed_before adds.next sound own)

end Prompts

theorem indexedDocuments_own (writes : submission.Writes occasion before after stored)
    (sound : before.Sound) {texts : Int → Option String}
    (known : ∀ id : Int, before.lastId .prompt < id → texts id = none) {d : Document}
    (own : d.IsOf submission.kind stored.id) :
    d ∈ after.indexedDocuments (submission.renew texts stored.id) submission.kind ↔
      d ∈ after.documents submission.kind ∨
        (d ∈ before.indexedDocuments texts submission.kind ∧
          ∀ e ∈ after.documents submission.kind, e.IsOf submission.kind stored.id →
            d.docId ≠ e.docId) := by
  cases submission with
  | observation draft number | newObservation draft number =>
      cases writes with
      | observation draft number kind scope room id =>
          have fresh : d ∉ before.indexedDocuments texts .observation :=
            not_indexed_before id sound own
          exact ⟨Or.inl, fun either => either.resolve_right fun old => fresh old.1⟩
  | summary content number =>
      cases writes with
      | observation draft number kind => cases kind
      | summary content number room id =>
          have fresh : d ∉ before.indexedDocuments texts .summary :=
            not_indexed_before id sound own
          exact ⟨Or.inl, fun either => either.resolve_right fun old => fresh old.1⟩
  | prompt number text => exact writes.indexedPrompt_own sound known own

end Writes

end Submission

end Recall
