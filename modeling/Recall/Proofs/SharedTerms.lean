import Recall.Proofs.Repetition
import Recall.Proofs.Words
import Recall.Tool.Parameters

namespace Recall

namespace ObservationContent

def Mentions (content : ObservationContent) (word : String) : Prop :=
  ∃ text, (content.title = some text ∨ content.narrative = some text ∨ text ∈ content.facts) ∧
    Text.IsWord text word

def Touches (content : ObservationContent) (name : String) : Prop :=
  ∃ path, (path ∈ content.filesRead ∨ path ∈ content.filesModified) ∧
    Similarity.baseName path ≠ "" ∧ Text.lowercase (Similarity.baseName path) = name

def HasTerm (content : ObservationContent) (term : String) : Prop :=
  (content.Mentions term ∧ Similarity.isTerm term = true) ∨ content.Touches term

end ObservationContent

namespace Similarity

theorem mem_asSet {texts : List String} {text : String} : text ∈ asSet texts ↔ text ∈ texts := by
  rw [asSet, List.mem_mergeSort, List.mem_eraseDups]

theorem fileTerm_eq_some {path name : String} : fileTerm path = some name ↔
    baseName path ≠ "" ∧ Text.lowercase (baseName path) = name := by
  simp only [fileTerm]
  split
  · rename_i empty
    simp [String.isEmpty_iff.mp empty]
  · rename_i named
    rw [String.isEmpty_iff] at named
    simp [named]

theorem mem_terms_iff {content : ObservationContent} {term : String} :
    term ∈ terms content ↔ content.HasTerm term := by
  rw [terms, mem_asSet, termOccurrences, List.mem_append]
  apply or_congr
  · simp only [List.mem_flatMap, List.mem_filter, Text.mem_words_iff, List.mem_append,
      Option.mem_toList, ObservationContent.Mentions, or_assoc]
    constructor
    · rintro ⟨text, somewhere, word, weighty⟩
      exact ⟨⟨text, somewhere, word⟩, weighty⟩
    · rintro ⟨⟨text, somewhere, word⟩, weighty⟩
      exact ⟨text, somewhere, word, weighty⟩
  · simp only [List.mem_filterMap, List.mem_append, fileTerm_eq_some, ObservationContent.Touches]

/-- Above a threshold of zero, what is similar shares something or is empty alike. -/
theorem similar_shares {threshold : Float} (positive : Number.atMost threshold 0 = false)
    {a b : List String} (alike : similar threshold a b = true) :
    (∃ term ∈ a, term ∈ b) ∨ (a = [] ∧ b = []) := by
  by_cases empty : a = [] ∧ b = []
  · exact Or.inr empty
  · refine Or.inl ?_
    by_contra nothing
    have apart : a.countP (b.contains ·) = 0 := by
      apply List.countP_eq_zero.mpr
      intro term member common
      exact nothing ⟨term, member, List.contains_iff_mem.mp common⟩
    have filled : (a.isEmpty && b.isEmpty) = false := by
      simpa [Bool.and_eq_true] using empty
    have unrelated : (overlap a b).toDouble = 0 := by
      simp only [overlap, filled, apart, Overlap.toDouble]
      rfl
    rw [similar, unrelated, positive] at alike
    cases alike

end Similarity

/-- An observation that is passed over has a term in common with a recent one that its project
sees, or neither of the two has any term. -/
theorem passed_over_shares_term (store : Store) (sound : store.Sound)
    (settings : RetentionSettings) (positive : Number.atMost settings.dedupThreshold 0 = false)
    (draft : ObservationDraft) (number : Option Int) (occasion : Occasion)
    (passed : (store.writeNewObservation settings draft number occasion).result = .ok none) :
    ∃ o, store.Recent occasion.project settings.dedupWindow o ∧
      ((∃ term, draft.content.HasTerm term ∧ o.content.HasTerm term) ∨
        ∀ term, ¬draft.content.HasTerm term ∧ ¬o.content.HasTerm term) := by
  have repeated := Store.writeNewObservation_none_iff.mp passed
  obtain ⟨o, recent, alike⟩ := (Store.repeatsRecent_iff sound).mp repeated
  refine ⟨o, recent, ?_⟩
  rcases Similarity.similar_shares positive alike with ⟨term, one, other⟩ | ⟨one, other⟩
  · exact Or.inl ⟨term, Similarity.mem_terms_iff.mp one, Similarity.mem_terms_iff.mp other⟩
  · refine Or.inr fun term => ?_
    rw [← Similarity.mem_terms_iff, ← Similarity.mem_terms_iff, one, other]
    exact ⟨List.not_mem_nil, List.not_mem_nil⟩

theorem recached_shares_term :
    let settings : RetentionSettings := {}
    let draft : ObservationDraft := { content := { type := .change, narrative := some "Cache!" } }
    let occasion : Occasion := { sessionKey := "evening", project := "project", now := 2 }
    (begun.store.Sound ∧ Number.atMost settings.dedupThreshold 0 = false ∧
      (begun.store.writeNewObservation settings draft none occasion).result = .ok none) ∧
    ∃ o, begun.store.Recent "project" settings.dedupWindow o ∧
      ((∃ term, draft.content.HasTerm term ∧ o.content.HasTerm term) ∨
        ∀ term, ¬draft.content.HasTerm term ∧ ¬o.content.HasTerm term) := by
  intro settings draft occasion
  have sound : begun.store.Sound := Engine.after_sound {} _ Store.sound_empty
  have positive : Number.atMost settings.dedupThreshold 0 = false := by decide +kernel
  have passed : (begun.store.writeNewObservation settings draft none occasion).result =
      .ok none := by decide +kernel
  exact ⟨⟨sound, positive, passed⟩,
    passed_over_shares_term begun.store sound settings positive draft none occasion passed⟩

namespace ObservationContent

def texts (content : ObservationContent) : List String :=
  content.title.toList ++ content.subtitle.toList ++ content.narrative.toList ++ content.facts

def files (content : ObservationContent) : List String :=
  content.filesRead ++ content.filesModified

def Related (a b : ObservationContent) : Prop :=
  (∃ word, (∃ text ∈ a.texts, Text.IsWord text word) ∧ ∃ text ∈ b.texts, Text.IsWord text word) ∨
    ∃ one ∈ a.files, ∃ other ∈ b.files, Similarity.baseName one = Similarity.baseName other

instance (a b : ObservationContent) : Decidable (a.Related b) :=
  decidable_of_iff
    ((∃ text ∈ a.texts, ∃ word ∈ Text.words text, ∃ other ∈ b.texts, word ∈ Text.words other) ∨
      ∃ one ∈ a.files, ∃ other ∈ b.files, Similarity.baseName one = Similarity.baseName other) <| by
    refine or_congr_left ?_
    simp only [Text.mem_words_iff]
    constructor
    · rintro ⟨text, one, word, here, other, two, there⟩
      exact ⟨word, ⟨text, one, here⟩, other, two, there⟩
    · rintro ⟨word, ⟨text, one, here⟩, other, two, there⟩
      exact ⟨text, one, word, here, other, two, there⟩

end ObservationContent

/-- Both are accepted, and after the first the second is passed over, though nothing in the
store is related to it. -/
def Lost (settings : RetentionSettings) (first second : Tool.ObservationParameters)
    (one other : ObservationDraft) : Prop :=
  let occasion (now : Int) : Occasion := { sessionKey := "session", project := "project", now }
  let store := (({} : Store).writeNewObservation settings one none (occasion 1)).store
  first.toDraft (fun _ => none) = .ok one ∧ second.toDraft (fun _ => none) = .ok other ∧
    (store.writeNewObservation settings other none (occasion 2)).result = .ok none ∧
    ∀ o ∈ store.observations.rows, ¬other.content.Related o.content

instance (settings : RetentionSettings) (first second : Tool.ObservationParameters)
    (one other : ObservationDraft) : Decidable (Lost settings first second one other) :=
  inferInstanceAs (Decidable (_ ∧ _))

/-- What is said in a subtitle alone is lost after anything that has no terms either, and a
word is lost after a file of that name. -/
theorem unrelated_lost :
    let settings : RetentionSettings := {}
    let given : Tool.ObservationParameters := { sessionKey := "session", type := "decision" }
    Number.atMost settings.dedupThreshold 0 = false ∧
    (∃ one other, Lost settings { given with subtitle := some "we chose the second vendor" }
      { given with subtitle := some "leaking sockets are closed" } one other) ∧
    ∃ one other, Lost settings { given with title := some "Go", filesRead := some ["src/release"] }
      { given with title := some "Release" } one other := by
  intro settings given
  let content : ObservationContent := { type := .decision }
  refine ⟨by decide +kernel, ?_, ?_⟩
  · exact ⟨⟨{ content with subtitle := some "we chose the second vendor" }, none, none⟩,
      ⟨{ content with subtitle := some "leaking sockets are closed" }, none, none⟩,
      by decide +kernel⟩
  · exact ⟨⟨{ content with title := some "Go", filesRead := ["src/release"] }, none, none⟩,
      ⟨{ content with title := some "Release" }, none, none⟩, by decide +kernel⟩

end Recall
