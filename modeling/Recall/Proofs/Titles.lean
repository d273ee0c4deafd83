import Mathlib.Data.List.TakeWhile
import Recall.Proofs.Acceptance
import Recall.Search.Item

namespace Recall

namespace Text

theorem all_dropWhile (text : List Char) (skip : Char → Bool) :
    (text.dropWhile skip).all skip = text.all skip := by
  induction text with
  | nil => rfl
  | cons c rest ih =>
      cases skipped : skip c with
      | true => simp only [List.dropWhile_cons_of_pos skipped, ih, List.all_cons, skipped,
          Bool.true_and]
      | false => rw [List.dropWhile_cons_of_neg (by simp [skipped])]

theorem isBlank_trim (text : String) : isBlank (trim text) = isBlank text := by
  simp only [isBlank, trim, trimChars, trimEndChars, trimStartChars, String.toList_ofList,
    List.all_reverse, all_dropWhile]

theorem trim_of_blank {text : String} (blank : isBlank text = true) : trim text = "" := by
  have nothing : text.toList.dropWhile isWhiteSpace = [] :=
    List.dropWhile_eq_nil_iff.mpr (List.all_eq_true.mp blank)
  simp only [trim, trimChars, trimStartChars, nothing]
  rfl

theorem length_trimEnd_le (text : String) : (trimEnd text).length ≤ text.length := by
  simp only [trimEnd, trimEndChars, String.length_ofList, List.length_reverse]
  calc
    (text.toList.reverse.dropWhile isWhiteSpace).length ≤ text.toList.reverse.length :=
      (List.dropWhile_sublist _).length_le
    _ = text.length := by rw [List.length_reverse, String.length_toList]

end Text

theorem truncateTitle_length_le (text : String) : (truncateTitle text).length ≤ 100 := by
  simp only [truncateTitle]
  split
  · assumption
  · have kept := Text.length_trimEnd_le (String.ofList ((Text.trim text).toList.take 97))
    have taken := List.length_take_le 97 (Text.trim text).toList
    rw [String.length_ofList] at kept
    have dots : "...".length = 3 := rfl
    rw [String.length_append, dots]
    omega

theorem isBlank_truncateTitle (text : String) :
    Text.isBlank (truncateTitle text) = Text.isBlank text := by
  simp only [truncateTitle]
  split
  · exact Text.isBlank_trim text
  · rename_i long
    have dotted : Text.isBlank
        (Text.trimEnd (String.ofList ((Text.trim text).toList.take 97)) ++ "...") = false := by
      have dots : "...".toList.all Text.isWhiteSpace = false := by decide +kernel
      rw [Text.isBlank, String.toList_append, List.all_append, dots, Bool.and_false]
    rw [dotted]
    cases blank : Text.isBlank text with
    | false => rfl
    | true =>
        rw [Text.trim_of_blank blank] at long
        exact absurd (by decide) long

namespace ObservationContent

/-- One of the texts that may become the title of a search result is not blank. -/
def HasHeading (content : ObservationContent) : Prop :=
  ∃ text, Filled content.title text ∨ Filled content.subtitle text ∨
    Filled content.narrative text ∨ Filled content.facts.head? text

theorem observationTitle_filled_iff {content : ObservationContent} :
    Text.isBlank (SearchItem.observationTitle content) = false ↔ content.HasHeading := by
  have candidates : content.HasHeading ↔ ∃ text,
      ∃ given ∈ [content.title, content.subtitle, content.narrative, content.facts.head?],
        Document.nonBlank given = some text := by
    simp [HasHeading, Document.nonBlank_eq_some_iff]
  rw [candidates, SearchItem.observationTitle]
  cases found : [content.title, content.subtitle, content.narrative,
      content.facts.head?].findSome? Document.nonBlank with
  | none =>
      refine iff_of_false (by decide +kernel) ?_
      rintro ⟨text, given, listed, filled⟩
      rw [List.findSome?_eq_none_iff.mp found given listed] at filled
      cases filled
  | some text =>
      obtain ⟨given, listed, chosen⟩ := List.exists_of_findSome?_eq_some found
      refine iff_of_true ?_ ⟨text, given, listed, chosen⟩
      exact (Document.nonBlank_eq_some_iff.mp chosen).2

end ObservationContent

theorem title_of_gives {p : Tool.ObservationParameters} {o : Observation}
    (gives : p.Gives o.content) (format : Format) :
    (SearchItem.ofObservation format o).title.length ≤ 100 ∧
      (Text.isBlank (SearchItem.ofObservation format o).title = false ↔
        ∃ text, Filled p.title text ∨ Filled p.subtitle text ∨ Filled p.narrative text ∨
          Filled (p.facts.getD []).head? text) := by
  have shown : (SearchItem.ofObservation format o).title =
      truncateTitle (SearchItem.observationTitle o.content) := by
    rw [SearchItem.ofObservation]
  refine ⟨shown ▸ truncateTitle_length_le _, ?_⟩
  rw [shown]
  rw [isBlank_truncateTitle, ObservationContent.observationTitle_filled_iff,
    ObservationContent.HasHeading, gives.title, gives.subtitle, gives.narrative, gives.facts]

/-- A result is titled by the title, subtitle, narrative or first fact of what was accepted, or
by nothing. -/
theorem title_filled_iff (modifiedAt : String → Option Int) (p : Tool.ObservationParameters)
    (draft : ObservationDraft) (accepted : p.toDraft modifiedAt = .ok draft)
    (number : Option Int) (occasion : Occasion) (id : Int) (format : Format) :
    let item := SearchItem.ofObservation format (Store.observationOf draft number occasion id)
    item.title.length ≤ 100 ∧
      (Text.isBlank item.title = false ↔
        ∃ text, Filled p.title text ∨ Filled p.subtitle text ∨ Filled p.narrative text ∨
          Filled (p.facts.getD []).head? text) :=
  title_of_gives (Tool.ObservationParameters.gives_stored accepted number occasion id) format

def narrated : Tool.ObservationParameters := {
  sessionKey := "session", type := "bugfix", title := some "\u3000"
  narrative := some (String.ofList (' ' :: List.replicate 150 'n')) }

theorem narrated_filled : ∃ draft, narrated.toDraft (fun _ => none) = .ok draft ∧
    ∀ number occasion id format,
      let item := SearchItem.ofObservation format (Store.observationOf draft number occasion id)
      item.title.length ≤ 100 ∧ Text.isBlank item.title = false := by
  have accepted : narrated.toDraft (fun _ => none) =
      .ok (narrated.draftOf (fun _ => none) .bugfix none) := by decide +kernel
  refine ⟨_, accepted, ?_⟩
  intro number occasion id format item
  obtain ⟨short, filled⟩ :=
    title_filled_iff (fun _ => none) narrated _ accepted number occasion id format
  refine ⟨short, filled.mpr ⟨_, Or.inr (Or.inr (Or.inl ⟨rfl, ?_⟩))⟩⟩
  decide +kernel

/-- Of all texts only the second fact is not blank. -/
def secondFact : Tool.ObservationParameters := {
  sessionKey := "session", type := "discovery", facts := some ["", "the cache is warm"] }

theorem secondFact_untitled : ∃ draft, secondFact.toDraft (fun _ => none) = .ok draft ∧
    ∀ number occasion id format, Text.isBlank (SearchItem.ofObservation format
      (Store.observationOf draft number occasion id)).title = true := by
  have accepted : secondFact.toDraft (fun _ => none) =
      .ok (secondFact.draftOf (fun _ => none) .discovery none) := by decide +kernel
  refine ⟨_, accepted, fun number occasion id format => ?_⟩
  have gives := Tool.ObservationParameters.gives_stored accepted number occasion id
  have silent : ¬ ∃ text, Filled secondFact.title text ∨ Filled secondFact.subtitle text ∨
      Filled secondFact.narrative text ∨ Filled (secondFact.facts.getD []).head? text := by
    have empty : Text.isBlank "" = true := by decide +kernel
    simp [secondFact, Filled, empty]
  rw [← (title_of_gives gives format).2] at silent
  simpa using silent

end Recall
