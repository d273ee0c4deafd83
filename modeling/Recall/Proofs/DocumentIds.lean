import Mathlib.Data.List.Sigma
import Recall.Proofs.Documents

namespace Recall

theorem parts_unique {mark : α} {first second restFirst restSecond : List α}
    (whole : first ++ mark :: restFirst = second ++ mark :: restSecond)
    (clearFirst : mark ∉ first) (clearSecond : mark ∉ second) :
    first = second ∧ restFirst = restSecond := by
  induction first generalizing second with
  | nil =>
      cases second with
      | nil => exact ⟨rfl, (List.cons.inj whole).2⟩
      | cons other others =>
          have same := (List.cons.inj whole).1
          subst same
          exact absurd List.mem_cons_self clearSecond
  | cons head tail ih =>
      cases second with
      | nil =>
          have same := (List.cons.inj whole).1
          subst same
          exact absurd List.mem_cons_self clearFirst
      | cons other others =>
          obtain ⟨same, rest⟩ := List.cons.inj whole
          subst same
          obtain ⟨tails, rests⟩ := ih rest (fun member => clearFirst (List.mem_cons_of_mem _ member))
            (fun member => clearSecond (List.mem_cons_of_mem _ member))
          exact ⟨congrArg (head :: ·) tails, rests⟩

theorem toDigits_injective {m n : Nat} (same : Nat.toDigits 10 m = Nat.toDigits 10 n) : m = n := by
  have read := congrArg (Nat.ofDigitChars 10 · 0) same
  simpa only [Nat.ofDigitChars_ten_toDigits] using read

theorem minus_not_mem_toDigits (n : Nat) : '-' ∉ Nat.toDigits 10 n := by
  intro member
  have digit := Nat.isDigit_of_mem_toDigits (by decide) (by decide) member
  revert digit
  decide

theorem toString_natural_toList (n : Nat) : (toString n).toList = Nat.toDigits 10 n := by
  rw [Nat.toString_eq_repr, Nat.toList_repr]

theorem toString_toList (n : Int) : (toString n).toList =
    if 0 ≤ n then Nat.toDigits 10 n.toNat else '-' :: Nat.toDigits 10 (-n).toNat := by
  rw [Int.toString_eq_repr, Int.repr_eq_if]
  split
  · exact Nat.toList_repr
  · rw [String.toList_append, Nat.toList_repr]
    rfl

theorem underscore_not_mem_toString (n : Int) : '_' ∉ (toString n).toList := by
  rw [toString_toList]
  split
  · exact Nat.underscore_not_in_toDigits
  · rw [List.mem_cons, not_or]
    exact ⟨by decide, Nat.underscore_not_in_toDigits⟩

theorem toString_injective {m n : Int} (same : (toString m).toList = (toString n).toList) :
    m = n := by
  rw [toString_toList, toString_toList] at same
  split at same
  · split at same
    · have digits := toDigits_injective same
      omega
    · exact absurd (same ▸ List.mem_cons_self) (minus_not_mem_toDigits m.toNat)
  · split at same
    · exact absurd (same ▸ List.mem_cons_self) (minus_not_mem_toDigits n.toNat)
    · have digits := toDigits_injective (List.cons.inj same).2
      omega

namespace Document

theorem idOf_toList (kind : RecordKind) (source : Int) (field : String) (index : Option Nat) :
    ∃ rest, (idOf kind source field index).toList =
      (idStart kind).toList ++ '_' :: ((toString source).toList ++ '_' :: rest) := by
  cases index with
  | none => exact ⟨field.toList, by simp [idOf]⟩
  | some i => exact ⟨field.toList ++ '_' :: (toString i).toList, by simp [idOf]⟩

theorem idOf_source {first second : RecordKind} {source other : Int} {field name : String}
    {index position : Option Nat}
    (same : idOf first source field index = idOf second other name position) :
    first = second ∧ source = other := by
  obtain ⟨rest, left⟩ := idOf_toList first source field index
  obtain ⟨others, right⟩ := idOf_toList second other name position
  rw [same, right] at left
  have starts (kind : RecordKind) : '_' ∉ (idStart kind).toList := by
    cases kind <;> decide
  obtain ⟨start, numbers⟩ := parts_unique left (starts second) (starts first)
  obtain ⟨digits, -⟩ := parts_unique numbers (underscore_not_mem_toString other)
    (underscore_not_mem_toString source)
  refine ⟨?_, (toString_injective digits).symm⟩
  revert start
  cases first <;> cases second <;> decide

theorem idOf_field {kind : RecordKind} {source : Int} {field other : String}
    (same : idOf kind source field none = idOf kind source other none) : field = other := by
  have texts := congrArg String.toList same
  simp only [idOf, String.toList_append] at texts
  exact String.toList_inj.mp (List.append_cancel_left texts)

theorem idOf_index {kind : RecordKind} {source : Int} {field : String} {i j : Nat}
    (same : idOf kind source field (some i) = idOf kind source field (some j)) : i = j := by
  have texts := congrArg String.toList same
  simp only [idOf, String.toList_append] at texts
  have numbers := List.append_cancel_left texts
  rw [toString_natural_toList, toString_natural_toList] at numbers
  exact toDigits_injective numbers

/-- A field whose name does not begin like the id of a fact is no fact. -/
theorem idOf_ne_fact {kind : RecordKind} {source : Int} {field : String} {i : Nat}
    (plain : ¬ "fact_".toList <+: field.toList) :
    idOf kind source field none ≠ idOf kind source "fact" (some i) := by
  intro same
  have texts := congrArg String.toList same
  simp only [idOf, String.toList_append, List.append_assoc, List.append_cancel_left_eq] at texts
  exact plain ⟨(toString i).toList, by rw [texts]; simp⟩

theorem map_filterMap_sublist {choose : α → Option β} {key : β → γ} {keys : α → γ} (items : List α)
    (kept : ∀ item made, choose item = some made → key made = keys item) :
    ((items.filterMap choose).map key).Sublist (items.map keys) := by
  induction items with
  | nil => exact List.Sublist.slnil
  | cons first rest ih =>
      cases made : choose first with
      | none =>
          rw [List.filterMap_cons_none made]
          exact ih.cons _
      | some value =>
          rw [List.filterMap_cons_some made, List.map_cons, List.map_cons, kept first value made]
          exact ih.cons_cons _

theorem nodup_map_toList (item : Option α) (key : α → β) : (item.toList.map key).Nodup := by
  cases item with
  | none => exact List.nodup_nil
  | some value => exact List.nodup_singleton _

theorem facts_nodup (o : Observation) :
    ((o.content.facts.zipIdx.filterMap fun (fact, i) => (nonBlank (some fact)).map
      (make .observation o.id o.project (some o.scope) "fact" (some i))).map (·.docId)).Nodup := by
  let keys (entry : String × Nat) : String := idOf .observation o.id "fact" (some entry.2)
  have places : (o.content.facts.zipIdx.map keys).Nodup := by
    have apart : keys = (fun i => idOf .observation o.id "fact" (some i)) ∘ Prod.snd := rfl
    rw [apart, ← List.map_map]
    exact (List.nodup_zipIdx_map_snd _).map fun i j => idOf_index
  refine places.sublist (map_filterMap_sublist o.content.facts.zipIdx ?_)
  rintro ⟨fact, i⟩ d made
  obtain ⟨content, -, rfl⟩ := Option.map_eq_some_iff.mp made
  rfl

theorem ofObservation_nodup (o : Observation) : ((ofObservation o).map (·.docId)).Nodup := by
  simp only [ofObservation]
  split
  · rw [List.map_append, List.nodup_append]
    refine ⟨?_, facts_nodup o, ?_⟩
    · rw [List.map_map]
      exact nodup_map_toList _ _
    · intro narrative member fact other same
      obtain ⟨d, made, rfl⟩ := List.mem_map.mp member
      obtain ⟨text, -, rfl⟩ := List.mem_map.mp made
      obtain ⟨e, made, rfl⟩ := List.mem_map.mp other
      obtain ⟨⟨text, i⟩, -, made⟩ := List.mem_filterMap.mp made
      obtain ⟨content, -, rfl⟩ := Option.map_eq_some_iff.mp made
      exact idOf_ne_fact (by decide) same
  · split
    · exact List.nodup_singleton _
    · exact List.nodup_singleton _
    · exact List.nodup_nil

theorem ofSummary_nodup (s : Summary) : ((ofSummary s).map (·.docId)).Nodup := by
  have named : (s.content.namedTexts.map Prod.fst).Nodup := by simp [SummaryContent.namedTexts]
  have names : (s.content.fields.map Prod.fst).Nodup := by
    refine named.sublist (map_filterMap_sublist s.content.namedTexts ?_)
    rintro ⟨name, text⟩ made chosen
    obtain ⟨content, -, rfl⟩ := Option.map_eq_some_iff.mp chosen
    rfl
  have ids : (ofSummary s).map (·.docId) =
      (s.content.fields.map Prod.fst).map fun field => idOf .summary s.id field none := by
    simp only [ofSummary, List.map_map]
    rfl
  rw [ids]
  exact names.map fun first second => idOf_field

theorem ofPrompt_nodup (p : Prompt) : ((ofPrompt p).map (·.docId)).Nodup := by
  simp only [ofPrompt, List.map_map]
  exact nodup_map_toList _ _

end Document

theorem Store.documentsOf_nodup (store : Store) (kind : RecordKind) (id : Int) :
    ((store.documentsOf kind id).map (·.docId)).Nodup := by
  have single {α : Type} (found : Option α) (make : α → List Document)
      (once : ∀ row, ((make row).map (·.docId)).Nodup) :
      ((found.toList.flatMap make).map (·.docId)).Nodup := by
    cases found with
    | none => exact List.nodup_nil
    | some row => simpa using once row
  cases kind with
  | observation => exact single _ _ Document.ofObservation_nodup
  | summary => exact single _ _ Document.ofSummary_nodup
  | prompt => exact single _ _ Document.ofPrompt_nodup

end Recall
