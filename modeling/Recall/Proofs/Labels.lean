import Recall.Proofs.History

/-!
Labels: what is settled about a record when it is stored. Every change to a store keeps all
labels, appends one with the next id, or removes those of certain ids.
-/

namespace Recall

structure Label where
  id : Int
  project : String
  scope : Option Scope
  deriving DecidableEq, Repr

def Observation.label (o : Observation) : Label := ⟨o.id, o.project, some o.scope⟩

def Summary.label (s : Summary) : Label := ⟨s.id, s.project, none⟩

def Prompt.label (p : Prompt) : Label := ⟨p.id, p.project, none⟩

namespace Store

def labels (store : Store) : RecordKind → List Label
  | .observation => store.observations.rows.map Observation.label
  | .summary => store.summaries.rows.map Summary.label
  | .prompt => store.prompts.rows.map Prompt.label

def ids (store : Store) (kind : RecordKind) : List Int := (store.labels kind).map Label.id

def lastId (store : Store) : RecordKind → Nat
  | .observation => store.observations.lastId
  | .summary => store.summaries.lastId
  | .prompt => store.prompts.lastId

/-- No record comes or goes. Ids may be used up. -/
structure Keeps (before after : Store) : Prop where
  labels : ∀ kind, after.labels kind = before.labels kind
  lastId : ∀ kind, before.lastId kind ≤ after.lastId kind
  inRange : ∀ kind, before.lastId kind < Number.signedBound →
    after.lastId kind < Number.signedBound

structure Adds (before : Store) (kind : RecordKind) (label : Label) (after : Store) : Prop where
  labels : after.labels kind = before.labels kind ++ [label]
  next : label.id = (before.lastId kind + 1 : Nat)
  lastId : after.lastId kind = before.lastId kind + 1
  inRange : after.lastId kind < Number.signedBound
  others : ∀ other, other ≠ kind →
    after.labels other = before.labels other ∧ after.lastId other = before.lastId other

/-- Ids are in ascending order, and none is past the last one handed out. -/
structure Sound (store : Store) : Prop where
  ascending : ∀ kind, (store.ids kind).Pairwise (· < ·)
  bounds : ∀ kind, ∀ id ∈ store.ids kind, 0 < id ∧ id ≤ store.lastId kind
  inRange : ∀ kind, store.lastId kind < Number.signedBound

theorem ids_observation (store : Store) :
    store.ids .observation = store.observations.rows.map Observation.id := by
  simp only [ids, labels, List.map_map]
  rfl

theorem ids_summary (store : Store) :
    store.ids .summary = store.summaries.rows.map Summary.id := by
  simp only [ids, labels, List.map_map]
  rfl

theorem ids_prompt (store : Store) : store.ids .prompt = store.prompts.rows.map Prompt.id := by
  simp only [ids, labels, List.map_map]
  rfl

theorem sound_empty : ({} : Store).Sound where
  ascending kind := by cases kind <;> exact List.Pairwise.nil
  bounds kind id member := by cases kind <;> cases member
  inRange kind := by cases kind <;> decide

theorem Sound.nodup {store : Store} (sound : store.Sound) (kind : RecordKind) :
    (store.ids kind).Nodup :=
  (sound.ascending kind).imp fun below => Int.ne_of_lt below

theorem keeps_refl (store : Store) : store.Keeps store :=
  ⟨fun _ => rfl, fun _ => Nat.le_refl _, fun _ within => within⟩

theorem Keeps.ids {before after : Store} (keeps : before.Keeps after) (kind : RecordKind) :
    after.ids kind = before.ids kind := by
  simp only [Store.ids, keeps.labels kind]

theorem Keeps.sound {before after : Store} (keeps : before.Keeps after)
    (sound : before.Sound) : after.Sound where
  ascending kind := by
    rw [keeps.ids kind]
    exact sound.ascending kind
  bounds kind id member := by
    rw [keeps.ids kind] at member
    have bounds := sound.bounds kind id member
    have grown := keeps.lastId kind
    exact ⟨bounds.1, by omega⟩
  inRange kind := keeps.inRange kind (sound.inRange kind)

theorem Adds.ids {before after : Store} {kind : RecordKind} {label : Label}
    (adds : before.Adds kind label after) : after.ids kind = before.ids kind ++ [label.id] := by
  simp only [Store.ids, adds.labels, List.map_append, List.map_cons, List.map_nil]

theorem Adds.ids_other {before after : Store} {kind other : RecordKind} {label : Label}
    (adds : before.Adds kind label after) (differs : other ≠ kind) :
    after.ids other = before.ids other := by
  simp only [Store.ids, (adds.others other differs).1]

theorem Adds.lastId_le {before after : Store} {kind : RecordKind} {label : Label}
    (adds : before.Adds kind label after) (other : RecordKind) :
    before.lastId other ≤ after.lastId other := by
  by_cases same : other = kind
  · subst same
    have grown := adds.lastId
    omega
  · exact Nat.le_of_eq (adds.others other same).2.symm

theorem Adds.sound {before after : Store} {kind : RecordKind} {label : Label}
    (adds : before.Adds kind label after) (sound : before.Sound) : after.Sound where
  ascending other := by
    by_cases same : other = kind
    · subst same
      rw [adds.ids]
      refine List.pairwise_append.mpr ⟨sound.ascending other, List.pairwise_singleton _ _, ?_⟩
      intro id member new isNew
      have bound := (sound.bounds other id member).2
      have next := adds.next
      rw [List.mem_singleton.mp isNew]
      omega
    · rw [adds.ids_other same]
      exact sound.ascending other
  bounds other id member := by
    by_cases same : other = kind
    · subst same
      have next := adds.next
      have last := adds.lastId
      rw [adds.ids, List.mem_append, List.mem_singleton] at member
      rcases member with old | rfl
      · have bounds := sound.bounds other id old
        omega
      · omega
    · rw [adds.ids_other same] at member
      rw [(adds.others other same).2]
      exact sound.bounds other id member
  inRange other := by
    by_cases same : other = kind
    · subst same
      exact adds.inRange
    · rw [(adds.others other same).2]
      exact sound.inRange other

theorem labels_delete (store : Store) (ids : List Int) (kind other : RecordKind) :
    (store.delete ids kind).labels other =
      if other = kind then (store.labels kind).filter (fun label => !(label.id ∈ ids))
      else store.labels other := by
  cases kind <;> cases other <;>
    simp [labels, delete, Table.remove, List.filter_map, Function.comp_def, Observation.label,
      Summary.label, Prompt.label] <;> rfl

theorem lastId_delete (store : Store) (ids : List Int) (kind other : RecordKind) :
    (store.delete ids kind).lastId other = store.lastId other := by
  cases kind <;> cases other <;> rfl

theorem ids_delete (store : Store) (ids : List Int) (kind other : RecordKind) :
    (store.delete ids kind).ids other =
      if other = kind then (store.ids kind).filter (fun id => !(id ∈ ids))
      else store.ids other := by
  simp only [Store.ids, labels_delete]
  split
  · simp only [List.filter_map, Function.comp_def]
  · rfl

theorem ids_delete_sublist (store : Store) (ids : List Int) (kind other : RecordKind) :
    ((store.delete ids kind).ids other).Sublist (store.ids other) := by
  rw [ids_delete]
  split
  · rename_i same
    subst same
    exact List.filter_sublist
  · exact List.Sublist.refl _

theorem Sound.delete {store : Store} (sound : store.Sound) (ids : List Int)
    (kind : RecordKind) : (store.delete ids kind).Sound where
  ascending other := (sound.ascending other).sublist (ids_delete_sublist store ids kind other)
  bounds other id member := by
    rw [lastId_delete]
    exact sound.bounds other id ((ids_delete_sublist store ids kind other).subset member)
  inRange other := by
    rw [lastId_delete]
    exact sound.inRange other

end Store

end Recall
