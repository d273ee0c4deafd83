import Recall.Proofs.Submissions

namespace Recall

def Session.numbered : Option Int → Session → Session
  | none, s => s
  | some number, s => { s with promptCounter := s.promptCounter.raiseTo number }

def Submission.prompt? : Submission → Option (Int × String)
  | prompt number text => some (number, text)
  | _ => none

namespace Store

theorem session?_of_sessions {before after : Store} (same : after.sessions = before.sessions)
    (key : String) : after.session? key = before.session? key := by
  simp only [session?, same]

theorem session?_key {store : Store} {key : String} {s : Session}
    (found : store.session? key = some s) : s.key = key := by
  have named := List.find?_some found
  exact of_decide_eq_true named

theorem session?_updateSession {change : Session → Session} (fixed : ∀ s, (change s).key = s.key)
    (store : Store) (key other : String) :
    (store.updateSession key change).session? other =
      if other = key then (store.session? key).map change else store.session? other := by
  have kept (s : Session) : (if s.key = key then change s else s).key = s.key := by
    split
    · exact fixed s
    · rfl
  have looked : (fun s : Session => decide (s.key = other)) ∘
      (fun s => if s.key = key then change s else s) = fun s => decide (s.key = other) := by
    funext s
    simp only [Function.comp_apply, kept]
  simp only [session?, updateSession, List.find?_map, looked]
  cases found : store.sessions.find? fun s => decide (s.key = other) with
  | none =>
      split
      · rename_i same
        subst same
        rw [found]
        rfl
      · rfl
  | some s =>
      have named : s.key = other := session?_key found
      rw [Option.map_some, named]
      split
      · rename_i same
        subst same
        rw [found, Option.map_some]
      · rfl

theorem session?_of_update {before after : Store} {own : String} {change : Session → Session}
    (same : after.sessions = (before.updateSession own change).sessions)
    (fixed : ∀ s, (change s).key = s.key) (key : String) :
    after.session? key =
      if key = own then (before.session? own).map change else before.session? key :=
  (session?_of_sessions same key).trans (session?_updateSession fixed before own key)

theorem updateSession_eq {store : Store} {key : String} {change : Session → Session}
    (idle : ∀ s ∈ store.sessions, s.key = key → change s = s) :
    store.updateSession key change = store := by
  have same : store.sessions.map (fun s => if s.key = key then change s else s) =
      store.sessions := by
    refine (List.map_congr_left fun s live => ?_).trans (List.map_id _)
    split
    · rename_i own
      exact idle s live own
    · rfl
  rw [updateSession, same]

theorem keys_updateSession {change : Session → Session} (fixed : ∀ s, (change s).key = s.key)
    (store : Store) (key : String) :
    (store.updateSession key change).sessions.map (·.key) = store.sessions.map (·.key) := by
  simp only [updateSession, List.map_map]
  refine List.map_congr_left fun s _ => ?_
  simp only [Function.comp_apply]
  split
  · exact fixed s
  · rfl

def opened (store : Store) (occasion : Occasion) (text : Option String) : Session :=
  match store.session? occasion.sessionKey with
  | some s => refreshSession occasion.project text s
  | none => newSession (store.lastSessionId + 1) occasion text

theorem refreshSession_key (project : String) (text : Option String) (s : Session) :
    (refreshSession project text s).key = s.key := rfl

theorem upsertSession_cases {occasion : Occasion} {text : Option String} {store after : Store}
    {id : Nat} (ran : (upsertSession occasion text).run store = .ok (id, after)) :
    (∃ s, store.session? occasion.sessionKey = some s ∧ after.sessions =
        (store.updateSession occasion.sessionKey
          (refreshSession occasion.project text)).sessions) ∨
      (store.session? occasion.sessionKey = none ∧ after.sessions =
        store.sessions ++ [newSession (store.lastSessionId + 1) occasion text]) := by
  simp only [upsertSession, StateT.run] at ran
  split at ran
  · cases ran
  · split at ran
    · cases ran
    · split at ran
      · rename_i s found
        cases ran
        exact Or.inl ⟨s, found, rfl⟩
      · rename_i absent
        cases ran
        exact Or.inr ⟨absent, rfl⟩

theorem upsertSession_opens {occasion : Occasion} {text : Option String} {store after : Store}
    {id : Nat} (ran : (upsertSession occasion text).run store = .ok (id, after)) (key : String) :
    after.session? key =
      if key = occasion.sessionKey then some (store.opened occasion text)
      else store.session? key := by
  rcases upsertSession_cases ran with ⟨s, found, same⟩ | ⟨absent, same⟩
  · rw [session?_of_sessions same, session?_updateSession (refreshSession_key _ _), opened, found]
    rfl
  · have added : (newSession (store.lastSessionId + 1) occasion text).key =
        occasion.sessionKey := rfl
    rw [session?, same, List.find?_append, List.find?_singleton, added, opened, absent]
    by_cases own : key = occasion.sessionKey
    · subst own
      rw [session?] at absent
      simp [absent]
    · simp [own, Ne.symm own, session?]

theorem upsertSession_keys {occasion : Occasion} {text : Option String} {store after : Store}
    {id : Nat} (ran : (upsertSession occasion text).run store = .ok (id, after))
    (once : (store.sessions.map (·.key)).Nodup) : (after.sessions.map (·.key)).Nodup := by
  rcases upsertSession_cases ran with ⟨s, found, same⟩ | ⟨absent, same⟩
  · rw [same, keys_updateSession (refreshSession_key _ _)]
    exact once
  · have fresh : ∀ key ∈ store.sessions.map (·.key), key ≠ occasion.sessionKey := by
      rintro key member rfl
      obtain ⟨s, live, own⟩ := List.mem_map.mp member
      exact List.find?_eq_none.mp absent s live (by simpa using own)
    rw [same, List.map_append]
    refine List.nodup_append.mpr ⟨once, by simp, ?_⟩
    intro key member other new
    rw [List.mem_singleton.mp new]
    exact fresh key member

end Store

theorem Session.numbered_key (number : Option Int) (s : Session) :
    (s.numbered number).key = s.key := by
  cases number <;> rfl

theorem Submission.transaction_opens {submission : Submission} {occasion : Occasion}
    {store after : Store} {stored : Stored}
    (ran : (submission.transaction occasion).run store = .ok (stored, after)) :
    ∃ id opened, (Store.upsertSession occasion (submission.prompt?.map Prod.snd)).run store =
        .ok (id, opened) ∧
      after.sessions = (opened.updateSession occasion.sessionKey
        (Session.numbered (submission.prompt?.map Prod.fst))).sessions := by
  have unnumbered (opened : Store) :
      opened.updateSession occasion.sessionKey (Session.numbered none) = opened :=
    Store.updateSession_eq fun s _ _ => rfl
  cases submission with
  | observation draft number | newObservation draft number =>
      obtain ⟨id, opened, first, ran⟩ := Transaction.bind_ok ran
      obtain ⟨-, -, rfl⟩ := insertObservation_ok ran
      refine ⟨id, opened, first, ?_⟩
      exact (congrArg Store.sessions (unnumbered opened)).symm
  | summary content number =>
      obtain ⟨id, opened, first, ran⟩ := Transaction.bind_ok ran
      obtain ⟨-, -, rfl⟩ := insertSummary_ok ran
      refine ⟨id, opened, first, ?_⟩
      exact (congrArg Store.sessions (unnumbered opened)).symm
  | prompt number text =>
      obtain ⟨id, opened, first, ran⟩ := Transaction.bind_ok ran
      obtain ⟨found, saved, second, ran⟩ := Transaction.bind_ok ran
      cases ran
      obtain ⟨-, ⟨-, -, rfl⟩ | ⟨p, -, -, rfl⟩⟩ := upsertPrompt_ok second
      · exact ⟨id, opened, first, rfl⟩
      · exact ⟨id, opened, first, rfl⟩

theorem Store.sessions_delete (store : Store) (ids : List Int) (kind : RecordKind) :
    (store.delete ids kind).sessions = store.sessions := by
  cases kind <;> rfl

theorem Store.sessions_updateImportance (store : Store) (id : Int) (importance : Float) :
    (store.commit (updateImportance id importance)).1.sessions = store.sessions := by
  simp only [commit, updateImportance, StateT.run]
  split
  · rename_i ran
    split at ran <;> cases ran
    rfl
  · rfl

theorem Search.run_sessions (store : Store) (settings : SearchSettings)
    (index : Option VectorIndex) (request : SearchRequest) (now : Int) :
    (Search.run store settings index request now).1.sessions = store.sessions := by
  rcases Search.run_cases store settings index request now with same | ⟨ids, marked⟩
  · rw [same]
  · rw [marked]
    rfl

end Recall
