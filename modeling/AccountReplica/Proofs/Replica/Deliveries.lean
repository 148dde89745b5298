import AccountReplica.Proofs.Replica.Sound

/-! What a completion poll tells its subscribers: all messages that came in since it was inserted. -/

namespace AccountReplica

def Effect.answered? : Effect → Option (SubscriberId × List MessageId)
  | answerCompletion s ids => some (s, ids)
  | _ => none

def Deed.answered? : Deed → Option (SubscriberId × List MessageId)
  | answer s ids => some (s, ids)
  | _ => none

lemma filterMap_answered (xs : List Effect) :
    xs.filterMap Effect.answered? = (deeds xs).filterMap Deed.answered? := by
  rw [deeds, List.filterMap_filterMap]
  congr 1
  funext x
  cases x <;> rfl

lemma answered?_launched {e : Engine} {told : List EventSet} {carried : EventSet} {ds : List Deed}
    (h : e.Launched told carried ds) : ds.filterMap Deed.answered? = [] := by
  cases h with
  | nothing => rfl
  | head => rfl

namespace Entry

def incoming (x : Entry) : List MessageId :=
  x.dispatched.flatMap (·.added)

def registered (subscribers : List SubscriberId) : Entry → List SubscriberId
  | turn _ (.command (.pollCompletion s)) => subscribers ++ [s]
  | turn _ (.command (.cancelCompletion s)) => subscribers.filter (· ≠ s)
  | _ => subscribers

def Polled : Entry → Prop
  | turn e _ => e.queue.completion?.isSome
  | commit .. => True

end Entry

inductive SinceInserted : List Entry → Prop
  | intro (e : Engine) (s : SubscriberId) (between : List Entry) (he : e.queue.completion? = none)
      (hb : ∀ x ∈ between, x.Polled) : SinceInserted (.turn e (.command (.pollCompletion s)) :: between)

lemma SinceInserted.concat {since : List Entry} {x : Entry} (h : SinceInserted since) (hx : x.Polled) :
    SinceInserted (since ++ [x]) := by
  cases h with
  | intro e s between he hb =>
    exact .intro e s (between ++ [x]) he (List.forall_mem_append.mpr ⟨hb, List.forall_mem_singleton.mpr hx⟩)

def Collected (history : List Entry) (m : List MessageId × List SubscriberId) : Prop :=
  ∃ before since, history = before ++ since ∧ SinceInserted since ∧
    m = (since.flatMap Entry.incoming, since.foldl Entry.registered [])

lemma Collected.concat {history : List Entry} {m : List MessageId × List SubscriberId} {x : Entry}
    (h : Collected history m) (hx : x.Polled) : Collected (history ++ [x]) (m.1 ++ x.incoming, x.registered m.2) := by
  obtain ⟨before, since, rfl, hs, rfl⟩ := h
  exact ⟨before, since ++ [x], List.append_assoc .., hs.concat hx, by simp⟩

lemma Collected.commit {history : List Entry} {m : List MessageId × List SubscriberId} (h : Collected history m)
    (id : OperationId) (what : Commit) : Collected (history ++ [.commit id what]) m := by
  have := h.concat (x := .commit id what) trivial
  simpa [Entry.incoming, Entry.dispatched, Entry.effects, Entry.registered] using this

namespace Engine

variable {e : Engine} {i : Input}

lemma incoming_of_due (h : e.Settled) (he : e.effects = []) (hd : e.Due i) :
    (Entry.turn e i).incoming = i.told.flatMap (·.added) := by
  rw [Entry.incoming, Entry.dispatched, Entry.effects, dispatched_of_due h he hd]

lemma collected_step {history : List Entry} (h : e.Settled) (he : e.effects = []) (hd : e.Due i)
    (ih : ∀ m, e.queue.completion? = some m → Collected history m) {m : List MessageId × List SubscriberId}
    (hm : (e.step i).queue.completion? = some m) : Collected (history ++ [.turn e i]) m := by
  have hi := incoming_of_due h he hd
  cases hd with
  | command c =>
    rw [completion_step h] at hm
    cases hc : e.queue.completion? with
    | none =>
      rw [hc] at hm
      cases c with
      | pollCompletion s =>
        cases hm
        exact ⟨history, [_], rfl, .intro e s [] hc (List.forall_mem_nil _), by simp [hi, Input.told, Entry.registered]⟩
      | _ => cases hm
    | some m' =>
      have hx : (Entry.turn e (.command c)).Polled := by simp [Entry.Polled, hc]
      have key := (ih m' hc).concat hx
      rw [hi, Input.told, List.flatMap_nil, List.append_nil] at key
      rw [hc] at hm
      cases c <;> cases hm <;> exact key
  | report op rest report hq hk =>
    obtain ⟨-, ids, hc, hm'⟩ := completion_before_report h hq hk hm
    have hx : (Entry.turn e (.report op.id report)).Polled := by simp [Entry.Polled, hc]
    have key := (ih _ hc).concat hx
    rw [hi, Input.told, ← hm'] at key
    exact key

lemma Launched.alone {told : List EventSet} {carried : EventSet} {c : Content} {ds : List Deed} {id : OperationId}
    (hl : e.Launched told carried ds) (hs : e.Settled)
    (hm : .launch id (some .fence) ∈ c.answers ++ told.map .tell ++ ds) :
    ∃ ids subscribers, e.queue.operations = [⟨id, .pollCompletion ids subscribers, true⟩] := by
  rcases List.mem_append.mp hm with hm | hm
  · rcases List.mem_append.mp hm with hm | hm
    · cases c with
      | pollCompletion ids subscribers => simp [Content.answers] at hm
      | _ => cases hm
    · simp at hm
  · cases hl with
    | nothing => cases hm
    | head op rest c' hq hk hw _ _ ha =>
      obtain ⟨rfl, ht⟩ : id = op.id ∧ some Task.fence = c'.task := by simpa using hm
      have hc : c'.kind = .pollCompletion := by
        cases c' with
        | pollCompletion => rfl
        | custom work => cases work <;> cases ht
        | _ => cases ht
      obtain rfl := ha hc
      obtain ⟨id, c, running⟩ := op
      obtain rfl : running = true := (hs.head hq).1
      cases c with
      | pollCompletion ids subscribers => exact ⟨ids, subscribers, hq⟩
      | _ => cases hk.trans hc

lemma alone_of_fence (h : e.Settled) (he : e.effects = []) (hd : e.Due i) {id : OperationId}
    (hf : .spawn id .fence ∈ (e.step i).effects) :
    ∃ ids subscribers, (e.step i).queue.operations = [⟨id, .pollCompletion ids subscribers, true⟩] := by
  have hm : .launch id (some .fence) ∈ deeds (e.step i).effects := List.mem_filterMap.mpr ⟨_, hf, rfl⟩
  cases hd with
  | command c =>
    cases hq : e.queue.operations with
    | nil =>
      obtain ⟨hs, -, ds, hl, hx⟩ := turn_of_rest h hq c
      rw [hx, he, deeds_nil, List.nil_append] at hm
      exact hl.alone (c := .custom none) hs hm
    | cons op rest =>
      rw [(obeys_step h hq c).deeds, he] at hm
      cases hm
  | report op rest report hq hk =>
    obtain ⟨hs, -, ds, hl, hx⟩ := turn_of_report h hq hk
    rw [hx, he, deeds_nil, List.nil_append] at hm
    exact hl.alone hs hm

end Engine

namespace Replica

/-- Each completion poll asks the server when nothing else is queued, and its subscribers are told exactly what came in
since it was inserted. -/
structure DeliversExactly (r : Replica) : Prop where
  alone : ∀ e i id, .turn e i ∈ r.history → .spawn id .fence ∈ (e.step i).effects →
    ∃ ids subscribers, (e.step i).queue.operations = [⟨id, .pollCompletion ids subscribers, true⟩]
  collected : ∀ before e id result after,
    r.history = before ++ .turn e (.report id (.fenceCompleted result)) :: after →
      ∃ ids subscribers, e.queue.completion? = some (ids, subscribers) ∧ Collected before (ids, subscribers) ∧
        (e.step (.report id (.fenceCompleted result))).effects.filterMap Effect.answered? =
          subscribers.map (·, ids)

lemma collected_advance {r r' : Replica} (hs : r.Sound) (ha : r.Advance r')
    (h : ∀ m, r.engine.queue.completion? = some m → Collected r.history m) :
    ∀ m, r'.engine.queue.completion? = some m → Collected r'.history m := by
  obtain ⟨i, underway, hd, rfl⟩ | ⟨he, hh | ⟨id, what, hh⟩⟩ := ha.turned_or
  · exact fun m hm => Engine.collected_step hs.settled hs.effects hd h hm
  · rw [he, hh]
    exact h
  · rw [he, hh]
    exact fun m hm => (h m hm).commit id what

/-- What a completion poll tells is the same for whoever registered before it was over, and is all that came in since it
was inserted, whatever place it has had in the queue. -/
theorem deliversExactly_of_run (retryDelay : Nat) (storage : SharedStorage) (moves : List Move) :
    ((new retryDelay storage).run moves).DeliversExactly where
  alone e i id h := by
    obtain ⟨hs, he, hd⟩ := due_of_turn h
    exact Engine.alone_of_fence hs he hd
  collected before e id result after h := by
    obtain ⟨hs, he, hd⟩ := due_of_turn (h ▸ List.mem_append_right _ List.mem_cons_self)
    obtain ⟨r, r', hc, ha, rfl, hh⟩ := advance_of_entry
      (motive := fun r => ∀ m, r.engine.queue.completion? = some m → Collected r.history m)
      (fun _ hm => by cases hm) (fun _ _ => collected_advance) h
    obtain ⟨rfl, -⟩ := ha.turn_cases hh
    cases hd with
    | report op rest _ hq hk =>
      obtain ⟨ids, subscribers, ho⟩ : ∃ ids subscribers, op.content = .pollCompletion ids subscribers := by
        cases hc : op.content <;> simp_all [Content.kind, Report.kind]
      have hm : r.engine.queue.completion? = some (ids, subscribers) := by
        rw [OperationQueue.completion?_eq, hq, List.findSome?_cons, ho]
        rfl
      refine ⟨ids, subscribers, hm, hc _ hm, ?_⟩
      obtain ⟨-, -, ds, hl, hx⟩ := Engine.turn_of_report hs hq hk
      rw [filterMap_answered, hx, he, ho]
      simp [answered?_launched hl, Content.answers, Report.told, List.filterMap_map, Function.comp_def, Deed.answered?]

def sharedPoll : List Move :=
  [.command (.addGroups [sampleGroup]), .command (.pollCompletion 1), .proceed 0 calm, .command (.addCustom 5),
    .deliver 0, .proceed 0 calm, .deliver 0, .proceed 0 calm, .command (.pollCompletion 2), .deliver 0,
    .proceed 0 calm, .deliver 0, .proceed 0 calm, .deliver 0]

example : (((new 2 sampleStorage).run sharedPoll).history.flatMap Entry.effects).filterMap Effect.answered? =
    [(1, [sampleMessage.id]), (2, [sampleMessage.id])] := by
  rfl

end Replica

end AccountReplica
