import AccountReplica.Proofs.Replica.Basic

/-! What is committed is what is stored: each commit is that of a replay, and the storage holds the account that the
replay has left. -/

namespace AccountReplica

/-- A replay of the groups came to this, and has left the account like that. -/
def GroupReplay.Leaves (g : GroupReplay) (groups : List UpdateGroup) (left : Account) : Prop :=
  ∃ expected found t, replayGroups expected groups (.start found) = .ok (g, t) ∧ t.account = left

namespace SharedStorage

lemma resources_run {α : Type} (body : Transaction.Body α) (s : SharedStorage) :
    (s.run body).2.storage.resources = s.storage.resources := by
  refine (Storage.resources_transaction body _).trans ?_
  simp only [interferedBefore]
  cases s.interference.reverse.lookup (s.asked + 1) with
  | none => rfl
  | some i => cases i <;> rfl

end SharedStorage

lemma leaves_of_replayGroupsTask {slow : Bool} {groups : List UpdateGroup} {s : SharedStorage} {g : GroupReplay}
    (h : (replayGroupsTask slow groups s).result = .ok g) :
    g.Leaves groups (replayGroupsTask slow groups s).storage.storage.account := by
  simp only [replayGroupsTask] at h ⊢
  split at h
  · cases h
  · cases h
  · next expected s' hr =>
    obtain ⟨t, ht, ha⟩ := SharedStorage.of_run_ok h
    exact ⟨expected, _, t, ht, ha.symm⟩

lemma leaves_of_replayPrecomputedTask {slow : Bool} {state : PrecomputedState} {s : SharedStorage} {g : GroupReplay}
    (h : (replayPrecomputedTask slow state s).result = .ok g) :
    g.Leaves state.groups (replayPrecomputedTask slow state s).storage.storage.account ∧
      (replayPrecomputedTask slow state s).storage.storage.resources =
        (s.storage.storeResources state.resources).resources := by
  have hg (s : SharedStorage) :
      (replayGroupsTask slow state.groups s).storage.storage.resources = s.storage.resources := by
    have hr := SharedStorage.resources_run readState s
    simp only [replayGroupsTask]
    split
    · simp_all
    · simp_all
    · next expected s' he =>
      rw [he] at hr
      exact (SharedStorage.resources_run _ s').trans hr
  by_cases hn : state.resources = []
  · have hx : replayPrecomputedTask slow state s = replayGroupsTask slow state.groups s :=
      if_pos (List.isEmpty_iff.mpr hn)
    rw [hx] at h ⊢
    rw [hg, hn]
    exact ⟨leaves_of_replayGroupsTask h, rfl⟩
  · simp only [replayPrecomputedTask, if_neg (List.isEmpty_iff.not.mpr hn), SharedStorage.storeResources] at h ⊢
    cases hr : s.refusesResources with
    | true =>
      simp only [hr, if_true] at h
      cases h
    | false =>
      simp only [hr, Bool.false_eq_true, if_false] at h ⊢
      exact ⟨leaves_of_replayGroupsTask h, hg _⟩

namespace Errand

def groups? : Errand → Option (List UpdateGroup)
  | task (.replayGroups groups) => some groups
  | task (.replayPrecomputed state) => some state.groups
  | _ => none

end Errand

namespace Commit

def left : Commit → Account
  | batch _ left | difference _ left => left

def Of (x : Errand) (c : Circumstances) : Commit → Prop
  | batch g left => ∃ groups, x.groups? = some groups ∧ g.Leaves groups left
  | difference events left => ∃ carried request d state more found t,
      x = .asked carried (.difference request) ∧ c.difference = .ok d ∧
        replayDifference request.origin d (.start found) = .ok (.applied state events more, t) ∧ t.account = left

end Commit

lemma DifferencePoll.left_of_committed? {slow : Bool} {events ev : EventSet} {origin : SequenceState}
    {answer : Except SyncError Difference} {s : SharedStorage} (h : committed? origin answer s = some ev) :
    ∃ d state more found t, answer = .ok d ∧
      replayDifference origin d (.start found) = .ok (.applied state ev more, t) ∧
      t.account = (takeDifference slow events origin answer s).storage.storage.account := by
  simp only [committed?] at h
  split at h
  · cases h
  · next d =>
    split at h
    · next state events' more hr =>
      cases h
      obtain ⟨t, ht, ha⟩ := SharedStorage.of_run_ok hr
      refine ⟨d, state, more, _, t, rfl, ht, ?_⟩
      cases d with
      | tooLong pts =>
        simp only [replayDifference] at ht
        split at ht <;> cases ht
      | _ =>
        rw [takeDifference, replayAnswer_storage]
        · exact ha.symm
        · rintro pts ⟨⟩
    · cases h

/-- What an errand commits when it goes on is the replay that it makes, and this is what is stored then. -/
theorem Errand.commit_of_proceed {x : Errand} {c : Circumstances} {s : SharedStorage} {what : Commit}
    (h : (x.proceed c s).commit = some what) :
    what.Of x c ∧ (x.proceed c s).storage.storage.account = what.left := by
  cases x with
  | task t =>
    cases t with
    | replayGroups groups =>
      simp only [proceed] at h ⊢
      cases hr : (replayGroupsTask c.slow groups s).result with
      | error error =>
        rw [hr] at h
        cases h
      | ok g =>
        rw [hr] at h
        cases h
        exact ⟨⟨groups, rfl, leaves_of_replayGroupsTask hr⟩, rfl⟩
    | replayPrecomputed state =>
      simp only [proceed] at h ⊢
      cases hr : (replayPrecomputedTask c.slow state s).result with
      | error error =>
        rw [hr] at h
        cases h
      | ok g =>
        rw [hr] at h
        cases h
        exact ⟨⟨state.groups, rfl, (leaves_of_replayPrecomputedTask hr).1⟩, rfl⟩
    | pollDifference events =>
      simp only [proceed] at h
      split at h <;> cases h
    | _ => cases h
  | asked events question =>
    cases question with
    | currentState => cases h
    | difference request =>
      obtain ⟨ev, he, rfl⟩ := Option.map_eq_some_iff.mp h
      obtain ⟨d, state, more, found, t, hd, hr, ha⟩ := DifferencePoll.left_of_committed? he
      exact ⟨⟨events, request, d, state, more, found, t, rfl, hd, hr, ha⟩, rfl⟩
  | _ => cases h

end AccountReplica
