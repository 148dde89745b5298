import AccountReplica.Proofs.Replica.Basic

/-! One round of the difference poll, whatever the server answers and whatever others do to the storage in the
meantime. It writes the server's state where there is none, or a difference from the state that it asked about, and
else nothing. -/

namespace AccountReplica

lemma SharedStorage.run_alone {α : Type} (body : Transaction.Body α) (s : Storage) :
    ∃ s', s'.storage.resources = s.resources ∧
      ((∃ e, (alone s).run body = (.error e, s') ∧ s'.storage.account = s.account) ∨
        ∃ r t, body (.start s.account) = .ok (r, t) ∧ (alone s).run body = (.ok r, s') ∧
          s'.storage.account = t.account) := by
  refine ⟨((alone s).run body).2, s.resources_transaction body, ?_⟩
  rcases run_cases body (alone s) with ⟨e, hr, ha⟩ | ⟨r, t, hb, hr, ha⟩
  · exact .inl ⟨e, Prod.ext hr rfl, ha⟩
  · exact .inr ⟨r, t, hb, Prod.ext hr rfl, ha⟩

lemma replayDifference_cases {expected : SequenceState} {d : Difference} {t t' : Transaction} {r : DifferenceReplay}
    (h : replayDifference expected d t = .ok (r, t')) :
    (r = .mismatch t.state ∧ t' = t) ∨
      t.state = some expected ∧ ∃ target told more, r = .applied target told more := by
  simp only [replayDifference] at h
  split at h
  · next hs =>
    obtain ⟨target, -, h⟩ := bind_ok h
    obtain ⟨p, -, h⟩ := bind_ok h
    obtain ⟨q, -, h⟩ := bind_ok h
    cases h
    exact .inr ⟨hs, target, _, _, rfl⟩
  · cases h
    exact .inl ⟨rfl, rfl⟩

namespace DifferencePoll

structure Round where
  events : EventSet
  circumstances : Circumstances
  storage : Storage
  /-- What others make of the storage while the server is asked. -/
  meanwhile : Storage → Storage

namespace Round

def opening (r : Round) : Stride :=
  (Errand.task (.pollDifference r.events)).proceed r.circumstances (.alone r.storage)

def found (r : Round) : Storage :=
  r.meanwhile r.opening.storage.storage

def closing (r : Round) : Stride :=
  r.opening.errand.proceed r.circumstances (.alone r.found)

def after (r : Round) : Account :=
  r.closing.storage.storage.account

/-- The server gave a difference from the state that it was asked about, which is still the persisted one, and the
replay of it makes this of the account. -/
def Replays (r : Round) (told : EventSet) (more : Bool) (a : Account) : Prop :=
  ∃ request d target t, r.opening.errand = .asked r.events (.difference request) ∧
    r.storage.account.state = some request.origin ∧ r.found.account.state = some request.origin ∧
    r.circumstances.difference = .ok d ∧
    replayDifference request.origin d (.start r.found.account) = .ok (.applied target told more, t) ∧ t.account = a

def Leaves (r : Round) : PollOutcome → Prop
  | .stateInitialized state =>
    r.circumstances.state = .ok state ∧ r.storage.account.state = none ∧ r.found.account.state = none ∧
      r.after = { r.found.account with state := some state }
  | .applied events more =>
    (r.circumstances.difference = .error .duplicateSession ∧ more = false ∧ r.after = r.found.account ∧
        events = r.events) ∨
      ∃ told, r.Replays told more r.after ∧ events = r.events.merge told
  | .mismatch events | .tooLong _ events | .failed events _ => r.after = r.found.account ∧ events = r.events
  | .replayFailed _ => r.after = r.found.account

def Ends (r : Round) (outcome : PollOutcome) : Prop :=
  r.closing.errand = .report (.differencePolled outcome) ∧
    r.closing.storage.storage.resources = r.found.resources ∧ r.Leaves outcome

structure Accounts (r : Round) (outcome : PollOutcome) : Prop where
  read : r.opening.storage.storage.account = r.storage.account ∧
    r.opening.storage.storage.resources = r.storage.resources
  resources : r.closing.storage.storage.resources = r.found.resources
  leaves : r.Leaves outcome
  changes : r.after ≠ r.found.account ↔ (∃ state, outcome = .stateInitialized state) ∨
    ∃ told more a, outcome = .applied (r.events.merge told) more ∧ r.Replays told more a ∧ a ≠ r.found.account

variable (r : Round)

lemma opening_cases :
    (r.opening.storage.storage.account = r.storage.account ∧
      r.opening.storage.storage.resources = r.storage.resources) ∧
      ((∃ e, r.opening.errand = .report (.differencePolled (.failed r.events e))) ∨
        (r.storage.account.state = none ∧ r.opening.errand = .asked r.events .currentState) ∨
        ∃ request, r.storage.account.state = some request.origin ∧
          r.opening.errand = .asked r.events (.difference request)) := by
  obtain ⟨s', hs, ⟨e, h, ha⟩ | ⟨state, t, hb, h, ha⟩⟩ := SharedStorage.run_alone readState r.storage
  · simp only [opening, Errand.proceed, ask, h]
    exact ⟨⟨ha, hs⟩, .inl ⟨e, rfl⟩⟩
  · cases hb
    cases hn : r.storage.account.state with
    | none =>
      replace h : (SharedStorage.alone r.storage).run readState = (.ok none, s') := h.trans (by rw [← hn]; rfl)
      simp only [opening, Errand.proceed, ask, h]
      exact ⟨⟨ha, hs⟩, .inr (.inl ⟨trivial, trivial⟩)⟩
    | some origin =>
      replace h : (SharedStorage.alone r.storage).run readState = (.ok (some origin), s') :=
        h.trans (by rw [← hn]; rfl)
      simp only [opening, Errand.proceed, ask, h]
      exact ⟨⟨ha, hs⟩, .inr (.inr ⟨⟨origin, r.circumstances.limit⟩, rfl, rfl⟩)⟩

variable {r}

lemma ends_of_closing {outcome : PollOutcome} {s : SharedStorage} {commit : Option Commit}
    (hc : r.closing = ⟨.report (.differencePolled outcome), s, commit⟩)
    (hs : s.storage.resources = r.found.resources) (hl : r.after = s.storage.account → r.Leaves outcome) :
    r.Ends outcome := by
  refine ⟨by rw [hc], by rw [hc, hs], hl ?_⟩
  rw [after, hc]

lemma ends_of_unread {e : SyncError} (hq : r.opening.errand = .report (.differencePolled (.failed r.events e))) :
    r.Ends (.failed r.events e) := by
  have hc : r.closing = ⟨.report (.differencePolled (.failed r.events e)), .alone r.found, none⟩ := by
    rw [closing, hq]
    rfl
  exact ends_of_closing hc rfl fun ha => ⟨ha, rfl⟩

lemma ends_of_unknown (hn : r.storage.account.state = none)
    (hq : r.opening.errand = .asked r.events .currentState) : ∃ outcome, r.Ends outcome := by
  have hc : r.closing = Errand.proceed r.circumstances (.alone r.found) (.asked r.events .currentState) := by
    rw [closing, hq]
  simp only [Errand.proceed] at hc
  cases hd : r.circumstances.state with
  | error e =>
    rw [hd] at hc
    exact ⟨_, ends_of_closing hc rfl fun ha => ⟨ha, rfl⟩⟩
  | ok state =>
    obtain ⟨s', hr, ⟨e, hrun, hs'⟩ | ⟨adopted, t, hb, hrun, hs'⟩⟩ := SharedStorage.run_alone (adopt state) r.found
    · simp only [takeState, hd, hrun] at hc
      exact ⟨_, ends_of_closing hc hr fun ha => ⟨ha.trans hs', rfl⟩⟩
    · simp only [adopt] at hb
      split at hb
      · cases hb
        simp only [takeState, hd, hrun] at hc
        exact ⟨_, ends_of_closing hc hr fun ha => ⟨ha.trans hs', rfl⟩⟩
      · next hf =>
        cases hb
        simp only [takeState, hd, hrun] at hc
        exact ⟨_, ends_of_closing hc hr fun ha => ⟨hd, hn, hf, ha.trans hs'⟩⟩

lemma Replays.account_eq {told told' : EventSet} {more more' : Bool} {a a' : Account} (h : r.Replays told more a)
    (h' : r.Replays told' more' a') : a = a' := by
  obtain ⟨request, d, target, t, hq, -, -, hd, hr, rfl⟩ := h
  obtain ⟨request', d', target', t', hq', -, -, hd', hr', rfl⟩ := h'
  obtain rfl : request = request' := by
    cases hq.symm.trans hq'
    rfl
  obtain rfl : d = d' := by
    cases hd.symm.trans hd'
    rfl
  cases hr.symm.trans hr'
  rfl

lemma ends_of_replay {request : DifferenceRequest} {d : Difference} {commit : Option Commit}
    (hs : r.storage.account.state = some request.origin)
    (hq : r.opening.errand = .asked r.events (.difference request)) (hd : r.circumstances.difference = .ok d)
    (hc : r.closing =
      let x := replayAnswer r.circumstances.slow r.events request.origin d (.alone r.found)
      ⟨.report (.differencePolled x.result), x.storage, commit⟩) : ∃ outcome, r.Ends outcome := by
  obtain ⟨s', hr, ⟨e, hrun, hs'⟩ | ⟨result, t, hb, hrun, hs'⟩⟩ :=
    SharedStorage.run_alone (replayDifference request.origin d) r.found
  · cases e with
    | differenceTooLong pts =>
      simp only [replayAnswer, hrun] at hc
      exact ⟨_, ends_of_closing hc hr fun ha => ⟨ha.trans hs', rfl⟩⟩
    | _ =>
      simp only [replayAnswer, hrun] at hc
      exact ⟨_, ends_of_closing hc hr fun ha => ha.trans hs'⟩
  · simp only [replayAnswer, hrun] at hc
    obtain ⟨rfl, rfl⟩ | ⟨hf, target, told, more, rfl⟩ := replayDifference_cases hb
    · exact ⟨_, ends_of_closing hc hr fun ha => ⟨ha.trans hs', rfl⟩⟩
    · refine ⟨_, ends_of_closing hc hr fun ha => .inr ⟨told, ?_, rfl⟩⟩
      exact ⟨request, d, target, t, hq, hs, hf, hd, hb, (ha.trans hs').symm⟩

lemma ends_of_known {request : DifferenceRequest} (hs : r.storage.account.state = some request.origin)
    (hq : r.opening.errand = .asked r.events (.difference request)) : ∃ outcome, r.Ends outcome := by
  have hc : r.closing = Errand.proceed r.circumstances (.alone r.found) (.asked r.events (.difference request)) := by
    rw [closing, hq]
  simp only [Errand.proceed] at hc
  cases hd : r.circumstances.difference with
  | error e =>
    rw [hd] at hc
    cases e with
    | duplicateSession => exact ⟨_, ends_of_closing hc rfl fun ha => .inl ⟨hd, rfl, ha, rfl⟩⟩
    | _ => exact ⟨_, ends_of_closing hc rfl fun ha => ⟨ha, rfl⟩⟩
  | ok d =>
    rw [hd] at hc
    cases d with
    | tooLong pts => exact ⟨_, ends_of_closing hc rfl fun ha => ⟨ha, rfl⟩⟩
    | _ => exact ends_of_replay hs hq hd hc

lemma changes_of_leaves {outcome : PollOutcome} (h : r.Leaves outcome) :
    r.after ≠ r.found.account ↔ (∃ state, outcome = .stateInitialized state) ∨
      ∃ told more a, outcome = .applied (r.events.merge told) more ∧ r.Replays told more a ∧ a ≠ r.found.account := by
  cases outcome with
  | stateInitialized state =>
    obtain ⟨-, -, hn, ha⟩ := h
    refine iff_of_true ?_ (.inl ⟨state, rfl⟩)
    rw [ha]
    intro he
    have hs := congrArg Account.state he
    exact absurd (hs.trans hn) (by simp)
  | applied events more =>
    rcases h with ⟨hd, -, ha, -⟩ | ⟨told, hp, rfl⟩
    · refine iff_of_false (not_not.mpr ha) ?_
      rintro (⟨state, he⟩ | ⟨told, more', a, -, ⟨request, d, target, t, -, -, -, hd', -⟩, -⟩)
      · cases he
      · cases hd.symm.trans hd'
    · constructor
      · intro hn
        exact .inr ⟨told, more, r.after, rfl, hp, hn⟩
      · rintro (⟨state, he⟩ | ⟨told', more', a, -, hp', hn⟩)
        · cases he
        · rwa [hp.account_eq hp']
  | mismatch | tooLong | failed =>
    refine iff_of_false (not_not.mpr h.1) ?_
    simp
  | replayFailed =>
    refine iff_of_false (not_not.mpr h) ?_
    simp

/-- However a round ends, it has told what it did, and it did nothing to an account whose state had moved. -/
theorem accounts_of_round (r : Round) :
    ∃ outcome, r.closing.errand = .report (.differencePolled outcome) ∧ r.Accounts outcome := by
  obtain ⟨hr, hq⟩ := r.opening_cases
  obtain ⟨outcome, hc, hs, hl⟩ : ∃ outcome, r.Ends outcome := by
    rcases hq with ⟨e, hq⟩ | ⟨hn, hq⟩ | ⟨request, hs, hq⟩
    · exact ⟨_, ends_of_unread hq⟩
    · exact ends_of_unknown hn hq
    · exact ends_of_known hs hq
  exact ⟨outcome, hc, hr, hs, hl, changes_of_leaves hl⟩

example : (Round.mk .empty (Replica.answering (.full [Replica.sampleMessage] [] ⟨11, 0, 60, 1⟩))
    Replica.sampleStorage.storage (·.setState ⟨12, 0, 60, 1⟩)).closing.errand =
      .report (.differencePolled (.mismatch .empty)) := rfl

end Round

end DifferencePoll

end AccountReplica
