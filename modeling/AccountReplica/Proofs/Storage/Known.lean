import AccountReplica.DifferencePoll
import AccountReplica.Proofs.Replay.Content

/-! An account that was followed before stays known, and only a known one is brought up to date. -/

namespace AccountReplica

lemma Storage.transaction_cases {α : Type} (body : Transaction.Body α) (s : Storage) :
    (∃ e, (s.transaction body).1 = .error e ∧ (s.transaction body).2.account = s.account) ∨
      ∃ r t, body (.start s.account) = .ok (r, t) ∧ (s.transaction body).1 = .ok r ∧
        (s.transaction body).2.account = t.account := by
  simp only [transaction, attempt]
  split
  · exact Or.inl ⟨_, rfl, rfl⟩
  · split
    · exact Or.inl ⟨_, rfl, rfl⟩
    · next r t h =>
      refine Or.inr ⟨r, t, h, rfl, ?_⟩
      simp only [commit]
      split <;> rfl

lemma Storage.resources_transaction {α : Type} (body : Transaction.Body α) (s : Storage) :
    (s.transaction body).2.resources = s.resources := by
  simp only [transaction, attempt]
  split
  · rfl
  · split
    · rfl
    · simp only [commit]
      split <;> rfl

def Account.Known (a : Account) : Prop :=
  a.state.isSome

lemma Account.Known.interfere {s : Storage} (i : Interference) (h : s.account.Known) :
    (s.interfere i).account.Known := by
  cases i with
  | setState state => rfl
  | failNext n => exact h

def Transaction.Body.Keeps {α : Type} (body : Transaction.Body α) : Prop :=
  ∀ t a t', body t = .ok (a, t') → t.account.Known → t'.account.Known

namespace SharedStorage

def Known (s : SharedStorage) : Prop :=
  s.storage.account.Known

instance (s : SharedStorage) : Decidable s.Known :=
  inferInstanceAs (Decidable (_ = true))

lemma Known.interferedBefore {s : SharedStorage} (h : s.Known) (n : Nat) :
    (s.interferedBefore n).account.Known := by
  simp only [SharedStorage.interferedBefore]
  cases s.interference.reverse.lookup n with
  | none => exact h
  | some i => exact Account.Known.interfere i h

variable {α : Type} {body : Transaction.Body α} {s : SharedStorage}

lemma run_cases (body : Transaction.Body α) (s : SharedStorage) :
    (∃ e, (s.run body).1 = .error e ∧
      (s.run body).2.storage.account = (s.interferedBefore (s.asked + 1)).account) ∨
      ∃ r t, body (.start (s.interferedBefore (s.asked + 1)).account) = .ok (r, t) ∧
        (s.run body).1 = .ok r ∧ (s.run body).2.storage.account = t.account := by
  simp only [run]
  rcases Storage.transaction_cases body (s.interferedBefore (s.asked + 1)) with ⟨e, hr, ha⟩ | ⟨r, t, hb, hr, ha⟩
  · exact Or.inl ⟨e.contained, by rw [hr]; rfl, ha⟩
  · exact Or.inr ⟨r, t, hb, by rw [hr]; rfl, ha⟩

lemma Known.run (h : s.Known) (hb : body.Keeps) : (s.run body).2.Known := by
  have hk := h.interferedBefore (s.asked + 1)
  rcases run_cases body s with ⟨-, -, he⟩ | ⟨r, t, ht, -, he⟩
  · rw [SharedStorage.Known, he]
    exact hk
  · rw [SharedStorage.Known, he]
    exact hb _ _ _ ht hk

lemma of_run_ok {a : α} (h : (s.run body).1 = .ok a) :
    ∃ t, body (.start (s.interferedBefore (s.asked + 1)).account) = .ok (a, t) ∧
      (s.run body).2.storage.account = t.account := by
  rcases run_cases body s with ⟨e, he, -⟩ | ⟨r, t, hb, hr, ha⟩
  · cases he.symm.trans h
  · cases hr.symm.trans h
    exact ⟨t, hb, ha⟩

end SharedStorage

lemma keeps_readState : readState.Keeps := by
  rintro t a t' h hk
  cases h
  exact hk

lemma known_of_write {t t' : Transaction} {state : SequenceState} (h : t.write (.setState state) = .ok t') :
    t'.account.Known := by
  rw [Account.Known, Transaction.account_of_write h]
  rfl

lemma keeps_adopt (state : SequenceState) : (DifferencePoll.adopt state).Keeps := by
  intro t a t' h hk
  simp only [DifferencePoll.adopt] at h
  split at h
  · cases h
    exact hk
  · obtain ⟨t'', hw, he⟩ := map_ok h
    cases he
    exact known_of_write hw

lemma unknown_of_adopt {state : SequenceState} {t t' : Transaction}
    (h : DifferencePoll.adopt state t = .ok (true, t')) : ¬t.account.Known := by
  simp only [DifferencePoll.adopt] at h
  split at h
  · cases h
  · next hn => exact fun hk => absurd hk (by rw [Account.Known, show t.account.state = none from hn]; decide)

lemma known_of_replayDifference {expected : SequenceState} {d : Difference} {t t' : Transaction}
    {r : DifferenceReplay} (h : replayDifference expected d t = .ok (r, t')) :
    (t.account.Known → t'.account.Known) ∧
      ∀ state events more, r = .applied state events more → t'.account.Known := by
  simp only [replayDifference] at h
  split at h
  · next ht =>
    obtain ⟨state, -, h⟩ := bind_ok h
    obtain ⟨p, hp, h⟩ := bind_ok h
    obtain ⟨q, hq, h⟩ := bind_ok h
    cases h
    have hs : p.txn.account.state = some expected := by
      rw [Progress.account_of_difference hp, Account.state_applyAll, Account.state_storeAll]
      exact ht
    have hk : q.txn.account.Known := by
      rw [Account.Known, Progress.account_of_setState hq hs]
      rfl
    exact ⟨fun _ => hk, fun _ _ _ _ => hk⟩
  · cases h
    exact ⟨id, fun _ _ _ he => by cases he⟩

lemma keeps_replayDifference (expected : SequenceState) (d : Difference) : (replayDifference expected d).Keeps :=
  fun _ _ _ h => (known_of_replayDifference h).1

namespace DifferencePoll

variable {s : SharedStorage}

lemma known_ask (limit : Option Int32) (events : EventSet) (h : s.Known) : (ask limit events s).storage.Known := by
  have hk := h.run keeps_readState
  simp only [ask]
  split <;> simp_all

lemma known_takeState (events : EventSet) (answer : Except SyncError SequenceState) (h : s.Known) :
    (takeState events answer s).storage.Known := by
  simp only [takeState]
  split
  · exact h
  · next state =>
    have hk := h.run (keeps_adopt state)
    split <;> simp_all

lemma replayAnswer_storage (slow : Bool) (events : EventSet) (d : Difference) :
    (replayAnswer slow events origin d s).storage = (s.run (replayDifference origin d)).2 := by
  simp only [replayAnswer]
  split <;> simp_all

lemma known_takeDifference (slow : Bool) (events : EventSet) (answer : Except SyncError Difference) (h : s.Known) :
    (takeDifference slow events origin answer s).storage.Known := by
  simp only [takeDifference]
  split
  · exact h
  · exact h
  · exact h
  · rw [replayAnswer_storage]
    exact h.run (keeps_replayDifference origin _)

end DifferencePoll

end AccountReplica
