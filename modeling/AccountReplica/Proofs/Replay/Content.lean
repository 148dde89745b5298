import AccountReplica.Replay.Difference
import AccountReplica.Replay.Groups
import Mathlib.Tactic.Common

/-! What replays write: each of them applies the updates that it takes, in order, and then moves the
persisted state. -/

namespace AccountReplica

namespace Account

def apply (a : Account) (u : Update) : Account :=
  u.write?.elim a a.write

def applyAll (a : Account) (us : List Update) : Account :=
  us.foldl apply a

def store (a : Account) (m : Message) : Account :=
  a.write (.storeMessage m)

def storeAll (a : Account) (ms : List Message) : Account :=
  ms.foldl store a

lemma applyAll_append (a : Account) (us vs : List Update) :
    a.applyAll (us ++ vs) = (a.applyAll us).applyAll vs :=
  List.foldl_append

@[simp] lemma state_apply (a : Account) (u : Update) : (a.apply u).state = a.state := by
  cases u <;> rfl

@[simp] lemma state_applyAll (a : Account) (us : List Update) : (a.applyAll us).state = a.state := by
  induction us generalizing a with
  | nil => rfl
  | cons u us ih => exact (ih _).trans (state_apply a u)

@[simp] lemma state_storeAll (a : Account) (ms : List Message) : (a.storeAll ms).state = a.state := by
  induction ms generalizing a with
  | nil => rfl
  | cons m ms ih => exact ih _

end Account

lemma bind_ok {ε α β : Type} {x : Except ε α} {f : α → Except ε β} {b : β}
    (h : x >>= f = .ok b) : ∃ a, x = .ok a ∧ f a = .ok b := by
  cases x with
  | error e => cases h
  | ok a => exact ⟨a, rfl, h⟩

lemma bind_of_ok {ε α β : Type} {x : Except ε α} {f : α → Except ε β} {a : α} {y : Except ε β}
    (hx : x = .ok a) (hf : f a = y) : x >>= f = y := by
  subst hx
  exact hf

lemma bind_of_error {ε α β : Type} {x : Except ε α} {f : α → Except ε β} {e : ε} (h : x = .error e) :
    x >>= f = .error e := by
  subst h
  rfl

lemma foldlM_induct {ε α β : Type} {f : β → α → Except ε β} {motive : β → Prop} {as : List α}
    {b b' : β} (h : as.foldlM f b = .ok b') (base : motive b)
    (step : ∀ a ∈ as, ∀ b b', f b a = .ok b' → motive b → motive b') : motive b' := by
  induction as generalizing b with
  | nil => cases h; exact base
  | cons a as ih =>
    obtain ⟨c, hc, h⟩ := bind_ok h
    exact ih h (step a List.mem_cons_self b c hc base) fun a' ha =>
      step a' (List.mem_cons_of_mem a ha)

lemma map_ok {ε α β : Type} {x : Except ε α} {f : α → β} {b : β}
    (h : x.map f = .ok b) : ∃ a, x = .ok a ∧ f a = b := by
  cases x with
  | error e => cases h
  | ok a => cases h; exact ⟨a, rfl, rfl⟩

lemma Transaction.account_of_write {t t' : Transaction} {w : Write} (h : t.write w = .ok t') :
    t'.account = t.account.write w := by
  simp only [Transaction.write] at h
  split at h
  · cases h; rfl
  · split at h
    · cases h; rfl
    · split at h
      · cases h
      · cases h; rfl

namespace Progress

variable {p q : Progress}

lemma account_of_storeMessage {m : Message} (h : p.storeMessage m = .ok q) :
    q.txn.account = p.txn.account.store m := by
  obtain ⟨⟨isNew, t⟩, ht, hq⟩ := bind_ok h
  obtain ⟨t', hw, he⟩ := map_ok ht
  cases he
  cases hq
  exact Transaction.account_of_write hw

lemma account_of_update {u : Update} (h : p.update u = .ok q) :
    q.txn.account = p.txn.account.apply u := by
  cases u with
  | newMessage m | newSecretMessage m => exact account_of_storeMessage h
  | deleteMessages | readInbox | webpage | contact =>
    obtain ⟨t, ht, hq⟩ := bind_ok h
    cases hq
    exact Transaction.account_of_write ht
  | _ => cases h; rfl

lemma account_of_updates {us : List Update} (h : p.updates us = .ok q) :
    q.txn.account = p.txn.account.applyAll us := by
  induction us generalizing p with
  | nil => cases h; rfl
  | cons u us ih =>
    obtain ⟨p', hu, hus⟩ := bind_ok h
    rw [ih hus, account_of_update hu]
    rfl

lemma account_of_messages {ms : List Message} (h : p.messages ms = .ok q) :
    q.txn.account = p.txn.account.storeAll ms := by
  induction ms generalizing p with
  | nil => cases h; rfl
  | cons m ms ih =>
    obtain ⟨p', hm, hms⟩ := bind_ok h
    rw [ih hms, account_of_storeMessage hm]
    rfl

lemma account_of_difference {d : Difference} (h : p.difference d = .ok q) :
    q.txn.account = (p.txn.account.storeAll d.messages).applyAll d.updates := by
  obtain ⟨p', hm, hu⟩ := bind_ok h
  rw [account_of_updates hu, account_of_messages hm]

lemma account_of_setState {expected state : SequenceState} (h : p.setState expected state = .ok q)
    (hp : p.txn.account.state = some expected) :
    q.txn.account = { p.txn.account with state := some state } := by
  simp only [setState] at h
  split at h
  · next he =>
    cases h
    rw [he, ← hp]
  · obtain ⟨t, ht, hq⟩ := bind_ok h
    cases hq
    exact Transaction.account_of_write ht

end Progress

lemma Track.account_of_applyGroup {γ : Type} {t : Track γ} {g : γ} {p q : Progress}
    (h : t.applyGroup g p = .ok q) : q.txn.account = p.txn.account.applyAll (t.updates g) := by
  obtain ⟨p', hu, hq⟩ := bind_ok h
  cases hq
  exact Progress.account_of_updates (q := p') hu

lemma DatedGroup.of_apply {sp sp' : SequenceState × Progress} {g : DatedGroup}
    (h : DatedGroup.apply sp g = .ok sp') :
    sp'.1 = { sp.1 with date := max sp.1.date g.date } ∧
      sp'.2.txn.account = sp.2.txn.account.applyAll g.updates := by
  obtain ⟨p, hu, hq⟩ := bind_ok h
  cases hq
  exact ⟨rfl, Progress.account_of_updates hu⟩

lemma Track.walk_induct {γ : Type} {t : Track γ} {motive : SequenceState → Account → Prop}
    {gs : List γ} {s : SequenceState} {p : Progress} {w : Walk γ} (h : t.walk gs s p = .ok w)
    (base : motive s p.txn.account)
    (step : ∀ g ∈ gs, ∀ s a, t.continues s g = .ok true → motive s a →
      motive (t.advance s g) (a.applyAll (t.updates g))) :
    motive w.state w.progress.txn.account := by
  induction gs generalizing s p w with
  | nil => cases h; exact base
  | cons g gs ih =>
    have hstep := fun g' (hg : g' ∈ gs) => step g' (List.mem_cons_of_mem g hg)
    simp only [walk] at h
    split at h
    · cases h
    · next hc =>
      obtain ⟨p', hp, h⟩ := bind_ok h
      obtain ⟨w', hw, h⟩ := bind_ok h
      cases h
      refine ih (w := w') hw ?_ hstep
      rw [account_of_applyGroup hp]
      exact step g List.mem_cons_self s _ hc base
    · split at h
      · obtain ⟨w', hw, h⟩ := bind_ok h
        cases h
        exact ih (w := w') hw base hstep
      · cases h; exact base

lemma Batch.replay_induct {motive : SequenceState → Account → Prop} {b : Batch}
    {expected : SequenceState} {t t' : Transaction} {r : GroupReplay}
    (h : b.replay expected t = .ok (r, t')) (ht : t.account.state = some expected)
    (base : motive expected t.account)
    (common : ∀ g ∈ b.common, ∀ s a, Track.common.continues s g = .ok true → motive s a →
      motive (Track.common.advance s g) (a.applyAll g.updates))
    (secret : ∀ g ∈ b.secret, ∀ s a, Track.secret.continues s g = .ok true → motive s a →
      motive (Track.secret.advance s g) (a.applyAll g.updates))
    (numbered : ∀ g ∈ b.numbered, ∀ s a, Track.numbered.continues s g = .ok true → motive s a →
      motive (Track.numbered.advance s g) (a.applyAll g.updates))
    (dated : ∀ g ∈ b.dated, ∀ s a, motive s a →
      motive { s with date := max s.date g.date } (a.applyAll g.updates)) :
    ∃ s a, motive s a ∧ t'.account = { a with state := some s } := by
  simp only [Batch.replay] at h
  split at h
  · obtain ⟨wc, hc, h⟩ := bind_ok h
    obtain ⟨ws, hs, h⟩ := bind_ok h
    obtain ⟨wn, hn, h⟩ := bind_ok h
    obtain ⟨sp, hd, h⟩ := bind_ok h
    obtain ⟨q, hq, h⟩ := bind_ok h
    cases h
    -- No group touches the persisted state, which is the one that the last write compares with.
    let kept (s : SequenceState) (a : Account) := motive s a ∧ a.state = some expected
    have kc : kept wc.state wc.progress.txn.account :=
      Track.walk_induct hc ⟨base, ht⟩ fun g hg s a hc h =>
        ⟨common g hg s a hc h.1, (Account.state_applyAll a _).trans h.2⟩
    have ks : kept ws.state ws.progress.txn.account :=
      Track.walk_induct hs kc fun g hg s a hc h =>
        ⟨secret g hg s a hc h.1, (Account.state_applyAll a _).trans h.2⟩
    have kn : kept wn.state wn.progress.txn.account :=
      Track.walk_induct hn ks fun g hg s a hc h =>
        ⟨numbered g hg s a hc h.1, (Account.state_applyAll a _).trans h.2⟩
    have kd : kept sp.1 sp.2.txn.account :=
      foldlM_induct (motive := fun sp => kept sp.1 sp.2.txn.account) hd kn fun g hg sp sp' h k => by
        obtain ⟨hs, ha⟩ := DatedGroup.of_apply h
        simp only [kept, hs, ha, Account.state_applyAll]
        exact ⟨dated g hg _ _ k.1, k.2⟩
    exact ⟨sp.1, _, kd.1, Progress.account_of_setState hq kd.2⟩
  · cases h

lemma Container.of_mem_split {us : List Update} {first last date : Int32} {g : UpdateGroup}
    (h : g ∈ split us first last date) :
    (∃ u ∈ us, UpdateGroup.ofStamped? u = some g) ∨
      ((∃ n, g = .numbered n) ∨ ∃ d, g = .dated d) ∧ ∀ u ∈ g.updates, u.sequencing = .unsequenced := by
  rcases List.mem_append.mp h with h | h
  · exact Or.inl (List.mem_filterMap.mp h)
  · have hu : ∀ u ∈ us.filter (·.sequencing = .unsequenced), u.sequencing = .unsequenced :=
      fun u hm => by simpa using (List.mem_filter.mp hm).2
    simp only [restGroups] at h
    split at h
    · obtain rfl := List.mem_singleton.mp h
      exact Or.inr ⟨Or.inl ⟨_, rfl⟩, hu⟩
    · split at h
      · cases h
      · obtain rfl := List.mem_singleton.mp h
        exact Or.inr ⟨Or.inr ⟨_, rfl⟩, hu⟩

lemma Container.of_mem_groups {c : Container} {g : UpdateGroup} (h : g ∈ c.groups) :
    g = .tooLong ∨ (∃ u ∈ c.updates, UpdateGroup.ofStamped? u = some g) ∨
      ((∃ n, g = .numbered n) ∨ ∃ d, g = .dated d) ∧ ∀ u ∈ g.updates, u.sequencing = .unsequenced := by
  cases c with
  | tooLong => exact Or.inl (List.mem_singleton.mp h)
  | short | combined | batch => exact Or.inr (of_mem_split h)

namespace Batch

variable {gs : List UpdateGroup}

lemma mem_common {g : CommonGroup} : g ∈ (ofGroups gs).common ↔ .common g ∈ gs := by
  have h (x : UpdateGroup) : x.common? = some g ↔ x = .common g := by
    cases x <;> simp [UpdateGroup.common?]
  simp [ofGroups, (StableSort.sort_perm _ _).mem_iff, h]

lemma mem_secret {g : SecretGroup} : g ∈ (ofGroups gs).secret ↔ .secret g ∈ gs := by
  have h (x : UpdateGroup) : x.secret? = some g ↔ x = .secret g := by
    cases x <;> simp [UpdateGroup.secret?]
  simp [ofGroups, (StableSort.sort_perm _ _).mem_iff, h]

lemma mem_numbered {g : NumberedGroup} : g ∈ (ofGroups gs).numbered ↔ .numbered g ∈ gs := by
  have h (x : UpdateGroup) : x.numbered? = some g ↔ x = .numbered g := by
    cases x <;> simp [UpdateGroup.numbered?]
  simp [ofGroups, (StableSort.sort_perm _ _).mem_iff, h]

lemma mem_dated {g : DatedGroup} : g ∈ (ofGroups gs).dated ↔ .dated g ∈ gs := by
  have h (x : UpdateGroup) : x.dated? = some g ↔ x = .dated g := by
    cases x <;> simp [UpdateGroup.dated?]
  simp [ofGroups, h]

end Batch

end AccountReplica
