import AccountReplica.Proofs.Storage.Arrivals
import AccountReplica.Storage.Session

/-! The writes of a transaction, one after the other. A replay in which one of them is refused is not committed. -/

namespace AccountReplica

/-- Does this refusal not come to bear on any of the writes? -/
def Refusal.Spares (r : Refusal) (ws : List Write) : Prop :=
  r.nth = 0 ∨ ws.countP (·.kind = r.kind) < r.nth

def Account.writeAll (a : Account) (ws : List Write) : Account :=
  ws.foldl Account.write a

namespace Transaction

def writeAll (t : Transaction) (ws : List Write) : Except Failure Transaction :=
  ws.foldlM write t

variable {t t' : Transaction} {ws vs : List Write}

lemma writeAll_append (h : t.writeAll ws = .ok t') : t.writeAll (ws ++ vs) = t'.writeAll vs :=
  List.foldlM_append.trans (bind_of_ok h rfl)

lemma account_of_writeAll (h : t.writeAll ws = .ok t') : t'.account = t.account.writeAll ws := by
  induction ws generalizing t with
  | nil =>
    cases h
    rfl
  | cons w ws ih =>
    obtain ⟨t₁, hw, h⟩ := bind_ok h
    rw [ih h, account_of_write hw]
    rfl

lemma spares_of_writeAll (h : t.writeAll ws = .ok t') {r : Refusal} (hr : t.refusal = some r) : r.Spares ws := by
  induction ws generalizing t r with
  | nil =>
    rw [Refusal.Spares, List.countP_nil]
    omega
  | cons w ws ih =>
    obtain ⟨t₁, hw, h⟩ := bind_ok h
    simp only [write, hr] at hw
    -- A write of another kind leaves the refusal as it is, and one of its kind brings it one closer.
    split at hw
    · next hk =>
      cases hw
      have hs := ih h (r := r) rfl
      rwa [Refusal.Spares, List.countP_cons_of_neg (by simpa using Ne.symm hk)]
    · next hk =>
      split at hw
      · cases hw
      · next hn =>
        cases hw
        have hs := ih h (r := { r with nth := r.nth - 1 }) rfl
        rw [Refusal.Spares] at hs ⊢
        rw [List.countP_cons_of_pos (by simpa using (not_not.mp hk).symm)]
        simp only at hs
        omega

end Transaction

def writes (us : List Update) : List Write :=
  us.filterMap Update.write?

def stateWrite (expected state : SequenceState) : List Write :=
  if state = expected then [] else [.setState state]

def GroupReplay.writes (r : GroupReplay) (expected : SequenceState) : List Write :=
  AccountReplica.writes r.taken ++ stateWrite expected (r.applied.foldl UpdateGroup.advance expected)

def DifferenceReplay.writes (expected : SequenceState) (d : Difference) : DifferenceReplay → List Write
  | mismatch _ => []
  | applied state _ _ => AccountReplica.writes d.content ++ stateWrite expected state

section

variable {p q : Progress}

namespace Progress

lemma writes_of_storeMessage {m : Message} (h : p.storeMessage m = .ok q) :
    p.txn.writeAll [.storeMessage m] = .ok q.txn := by
  obtain ⟨⟨isNew, t⟩, ht, hq⟩ := bind_ok h
  obtain ⟨t', hw, he⟩ := map_ok ht
  cases he
  cases hq
  exact bind_of_ok hw rfl

lemma writes_of_update {u : Update} (h : p.update u = .ok q) : p.txn.writeAll u.write?.toList = .ok q.txn := by
  cases u with
  | newMessage m | newSecretMessage m => exact writes_of_storeMessage h
  | deleteMessages | readInbox | webpage | contact =>
    obtain ⟨t, ht, hq⟩ := bind_ok h
    cases hq
    exact bind_of_ok ht rfl
  | _ =>
    cases h
    rfl

lemma writes_of_updates {us : List Update} (h : p.updates us = .ok q) : p.txn.writeAll (writes us) = .ok q.txn := by
  induction us generalizing p with
  | nil =>
    cases h
    rfl
  | cons u us ih =>
    obtain ⟨p', hu, h⟩ := bind_ok h
    have hw : writes (u :: us) = u.write?.toList ++ writes us := by
      cases hu : u.write? <;> simp [writes, hu]
    rw [hw, Transaction.writeAll_append (writes_of_update hu), ih h]

lemma writes_of_setState {expected state : SequenceState} (h : p.setState expected state = .ok q) :
    p.txn.writeAll (stateWrite expected state) = .ok q.txn := by
  simp only [setState, stateWrite] at h ⊢
  split at h
  · next he =>
    cases h
    rw [if_pos he]
    rfl
  · next he =>
    obtain ⟨t, ht, hq⟩ := bind_ok h
    cases hq
    rw [if_neg he]
    exact bind_of_ok ht rfl

end Progress

lemma writes_append (us vs : List Update) : writes (us ++ vs) = writes us ++ writes vs :=
  List.filterMap_append

lemma Track.writes_of_applyGroups {γ : Type} {t : Track γ} {gs : List γ} (h : t.applyGroups p gs = .ok q) :
    p.txn.writeAll (writes (gs.flatMap t.updates)) = .ok q.txn := by
  induction gs generalizing p with
  | nil =>
    cases h
    rfl
  | cons g gs ih =>
    obtain ⟨p', hp, h⟩ := bind_ok h
    obtain ⟨p₁, hu, hp⟩ := bind_ok hp
    cases hp
    rw [List.flatMap_cons, writes_append, Transaction.writeAll_append (Progress.writes_of_updates hu)]
    exact ih (p := { p₁ with events := t.tell g p₁.events }) h

end

lemma DatedGroup.writes_of_applyAll {gs : List DatedGroup} {sp sp' : SequenceState × Progress}
    (h : gs.foldlM apply sp = .ok sp') :
    sp.2.txn.writeAll (writes (gs.flatMap (·.updates))) = .ok sp'.2.txn := by
  induction gs generalizing sp with
  | nil =>
    cases h
    rfl
  | cons g gs ih =>
    obtain ⟨sp₁, hp, h⟩ := bind_ok h
    obtain ⟨p₁, hu, hp⟩ := bind_ok hp
    cases hp
    rw [List.flatMap_cons, writes_append, Transaction.writeAll_append (Progress.writes_of_updates hu)]
    exact ih h

variable {expected : SequenceState} {t t' : Transaction}

theorem writes_of_replayGroups {gs : List UpdateGroup} {r : GroupReplay}
    (h : replayGroups expected gs t = .ok (r, t')) : t.writeAll (r.writes expected) = .ok t' := by
  obtain ⟨-, h⟩ := replay_of_replayGroups h
  obtain ⟨-, pc, ps, pn, p, q, sn, hc, hs, hn, hd, hq, -, rfl⟩ := Batch.steps_of_replay h
  rw [GroupReplay.writes]
  generalize r.applied.foldl UpdateGroup.advance expected = state at hd hq ⊢
  simp only [GroupReplay.taken, GroupReplay.applied, List.flatMap_append, List.flatMap_map, writes_append,
    List.append_assoc]
  exact (Transaction.writeAll_append (Track.writes_of_applyGroups hc)).trans <|
    (Transaction.writeAll_append (Track.writes_of_applyGroups hs)).trans <|
    (Transaction.writeAll_append (Track.writes_of_applyGroups hn)).trans <|
    (Transaction.writeAll_append (DatedGroup.writes_of_applyAll hd)).trans (Progress.writes_of_setState hq)

theorem writes_of_replayDifference {d : Difference} {r : DifferenceReplay}
    (h : replayDifference expected d t = .ok (r, t')) : t.writeAll (r.writes expected d) = .ok t' := by
  simp only [replayDifference] at h
  split at h
  · obtain ⟨state, -, h⟩ := bind_ok h
    obtain ⟨p, hp, h⟩ := bind_ok h
    obtain ⟨q, hq, h⟩ := bind_ok h
    cases h
    rw [Progress.difference_eq] at hp
    rw [DifferenceReplay.writes, Transaction.writeAll_append (Progress.writes_of_updates hp)]
    exact Progress.writes_of_setState hq
  · cases h
    rfl

def Access.write? : Access → Option Write
  | write w => some w
  | _ => none

lemma Access.perform_start (a : Account) {x : Access} (h : ∀ e, x ≠ .fail e) :
    ∃ r, x.perform (.start a) = .ok (r, .start (a.writeAll x.write?.toList)) := by
  cases x with
  | fail e => exact absurd rfl (h e)
  | write w => cases w <;> exact ⟨_, rfl⟩
  | _ => exact ⟨_, rfl⟩

namespace Storage

lemma accesses_start (a : Account) {as : List Access} (h : ∀ e, .fail e ∉ as) : ∃ rs, rs.length = as.length ∧
    accesses (.start a) as = .ok (rs, .start (a.writeAll (as.filterMap Access.write?))) := by
  induction as generalizing a with
  | nil => exact ⟨[], rfl, rfl⟩
  | cons x as ih =>
    obtain ⟨r, hr⟩ := x.perform_start a fun e he => h e (he ▸ List.mem_cons_self)
    obtain ⟨rs, hl, hrs⟩ := ih (a.writeAll x.write?.toList) fun e he => h e (List.mem_cons_of_mem x he)
    refine ⟨r :: rs, congrArg (· + 1) hl, ?_⟩
    simp only [accesses, hr, hrs, List.filterMap_cons]
    cases x.write? <;> rfl

lemma accesses_broken {t t' : Transaction} {before : List Access} {seen : List Reply}
    (h : accesses t before = .ok (seen, t')) (e : SyncError) (after : List Access) :
    accesses t (before ++ .fail e :: after) = .error ⟨seen, .error e⟩ := by
  induction before generalizing t seen with
  | nil =>
    cases h
    rfl
  | cons x before ih =>
    simp only [List.cons_append, accesses] at h ⊢
    split at h
    · cases h
    · next r t₁ hr =>
      split at h
      · cases h
      · next rs t₂ hrs =>
        cases h
        simp only [ih hrs]

end Storage

end AccountReplica
