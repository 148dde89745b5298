import AccountReplica.Proofs.Replay.News
import AccountReplica.Proofs.Replay.Verdicts
import AccountReplica.Proofs.Storage.Known

/-! A message is told once, by the replay that stores it for the first time, whatever is pushed, fetched, repeated or
refused. -/

namespace AccountReplica

def Update.deletes : Update → List MessageId
  | deleteMessages ids _ _ => ids
  | _ => []

namespace Account

def holds (a : Account) (id : MessageId) : Bool :=
  a.messages.contains id

lemma contains_eraseAll {ids : List MessageId} {id : MessageId} (h : id ∉ ids)
    (m : Std.ExtTreeMap MessageId Message) : (ids.foldl (·.erase ·) m).contains id = m.contains id := by
  induction ids generalizing m with
  | nil => rfl
  | cons i ids ih =>
    obtain ⟨hi, h⟩ := not_or.mp (List.mem_cons.not.mp h)
    rw [List.foldl_cons, ih h, Std.ExtTreeMap.contains_erase]
    simp [Ne.symm hi]

lemma holds_apply {u : Update} {id : MessageId} (h : id ∉ u.deletes) (a : Account) :
    (a.apply u).holds id = (a.holds id || u.message?.any (·.id = id)) := by
  cases u with
  | newMessage m | newSecretMessage m =>
    have hi : (a.messages.insert m.id m).contains id = (decide (m.id = id) || a.messages.contains id) := by
      rw [Std.ExtTreeMap.contains_insert, Bool.eq_iff_iff]
      simp [Std.LawfulEqCmp.compare_eq_iff_eq]
    exact hi.trans (Bool.or_comm _ _)
  | deleteMessages ids => exact (contains_eraseAll h a.messages).trans (Bool.or_false _).symm
  | _ => exact (Bool.or_false _).symm

end Account

section

variable {id : MessageId}

/-- How often the message is told while the messages `ms` are stored: the first of them under its number is told if it
is incoming, unless one was known before. -/
def tellings (id : MessageId) (known : Bool) (ms : List Message) : Nat :=
  (!known && (ms.find? (·.id = id)).any (·.incoming)).toNat

lemma tellings_append (known : Bool) (ms ns : List Message) :
    tellings id known (ms ++ ns) = tellings id known ms + tellings id (known || ms.any (·.id = id)) ns := by
  rw [← List.isSome_find?]
  cases known with
  | true => rfl
  | false =>
    simp only [tellings, Bool.false_or, List.find?_append]
    cases ms.find? (·.id = id) <;> simp

lemma tellings_eq_one_iff {known : Bool} {ms : List Message} :
    tellings id known ms = 1 ↔ known = false ∧ ∃ m, ms.find? (·.id = id) = some m ∧ m.incoming := by
  simp [tellings, Option.any_eq_true]

lemma added_news (a : Account) (u : Update) :
    (a.news u).added = (u.message?.toList.filter a.awaits).map (·.id) := by
  have hm (m : Message) (hu : u.message? = some m) :
      (a.news u).added = (u.message?.toList.filter a.awaits).map (·.id) := by
    simp only [Account.news, hu, Option.toList_some]
    by_cases ha : a.awaits m
    · simp only [if_pos ha, List.filter_cons_of_pos ha, EventSet.addMessage]
      split <;> rfl
    · rw [if_neg ha, List.filter_cons_of_neg ha]
      rfl
  cases u with
  | newMessage m | newSecretMessage m => exact hm m rfl
  | _ => rfl

lemma count_news (a : Account) (u : Update) :
    (a.news u).added.count id = tellings id (a.holds id) u.message?.toList := by
  rw [added_news]
  cases u.message? with
  | none => simp [tellings]
  | some m =>
    have ha : a.awaits m = (!a.holds m.id && m.incoming) := rfl
    by_cases hi : m.id = id
    · subst hi
      cases hk : a.holds m.id <;> cases hn : m.incoming <;> simp [tellings, ha, hk, hn]
    · simp [tellings, List.filter_cons, hi, apply_ite]

def stored (us : List Update) : List Message :=
  us.filterMap Update.message?

lemma stored_append (us vs : List Update) : stored (us ++ vs) = stored us ++ stored vs :=
  List.filterMap_append

lemma holds_applyAll {us : List Update} (h : ∀ u ∈ us, id ∉ u.deletes) (a : Account) :
    (a.applyAll us).holds id = (a.holds id || (stored us).any (·.id = id)) := by
  induction us generalizing a with
  | nil => exact (Bool.or_false _).symm
  | cons u us ih =>
    obtain ⟨hu, h⟩ := List.forall_mem_cons.mp h
    refine (ih h (a.apply u)).trans ?_
    rw [Account.holds_apply hu, Bool.or_assoc]
    cases hm : u.message? <;> simp [stored, hm]

lemma count_newsAll {us : List Update} (h : ∀ u ∈ us, id ∉ u.deletes) (a : Account) :
    (a.newsAll us).added.count id = tellings id (a.holds id) (stored us) := by
  induction us generalizing a with
  | nil => simp [Account.newsAll, EventSet.empty, stored, tellings]
  | cons u us ih =>
    obtain ⟨hu, h⟩ := List.forall_mem_cons.mp h
    have hs : stored (u :: us) = u.message?.toList ++ stored us := by
      cases hm : u.message? <;> simp [stored, hm]
    have hk : u.message?.any (·.id = id) = u.message?.toList.any (·.id = id) := by
      cases u.message? <;> simp
    rw [hs, tellings_append, ← hk, ← Account.holds_apply hu, ← ih h, ← count_news]
    exact List.count_append

end

namespace EventSet

def unnumbered (e : EventSet) : EventSet :=
  { e with maxQts := none }

lemma unnumbered_merge (a : Account) (e : EventSet) (us : List Update) :
    (e.merge (a.newsAll us)).unnumbered = e.unnumbered.merge (a.newsAll us) := by
  simp [unnumbered, merge, a.maxQts_newsAll, largest]

end EventSet

section

variable {γ : Type} {t : Track γ} {p q : Progress}

lemma added_of_updates {us : List Update} (h : p.updates us = .ok q) :
    q.events.added = p.events.added ++ (p.txn.account.newsAll us).added := by
  rw [Progress.events_of_updates h]
  rfl

lemma Track.events_of_applyGroups (ht : ∀ g e, (t.tell g e).unnumbered = e.unnumbered) {gs : List γ}
    (h : t.applyGroups p gs = .ok q) :
    q.events.unnumbered = p.events.unnumbered.merge (p.txn.account.newsAll (gs.flatMap t.updates)) := by
  induction gs generalizing p with
  | nil =>
    cases h
    exact (EventSet.merge_empty _).symm
  | cons g gs ih =>
    obtain ⟨p', hp, h⟩ := bind_ok h
    obtain ⟨p₁, hu, hp⟩ := bind_ok hp
    cases hp
    rw [ih h, List.flatMap_cons, Account.newsAll_append, ht, Progress.events_of_updates hu,
      EventSet.unnumbered_merge, Progress.account_of_updates hu, EventSet.merge_assoc]

lemma DatedGroup.events_of_applyAll {gs : List DatedGroup} {sp sp' : SequenceState × Progress}
    (h : gs.foldlM apply sp = .ok sp') :
    sp'.2.events.unnumbered = sp.2.events.unnumbered.merge (sp.2.txn.account.newsAll (gs.flatMap (·.updates))) := by
  induction gs generalizing sp with
  | nil =>
    cases h
    exact (EventSet.merge_empty _).symm
  | cons g gs ih =>
    obtain ⟨sp₁, hp, h⟩ := bind_ok h
    obtain ⟨p₁, hu, hp⟩ := bind_ok hp
    cases hp
    rw [ih h, List.flatMap_cons, Account.newsAll_append, Progress.events_of_updates hu,
      EventSet.unnumbered_merge, Progress.account_of_updates hu, EventSet.merge_assoc]

lemma account_of_groups {gs : List γ} (h : t.applyGroups p gs = .ok q) :
    q.txn.account = p.txn.account.applyAll (gs.flatMap t.updates) :=
  (Track.account_of_applyGroups h).trans List.foldl_flatMap.symm

end

lemma Progress.events_of_setState {p q : Progress} {e s : SequenceState} (h : p.setState e s = .ok q) :
    q.events = p.events := by
  simp only [setState] at h
  split at h
  · cases h
    rfl
  · obtain ⟨t, -, hq⟩ := bind_ok h
    cases hq
    rfl

def GroupReplay.taken (r : GroupReplay) : List Update :=
  r.applied.flatMap UpdateGroup.updates

variable {s : SequenceState} {t t' : Transaction}

lemma Batch.events_of_replay {b : Batch} {r : GroupReplay} (h : b.replay s t = .ok (r, t')) :
    r.events.unnumbered = t.account.newsAll r.taken := by
  obtain ⟨-, pc, ps, pn, p, q, sn, hc, hs, hn, hd, hq, he, -⟩ := steps_of_replay h
  simp only [GroupReplay.taken, GroupReplay.applied, List.flatMap_append, List.flatMap_map, Account.newsAll_append,
    Account.applyAll_append]
  rw [← he, Progress.events_of_setState hq, DatedGroup.events_of_applyAll hd,
    Track.events_of_applyGroups (fun _ _ => rfl) hn, Track.events_of_applyGroups (fun _ _ => rfl) hs,
    Track.events_of_applyGroups (fun _ _ => rfl) hc, account_of_groups hn, account_of_groups hs,
    account_of_groups hc]
  exact congrArg (fun e => ((EventSet.merge e _).merge _).merge _) (EventSet.empty_merge _)

structure Stored where
  updates : List Update
  added : List MessageId

structure Stored.Of (x : Stored) (a b : Account) : Prop where
  messages : b.messages = (a.applyAll x.updates).messages
  added : x.added = (a.newsAll x.updates).added

def GroupReplay.stored (r : GroupReplay) : Stored :=
  ⟨r.taken, r.events.added⟩

def DifferenceReplay.stored (d : Difference) : DifferenceReplay → Stored
  | mismatch _ => ⟨[], []⟩
  | applied _ events _ => ⟨d.content, events.added⟩

lemma stored_of_replayGroups {gs : List UpdateGroup} {r : GroupReplay} (h : replayGroups s gs t = .ok (r, t')) :
    r.stored.Of t.account t'.account := by
  obtain ⟨hs, h⟩ := replay_of_replayGroups h
  have ht : r.applied.foldl Account.take t.account = t.account.applyAll r.taken := List.foldl_flatMap.symm
  refine ⟨?_, (congrArg EventSet.added (Batch.events_of_replay h) :)⟩
  rw [(Batch.judges_of_replay h hs).2, ht]
  rfl

lemma stored_of_replayDifference {d : Difference} {r : DifferenceReplay}
    (h : replayDifference s d t = .ok (r, t')) : (r.stored d).Of t.account t'.account := by
  simp only [replayDifference] at h
  split at h
  · next hs =>
    obtain ⟨s', -, h⟩ := bind_ok h
    obtain ⟨p, hp, h⟩ := bind_ok h
    obtain ⟨q, hq, h⟩ := bind_ok h
    cases h
    rw [Progress.difference_eq] at hp
    have ha : p.txn.account = t.account.applyAll d.content := Progress.account_of_updates hp
    have hstate : p.txn.account.state = some s := by rw [ha, Account.state_applyAll]; exact hs
    refine ⟨?_, ?_⟩
    · rw [Progress.account_of_setState hq hstate, ha]
      rfl
    · have htell : (q.events.tellQts s s').added = q.events.added := by
        simp only [EventSet.tellQts]
        split <;> rfl
      have he := added_of_updates hp
      rw [← Progress.events_of_setState hq] at he
      exact htell.trans he
  · cases h
    exact ⟨rfl, rfl⟩

structure Trial where
  expected : SequenceState
  load : List UpdateGroup ⊕ Difference
  refused : Nat
  refusal : Option Refusal

namespace Storage

def tried (s : Storage) (x : Trial) : Option Stored × Storage :=
  match x.load with
  | .inl gs =>
    let (r, s) := (s.failNext x.refused).transaction fun t =>
      replayGroups x.expected gs { t with refusal := x.refusal }
    (r.toOption.map GroupReplay.stored, s)
  | .inr d =>
    let (r, s) := (s.failNext x.refused).transaction fun t =>
      replayDifference x.expected d { t with refusal := x.refusal }
    (r.toOption.map (·.stored d), s)

def committed (s : Storage) : List Trial → List Stored
  | [] => []
  | x :: xs => (s.tried x).1.toList ++ (s.tried x).2.committed xs

lemma tried_cases (s : Storage) (x : Trial) :
    ((s.tried x).1 = none ∧ (s.tried x).2.account = s.account) ∨
      ∃ y, (s.tried x).1 = some y ∧ y.Of s.account (s.tried x).2.account := by
  simp only [tried]
  split
  · next gs _ =>
    rcases transaction_cases (fun t => replayGroups x.expected gs { t with refusal := x.refusal })
        (s.failNext x.refused) with ⟨e, hr, ha⟩ | ⟨r, t, h, hr, ha⟩
    · exact Or.inl ⟨by rw [hr]; rfl, ha⟩
    · exact Or.inr ⟨r.stored, by rw [hr]; rfl, by rw [ha]; exact stored_of_replayGroups h⟩
  · next d _ =>
    rcases transaction_cases (fun t => replayDifference x.expected d { t with refusal := x.refusal })
        (s.failNext x.refused) with ⟨e, hr, ha⟩ | ⟨r, t, h, hr, ha⟩
    · exact Or.inl ⟨by rw [hr]; rfl, ha⟩
    · exact Or.inr ⟨r.stored d, by rw [hr]; rfl, by rw [ha]; exact stored_of_replayDifference h⟩

variable {id : MessageId}

lemma count_committed {s : Storage} {xs : List Trial}
    (h : ∀ u ∈ (s.committed xs).flatMap (·.updates), id ∉ u.deletes) :
    ((s.committed xs).flatMap (·.added)).count id =
      tellings id (s.account.holds id) (stored ((s.committed xs).flatMap (·.updates))) := by
  induction xs generalizing s with
  | nil => simp [committed, stored, tellings]
  | cons x xs ih =>
    simp only [committed] at h ⊢
    rcases tried_cases s x with ⟨hn, ha⟩ | ⟨y, hy, hs⟩
    · rw [hn] at h ⊢
      rw [← ha]
      exact ih h
    · rw [hy] at h ⊢
      simp only [Option.toList_some, List.cons_append, List.nil_append, List.flatMap_cons,
        List.forall_mem_append] at h ⊢
      have hk : (s.tried x).2.account.holds id = (s.account.holds id || (stored y.updates).any (·.id = id)) := by
        rw [Account.holds, hs.messages]
        exact holds_applyAll h.1 s.account
      rw [List.count_append, hs.added, count_newsAll h.1, ih h.2, hk, stored_append, tellings_append]

/-- Whatever is pushed, fetched, repeated or refused, a message that is not deleted is told once: by the replay that
stores it for the first time, and only if it was incoming then. -/
theorem told_once (s : Storage) (xs : List Trial) (id : MessageId)
    (h : ∀ u ∈ (s.committed xs).flatMap (·.updates), id ∉ u.deletes) :
    ((s.committed xs).flatMap (·.added)).count id ≤ 1 ∧
      (((s.committed xs).flatMap (·.added)).count id = 1 ↔ s.account.message? id = none ∧
        ∃ m, (stored ((s.committed xs).flatMap (·.updates))).find? (·.id = id) = some m ∧ m.incoming) := by
  have hk : s.account.message? id = none ↔ s.account.holds id = false := by
    simp [Account.message?, Account.holds, ← Bool.not_eq_true]
  rw [count_committed h, tellings_eq_one_iff, hk]
  exact ⟨Bool.toNat_le _, Iff.rfl⟩

def sampleHello : Message :=
  .received ⟨⟨1⟩, 7⟩ ⟨2⟩ 60 "hello"

def sampleSent : Message :=
  .sent ⟨⟨1⟩, 8⟩ 61 "hi"

def sampleTrials : List Trial :=
  [⟨⟨10, 0, 60, 1⟩, .inl [.common ⟨[.newMessage sampleHello 11 1], 11, 1⟩], 1, none⟩,
    ⟨⟨10, 0, 60, 1⟩, .inl [.common ⟨[.newMessage sampleHello 11 1], 11, 1⟩], 0, some ⟨.setState, 1⟩⟩,
    ⟨⟨10, 0, 60, 1⟩, .inr (.slice [sampleHello, sampleSent] [.newSecretMessage sampleHello 1] ⟨11, 1, 61, 1⟩), 0, none⟩,
    ⟨⟨11, 1, 61, 1⟩, .inl [.common ⟨[.newMessage { sampleSent with incoming := true } 13 1], 13, 1⟩,
      .common ⟨[.newMessage sampleHello 12 1], 12, 1⟩, .dated ⟨[.deleteMessages [⟨⟨1⟩, 5⟩] 0 0], 62⟩], 0, none⟩]

theorem told_of_sampleTrials :
    let ys := (empty.setState ⟨10, 0, 60, 1⟩).committed sampleTrials
    (∀ u ∈ ys.flatMap (·.updates), sampleHello.id ∉ u.deletes) ∧
      (ys.flatMap (·.added)).count sampleHello.id ≤ 1 ∧
        ((ys.flatMap (·.added)).count sampleHello.id = 1 ↔
          (empty.setState ⟨10, 0, 60, 1⟩).account.message? sampleHello.id = none ∧
            ∃ m, (stored (ys.flatMap (·.updates))).find? (·.id = sampleHello.id) = some m ∧ m.incoming) := by
  have h : ∀ u ∈ ((empty.setState ⟨10, 0, 60, 1⟩).committed sampleTrials).flatMap (·.updates),
      sampleHello.id ∉ u.deletes := by
    decide
  exact ⟨h, told_once _ sampleTrials sampleHello.id h⟩

example : ((empty.setState ⟨10, 0, 60, 1⟩).committed sampleTrials).flatMap (·.added) = [sampleHello.id] := by
  decide

end Storage

end AccountReplica
