import AccountReplica.Proofs.Replay.Merging
import AccountReplica.Proofs.Replay.Content

/-! What a replay tells of its updates: it depends on the account that each of them finds, and is merged in their
order into what was told before. -/

namespace AccountReplica

def Update.message? : Update → Option Message
  | newMessage m _ _ | newSecretMessage m _ => some m
  | _ => none

namespace Account

def awaits (a : Account) (m : Message) : Bool :=
  !a.messages.contains m.id && m.incoming

def news (a : Account) (u : Update) : EventSet :=
  match u.message? with
  | some m => if a.awaits m then EventSet.empty.addMessage m else .empty
  | none => EventSet.empty.addUpdate u

def newsAll (a : Account) : List Update → EventSet
  | [] => .empty
  | u :: us => (a.news u).merge ((a.apply u).newsAll us)

lemma newsAll_append (a : Account) (us vs : List Update) :
    a.newsAll (us ++ vs) = (a.newsAll us).merge ((a.applyAll us).newsAll vs) := by
  induction us generalizing a with
  | nil => exact (EventSet.empty_merge _).symm
  | cons u us ih =>
    simp only [List.cons_append, newsAll, ih, EventSet.merge_assoc]
    rfl

lemma maxQts_news (a : Account) (u : Update) : (a.news u).maxQts = none := by
  cases u with
  | newMessage m | newSecretMessage m =>
    simp only [news, Update.message?]
    split
    · simp only [EventSet.addMessage]
      split <;> rfl
    · rfl
  | _ => rfl

lemma maxQts_newsAll (a : Account) (us : List Update) : (a.newsAll us).maxQts = none := by
  induction us generalizing a with
  | nil => rfl
  | cons u us ih => simp only [newsAll, EventSet.merge, maxQts_news, ih, largest]

lemma apply_setState (a : Account) (s : Option SequenceState) (u : Update) :
    ({ a with state := s } : Account).apply u = { a.apply u with state := s } := by
  cases u <;> rfl

lemma applyAll_setState (a : Account) (s : Option SequenceState) (us : List Update) :
    ({ a with state := s } : Account).applyAll us = { a.applyAll us with state := s } := by
  induction us generalizing a with
  | nil => rfl
  | cons u us ih =>
    simp only [applyAll, List.foldl_cons, apply_setState] at ih ⊢
    exact ih _

lemma newsAll_setState (a : Account) (s : Option SequenceState) (us : List Update) :
    ({ a with state := s } : Account).newsAll us = a.newsAll us := by
  induction us generalizing a with
  | nil => rfl
  | cons u us ih =>
    simp only [newsAll, apply_setState, ih]
    rfl

end Account

def Difference.content (d : Difference) : List Update :=
  d.messages.map (.newMessage · 0 0) ++ d.updates

namespace Progress

variable {p q : Progress}

lemma events_of_storeMessage {m : Message} (h : p.storeMessage m = .ok q) :
    q.events = if p.txn.account.awaits m then p.events.addMessage m else p.events := by
  obtain ⟨⟨isNew, t⟩, ht, hq⟩ := bind_ok h
  obtain ⟨t', -, he⟩ := map_ok ht
  cases he
  cases hq
  rfl

lemma events_of_update {u : Update} (h : p.update u = .ok q) :
    q.events = p.events.merge (p.txn.account.news u) := by
  cases u with
  | newMessage m | newSecretMessage m =>
    have he := events_of_storeMessage (q := q) h
    simp only [Account.news, Update.message?]
    split
    · next ha => rw [he, if_pos ha, EventSet.addMessage_eq]
    · next ha => rw [he, if_neg ha, EventSet.merge_empty]
  | _ =>
    obtain ⟨t, -, hq⟩ := bind_ok h
    cases hq
    simp only [Account.news, Update.message?]
    exact p.events.addUpdate_eq _

theorem events_of_updates {us : List Update} (h : p.updates us = .ok q) :
    q.events = p.events.merge (p.txn.account.newsAll us) := by
  induction us generalizing p with
  | nil =>
    cases h
    exact (EventSet.merge_empty _).symm
  | cons u us ih =>
    obtain ⟨p', hu, h⟩ := bind_ok h
    rw [ih h, events_of_update hu, account_of_update hu, EventSet.merge_assoc]
    rfl

lemma updates_append (us vs : List Update) : p.updates (us ++ vs) = p.updates us >>= (·.updates vs) :=
  List.foldlM_append

lemma difference_eq (p : Progress) (d : Difference) : p.difference d = p.updates d.content := by
  rw [Difference.content, updates_append]
  simp only [updates, List.foldlM_map]
  rfl

end Progress

end AccountReplica
