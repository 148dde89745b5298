import AccountReplica.Proofs.Replay.Verdicts
import AccountReplica.Proofs.Storage.ServerLog
import Mathlib.Data.List.Nodup

/-! The events of the common box that come as pushes and the same events fetched as a difference leave the same
account and tell the same. -/

namespace AccountReplica

namespace StableSort

lemma sort_eq_of_perm {α : Type} {key : α → Int} {xs ys : List α} (hp : xs.Perm ys)
    (hs : ys.Pairwise fun a b => key a < key b) : sort key xs = ys := by
  have hperm : (sort key xs).Perm ys := (sort_perm key xs).trans hp
  have hkeys : (ys.map key).Nodup := List.pairwise_map.mpr (hs.imp fun h => Int.ne_of_lt h)
  refine hperm.eq_of_pairwise (fun a b ha hb hab hba => ?_) (sorted_sort key xs) (hs.imp fun h => Int.le_of_lt h)
  exact List.inj_on_of_nodup_map hkeys (hperm.mem_iff.mp ha) hb (Int.le_antisymm hab hba)

end StableSort

namespace Update

def group? (u : Update) : Option CommonGroup :=
  match u.sequencing with
  | .common pts count => some ⟨[u], pts, count⟩
  | _ => none

def newMessage? : Update → Option Message
  | newMessage m _ _ => some m
  | _ => none

end Update

section

variable {p : Int32} {us : List Update}

lemma group?_of_sequencing {u : Update} {pts count : Int32} (h : u.sequencing = .common pts count) :
    u.group? = some ⟨[u], pts, count⟩ := by
  simp only [Update.group?, h]

lemma groups_short {u : Update} {pts count : Int32} (h : u.sequencing = .common pts count) (date : Int32) :
    (Container.short u date).groups = [.common ⟨[u], pts, count⟩] := by
  have hn : [u].filter (·.sequencing = .unsequenced) = [] := by simp [h]
  simp only [Container.groups, Container.split, hn]
  simp [UpdateGroup.ofStamped?, h, Container.restGroups]

lemma groups_of_chained {us : List (Update × Int32)} (h : Chained p (us.map (·.1))) :
    us.flatMap (fun u => (Container.short u.1 u.2).groups) =
      ((us.map (·.1)).filterMap Update.group?).map .common := by
  induction us generalizing p with
  | nil => rfl
  | cons u us ih =>
    obtain ⟨pts, count, hu, -, -, h⟩ := h
    rw [List.flatMap_cons, groups_short hu, ih h, List.map_cons,
      List.filterMap_cons_some (group?_of_sequencing hu)]
    rfl

lemma start_of_chained (h : Chained p us) {g : CommonGroup} (hg : g ∈ us.filterMap Update.group?) :
    p.toInt ≤ g.start ∧ Counter.Fits g.start := by
  induction us generalizing p with
  | nil => cases hg
  | cons u us ih =>
    obtain ⟨pts, count, hu, hc, hs, h⟩ := h
    rw [List.filterMap_cons_some (group?_of_sequencing hu)] at hg
    rcases List.mem_cons.mp hg with rfl | hg
    · have he : CommonGroup.start ⟨[u], pts, count⟩ = p.toInt := hs
      rw [he]
      exact ⟨Int.le_refl _, Counter.fits_toInt p⟩
    · obtain ⟨hle, hf⟩ := ih h hg
      have hc' : 1 ≤ count.toInt := Int32.le_iff_toInt_le.mp hc
      exact ⟨by omega, hf⟩

lemma ascending_of_chained (h : Chained p us) :
    (us.filterMap Update.group?).Pairwise fun g g' => g.start < g'.start := by
  induction us generalizing p with
  | nil => exact .nil
  | cons u us ih =>
    obtain ⟨pts, count, hu, hc, hs, h⟩ := h
    rw [List.filterMap_cons_some (group?_of_sequencing hu)]
    refine .cons (fun g hg => ?_) (ih h)
    have hle := (start_of_chained h hg).1
    have hc' : 1 ≤ count.toInt := Int32.le_iff_toInt_le.mp hc
    have he : CommonGroup.start ⟨[u], pts, count⟩ = p.toInt := hs
    omega

lemma judges_of_chained {s : SequenceState} (h : Chained s.pts us) :
    Track.common.Judges s (us.filterMap Update.group?) ⟨us.filterMap Update.group?, [], []⟩ ∧
      (us.filterMap Update.group?).foldl Track.common.advance s = { s with pts := ptsAfter s.pts us } := by
  induction us generalizing s with
  | nil => exact ⟨.done s, rfl⟩
  | cons u us ih =>
    obtain ⟨pts, count, hu, hc, hs, h⟩ := h
    rw [List.filterMap_cons_some (group?_of_sequencing hu)]
    have hcont : Track.common.continues s ⟨[u], pts, count⟩ = .ok true :=
      congrArg Except.ok (decide_eq_true hs)
    obtain ⟨hj, he⟩ := ih (s := { s with pts }) h
    refine ⟨.apply hcont hj, ?_⟩
    have hp : ptsAfter s.pts (u :: us) = ptsAfter pts us := by
      simp only [ptsAfter, List.foldl_cons, Update.endsAt, hu]
    rw [hp]
    exact he

lemma applyGroups_of_chained (h : Chained p us) (q : Progress) :
    Track.common.applyGroups q (us.filterMap Update.group?) = q.updates us := by
  induction us generalizing p q with
  | nil => rfl
  | cons u us ih =>
    obtain ⟨pts, count, hu, -, -, h⟩ := h
    rw [List.filterMap_cons_some (group?_of_sequencing hu)]
    have hg : Track.common.applyGroup ⟨[u], pts, count⟩ q = q.update u := by
      have hu : q.updates [u] = q.update u := bind_pure (q.update u)
      exact (congrArg (· >>= pure) hu).trans (bind_pure (q.update u))
    simp only [Track.applyGroups, Progress.updates, List.foldlM_cons, hg]
    exact congrArg _ (funext fun q' => ih h q')

lemma ofGroups_of_chained {gs : List UpdateGroup} (h : Chained p us)
    (hp : gs.Perm ((us.filterMap Update.group?).map .common)) :
    Batch.ofGroups gs = ⟨us.filterMap Update.group?, [], [], [], false⟩ := by
  have hc : (gs.filterMap UpdateGroup.common?).Perm (us.filterMap Update.group?) := by
    have := hp.filterMap UpdateGroup.common?
    rwa [List.filterMap_map, show UpdateGroup.common? ∘ UpdateGroup.common = some from rfl,
      List.filterMap_some] at this
  have hn {α : Type} (f : UpdateGroup → Option α) (hf : ∀ g, f (.common g) = none) : gs.filterMap f = [] := by
    refine List.filterMap_eq_nil_iff.mpr fun x hx => ?_
    obtain ⟨g, -, rfl⟩ := List.mem_map.mp (hp.mem_iff.mp hx)
    exact hf g
  have ht : gs.contains .tooLong = false := by
    simp only [List.contains_eq_mem, decide_eq_false_iff_not, hp.mem_iff, List.mem_map, not_exists]
    rintro g ⟨-, hg⟩
    cases hg
  simp only [Batch.ofGroups, StableSort.sort_eq_of_perm hc (ascending_of_chained h), ht,
    hn UpdateGroup.secret? fun _ => rfl, hn UpdateGroup.numbered? fun _ => rfl, hn UpdateGroup.dated? fun _ => rfl]
  rfl

lemma messages_eq_updates {ms : List Message} (h : us.map Update.newMessage? = ms.map some) (q : Progress) :
    q.messages ms = q.updates us := by
  induction us generalizing q ms with
  | nil =>
    cases ms with
    | nil => rfl
    | cons m ms => cases h
  | cons u us ih =>
    cases ms with
    | nil => cases h
    | cons m ms =>
      obtain ⟨hu, h⟩ := List.cons.inj h
      have hm : q.storeMessage m = q.update u := by
        cases u <;> cases hu
        rfl
      simp only [Progress.messages, Progress.updates, List.foldlM_cons, hm]
      exact congrArg _ (funext fun q' => ih h q')

variable {a : Account} {s s' : SequenceState} {q r : Progress} {gs : List UpdateGroup}

lemma replayGroups_of_chained (ha : a.state = some s) (hc : Chained s.pts us)
    (hp : gs.Perm ((us.filterMap Update.group?).map .common))
    (hu : Progress.updates ⟨.start a, .empty⟩ us = .ok q)
    (hr : q.setState s { s with pts := ptsAfter s.pts us } = .ok r) :
    replayGroups s gs (.start a) =
      .ok (⟨r.events, false, ⟨us.filterMap Update.group?, [], []⟩, ⟨[], [], []⟩, ⟨[], [], []⟩, []⟩, r.txn) := by
  have hs : (Transaction.start a).state = some s := ha
  have hf : ∀ g ∈ us.filterMap Update.group?, decide (Counter.Fits g.start) = true := fun g hg =>
    decide_eq_true (start_of_chained hc hg).2
  obtain ⟨hj, he⟩ := judges_of_chained hc
  have hg := (applyGroups_of_chained hc ⟨.start a, .empty⟩).trans hu
  have hw := Track.walk_of_judges hj hg
  rw [he] at hw
  simp only [replayGroups]
  rw [if_pos hs, ofGroups_of_chained hc hp]
  simp only [Batch.replay]
  rw [if_pos (List.all_eq_true.mpr hf)]
  exact bind_of_ok hw <| bind_of_ok rfl <| bind_of_ok rfl <| bind_of_ok rfl <| bind_of_ok hr rfl

lemma replayDifference_of_progress {d : Difference} (ha : a.state = some s) (ht : d.target s = .ok s')
    (hqts : s'.qts = s.qts) (hd : Progress.difference ⟨.start a, .empty⟩ d = .ok q) (hr : q.setState s s' = .ok r) :
    replayDifference s d (.start a) = .ok (.applied s' r.events d.hasMore, r.txn) := by
  have hs : (Transaction.start a).state = some s := ha
  have he : r.events.tellQts s s' = r.events := if_pos hqts
  simp only [replayDifference]
  rw [if_pos hs, ht]
  refine bind_of_ok rfl <| bind_of_ok hd <| bind_of_ok hr ?_
  rw [he]
  rfl

end

/-- Events of the common box that follow each other leave the same account and tell the same whether they are pushed one
by one, in any order, or fetched; and so do new messages that a difference brings by themselves. -/
theorem replay_agrees {a : Account} {s : SequenceState} {us : List (Update × Int32)} {gs : List UpdateGroup}
    (ha : a.state = some s) (hc : Chained s.pts (us.map (·.1)))
    (hp : gs.Perm (us.flatMap fun u => (Container.short u.1 u.2).groups)) :
    ∃ s' r t, s' = { s with pts := ptsAfter s.pts (us.map (·.1)) } ∧
      replayGroups s gs (.start a) = .ok (r, t) ∧ r.remaining = [] ∧ r.shouldPoll = false ∧ t.state = some s' ∧
      replayDifference s (.full [] (us.map (·.1)) s') (.start a) = .ok (.applied s' r.events false, t) ∧
      ∀ ms : List Message, us.map (·.1.newMessage?) = ms.map some →
        replayDifference s (.full ms [] s') (.start a) = .ok (.applied s' r.events false, t) := by
  rw [groups_of_chained hc] at hp
  obtain ⟨q, hu, hfree⟩ := Progress.updates_free (p := ⟨.start a, .empty⟩) rfl (us.map (·.1))
  obtain ⟨r, hr⟩ := Progress.setState_free hfree s { s with pts := ptsAfter s.pts (us.map (·.1)) }
  have hq : q.txn.account.state = some s := by
    rw [Progress.account_of_updates hu, Account.state_applyAll]
    exact ha
  refine ⟨_, _, r.txn, rfl, replayGroups_of_chained ha hc hp hu hr, rfl, rfl, ?_, ?_, fun ms hms => ?_⟩
  · rw [Transaction.state, Progress.account_of_setState hr hq]
  · exact replayDifference_of_progress ha rfl rfl hu hr
  · have hm : (us.map (·.1)).map Update.newMessage? = ms.map some := by rwa [List.map_map]
    have hd : Progress.messages ⟨.start a, .empty⟩ ms = .ok q := (messages_eq_updates hm _).trans hu
    exact replayDifference_of_progress ha rfl rfl (bind_of_ok hd rfl) hr

def sampleMessages : List Message :=
  [.received ⟨⟨1⟩, 7⟩ ⟨2⟩ 60 "hello", .received ⟨⟨1⟩, 8⟩ ⟨2⟩ 61 "again"]

def sampleEvents : List (Update × Int32) :=
  sampleMessages.zipWith (fun m u => (u m, 61)) [(.newMessage · 11 1), (.newMessage · 13 2)]

theorem replay_agrees_of_sampleEvents :
    let t₀ := Transaction.start (Account.empty.write (.setState ⟨10, 0, 60, 1⟩))
    ∃ r t, replayGroups ⟨10, 0, 60, 1⟩ (sampleEvents.flatMap fun u => (Container.short u.1 u.2).groups).reverse t₀ =
        .ok (r, t) ∧
      r.remaining = [] ∧ r.shouldPoll = false ∧ t.state = some ⟨13, 0, 60, 1⟩ ∧
      replayDifference ⟨10, 0, 60, 1⟩ (.full [] (sampleEvents.map (·.1)) ⟨13, 0, 60, 1⟩) t₀ =
        .ok (.applied ⟨13, 0, 60, 1⟩ r.events false, t) ∧
      replayDifference ⟨10, 0, 60, 1⟩ (.full sampleMessages [] ⟨13, 0, 60, 1⟩) t₀ =
        .ok (.applied ⟨13, 0, 60, 1⟩ r.events false, t) := by
  have hc : Chained 10 (sampleEvents.map (·.1)) :=
    ⟨11, 1, rfl, by decide, by decide, 13, 2, rfl, by decide, by decide, trivial⟩
  obtain ⟨s', r, t, rfl, hg, hr, hp, hs, hd, hm⟩ :=
    replay_agrees (a := Account.empty.write (.setState ⟨10, 0, 60, 1⟩)) (s := ⟨10, 0, 60, 1⟩) rfl hc
      (List.reverse_perm _)
  exact ⟨r, t, hg, hr, hp, hs, hd, hm sampleMessages rfl⟩

end AccountReplica
