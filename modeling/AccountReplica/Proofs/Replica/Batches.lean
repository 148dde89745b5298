import AccountReplica.Proofs.Replica.Sound

/-! The messages of a committed batch: what becomes of them in the turn that handles it. -/

namespace AccountReplica

def Report.batch? : Report → Option GroupReplay
  | groupsReplayed result | precomputedReplayed result => result.toOption
  | _ => none

structure Engine.Announces (e : Engine) (i : Input) (ids : List MessageId) : Prop where
  once : ∃ ev, (e.step i).effects.filterMap Effect.dispatched? = [ev] ∧ ev.added = ids
  resolved : ∃ id, .spawn id (.resolveNotifications ids) ∈ (e.step i).effects
  completion : (e.step i).queue.completion? = e.queue.completion?.map fun c => (c.1 ++ ids, c.2)

def Entry.IsCommand : Entry → Prop
  | turn _ (.command _) => True
  | _ => False

namespace Replica

def Awaits (r : Replica) (after : List Entry) (id : OperationId) (g : GroupReplay) : Prop :=
  (∀ x ∈ after, x.IsCommand) ∧ ∃ report, r.underway = [(id, .report report)] ∧ report.batch? = some g

def Handled (after : List Entry) (id : OperationId) (g : GroupReplay) : Prop :=
  ∃ commands e report after', after = commands ++ .turn e (.report id report) :: after' ∧
    (∀ x ∈ commands, x.IsCommand) ∧ report.batch? = some g ∧
    ((g.events.added ≠ [] → e.Announces (.report id report) g.events.added) ↔
      (g.shouldPoll → g.events.added = []))

lemma Handled.append {after : List Entry} {id : OperationId} {g : GroupReplay} (h : Handled after id g)
    (more : List Entry) : Handled (after ++ more) id g := by
  obtain ⟨commands, e, report, after', rfl, hc, hb, hi⟩ := h
  exact ⟨commands, e, report, after' ++ more, by simp, hc, hb, hi⟩

lemma added_of_told {g : GroupReplay} (hp : g.shouldPoll) {ev : EventSet} (hm : ev ∈ g.told) : ev.added = [] := by
  rw [GroupReplay.told, if_pos hp, EventSet.toTell] at hm
  split at hm
  · cases hm
  · obtain rfl := List.mem_singleton.mp hm
    rfl

lemma told_of_added {g : GroupReplay} (hp : g.shouldPoll = false) (hn : g.events.added ≠ []) :
    g.told = [g.events] := by
  have he : g.events.isEmpty = false := by simp [EventSet.isEmpty, hn]
  simp [GroupReplay.told, hp, EventSet.toTell, he]

lemma kind_of_batch? {report : Report} {g : GroupReplay} (h : report.batch? = some g) :
    report.kind = .processGroups ∨ report.kind = .replayPrecomputed := by
  cases report with
  | groupsReplayed result => exact .inl rfl
  | precomputedReplayed result => exact .inr rfl
  | _ => cases h

lemma told_of_batch? {report : Report} {g : GroupReplay} (h : report.batch? = some g) :
    report.told = g.told := by
  cases report with
  | groupsReplayed result | precomputedReplayed result => simp only [Report.told, Report.batch?] at h ⊢; rw [h]; rfl
  | _ => cases h

lemma batch?_of_commit {x : Errand} {c : Circumstances} {s : SharedStorage} {g : GroupReplay} {left : Account}
    (h : (x.proceed c s).commit = some (.batch g left)) :
    ∃ report, (x.proceed c s).errand = .report report ∧ report.batch? = some g := by
  cases x with
  | task t =>
    cases t with
    | replayGroups groups =>
      obtain ⟨g', hg, he⟩ := Option.map_eq_some_iff.mp h
      cases he
      exact ⟨_, rfl, hg⟩
    | replayPrecomputed state =>
      obtain ⟨g', hg, he⟩ := Option.map_eq_some_iff.mp h
      cases he
      exact ⟨_, rfl, hg⟩
    | pollDifference events =>
      simp only [Errand.proceed] at h
      split at h <;> cases h
    | _ => cases h
  | asked events question =>
    cases question with
    | currentState => cases h
    | difference request =>
      obtain ⟨ev, -, he⟩ := Option.map_eq_some_iff.mp h
      cases he
  | _ => cases h

lemma announces_iff {r : Replica} {op : Operation} {rest : List Operation} {report : Report} {ds : List Deed}
    {g : GroupReplay} (h : r.Sound) (hq : r.engine.queue.operations = op :: rest)
    (hk : report.kind = op.content.kind)
    (hl : (r.engine.step (.report op.id report)).Launched report.told report.carried ds)
    (hd : deeds (r.engine.step (.report op.id report)).effects =
      op.content.answers ++ report.told.map .tell ++ ds) (hb : report.batch? = some g) :
    (g.events.added ≠ [] → r.engine.Announces (.report op.id report) g.events.added) ↔
      (g.shouldPoll → g.events.added = []) := by
  have hx := dispatched_of_deeds hl hd
  rw [told_of_batch? hb] at hx hl hd
  constructor
  · intro ha hp
    by_contra hn
    obtain ⟨ev, he, hev⟩ := (ha hn).once
    have hm : ev ∈ g.told := by
      rw [← hx, he]
      exact List.mem_singleton_self ev
    exact hn (hev.symm.trans (added_of_told hp hm))
  · intro hp hn
    have hs : g.shouldPoll = false := by
      by_contra hs
      exact hn (hp (by simpa using hs))
    have ht := told_of_added hs hn
    rw [ht] at hx hl hd
    refine ⟨⟨g.events, hx, rfl⟩, ?_, ?_⟩
    · cases hl with
      | nothing _ hf => exact absurd (hf g.events (List.mem_singleton_self _)) hn
      | head op' rest' c _ _ _ _ hf _ =>
        obtain rfl := hf g.events (List.mem_singleton_self _) hn
        refine ⟨op'.id, mem_effects_of_launch ?_⟩
        rw [hd]
        exact List.mem_append_right _ (List.mem_singleton_self _)
    · have hc : op.content.kind ≠ .pollCompletion := by
        rw [← hk]
        rcases kind_of_batch? hb with h | h <;> rw [h] <;> decide
      rw [Engine.completion_of_report h.settled hq hk, told_of_batch? hb, ht,
        OperationQueue.completion?_behind hq (Content.completion?_eq_none hc)]
      simp

/-- Each committed batch is handled once. The turn that handles it announces the messages that came in
with it, save those of a batch that asked for a difference. -/
theorem handled_of_commit {retryDelay : Nat} {storage : SharedStorage} {moves : List Move}
    {before after : List Entry} {id : OperationId} {g : GroupReplay} {left : Account}
    (h : ((new retryDelay storage).run moves).history = before ++ .commit id (.batch g left) :: after) :
    ((new retryDelay storage).run moves).Awaits after id g ∨ Handled after id g := by
  revert before after id g left
  refine run_induct (motive := fun r => ∀ {before after id g left},
    r.history = before ++ .commit id (.batch g left) :: after → r.Awaits after id g ∨ Handled after id g) ?_ ?_ moves
  · intro before after id g left h
    exact absurd h (by simp [new])
  · intro r r' hs ha ih before after id g left h
    cases ha with
    | still => exact ih h
    | interfered s => exact ih h
    | proceeded op rest x c hq hu hk =>
      cases hc : (x.proceed c r.storage).commit with
      | none =>
        simp only [hc, Option.map_none, Option.toList_none, List.append_nil] at h ⊢
        apply (ih h).imp_left
        rintro ⟨hcs, report, hu', hb⟩
        obtain ⟨rfl, rfl⟩ : op.id = id ∧ x = .report report := by simpa [hu] using hu'
        exact ⟨hcs, report, rfl, hb⟩
      | some what =>
        simp only [hc, Option.map_some, Option.toList_some] at h ⊢
        rcases concat_eq_append_cons h with ⟨rfl, he, -⟩ | ⟨after', rfl, h'⟩
        · cases he
          obtain ⟨report, hr, hb⟩ := batch?_of_commit hc
          exact .inl ⟨List.forall_mem_nil _, report, by rw [hr], hb⟩
        · rcases ih h' with ⟨-, report, hu', -⟩ | hse
          · obtain ⟨rfl, rfl⟩ : op.id = id ∧ x = .report report := by simpa [hu] using hu'
            cases hc
          · exact .inr (hse.append _)
    | commanded op rest x c hq hu ho hd =>
      rcases concat_eq_append_cons h with ⟨-, he, -⟩ | ⟨after', rfl, h'⟩
      · cases he
      · rcases ih h' with ⟨hcs, report, hu', hb⟩ | hse
        · refine .inl ⟨?_, report, hu.symm.trans hu', hb⟩
          exact List.forall_mem_append.mpr ⟨hcs, List.forall_mem_singleton.mpr trivial⟩
        · exact .inr (hse.append _)
    | started c ds hq hu =>
      rcases concat_eq_append_cons h with ⟨-, he, -⟩ | ⟨after', rfl, h'⟩
      · cases he
      · rcases ih h' with ⟨-, report, hu', -⟩ | hse
        · cases hu.symm.trans hu'
        · exact .inr (hse.append _)
    | reported op rest report ds hq hu hk hi hl hd =>
      rcases concat_eq_append_cons h with ⟨-, he, -⟩ | ⟨after', rfl, h'⟩
      · cases he
      · rcases ih h' with ⟨hcs, report', hu', hb⟩ | hse
        · obtain ⟨rfl, rfl⟩ : op.id = id ∧ report = report' := by simpa [hu] using hu'
          exact .inr ⟨after', r.engine, report, [], rfl, hcs, hb, announces_iff hs hq hk hl hd hb⟩
        · exact .inr (hse.append _)

theorem handled_of_push : ∃ a b id g left e i,
    ((new 2 sampleStorage).run (pushing [sampleGroup])).history = [a, b, .commit id (.batch g left), .turn e i] ∧
      (((new 2 sampleStorage).run (pushing [sampleGroup])).Awaits [.turn e i] id g ∨ Handled [.turn e i] id g) := by
  obtain ⟨a, b, id, g, left, e, i, h⟩ : ∃ a b id g left e i,
      ((new 2 sampleStorage).run (pushing [sampleGroup])).history =
      [a, b] ++ .commit id (.batch g left) :: [.turn e i] := ⟨_, _, _, _, _, _, _, rfl⟩
  exact ⟨a, b, id, g, left, e, i, h, handled_of_commit h⟩

theorem unannounced_of_tooLong : ∃ a b id g left e report,
    ((new 2 sampleStorage).run (pushing [sampleGroup, .tooLong])).history =
        [a, b, .commit id (.batch g left), .turn e (.report id report)] ∧
      report.batch? = some g ∧ g.events.added = [sampleMessage.id] ∧
      ¬e.Announces (.report id report) g.events.added := by
  obtain ⟨a, b, id, g, left, e, report, h, hb, ha, hd⟩ : ∃ a b id g left e report,
      ((new 2 sampleStorage).run (pushing [sampleGroup, .tooLong])).history =
          [a, b, .commit id (.batch g left), .turn e (.report id report)] ∧
        report.batch? = some g ∧ g.events.added = [sampleMessage.id] ∧
        (e.step (.report id report)).effects.filterMap Effect.dispatched? = [] :=
    ⟨_, _, _, _, _, _, _, rfl, rfl, rfl, rfl⟩
  refine ⟨a, b, id, g, left, e, report, h, hb, ha, fun hann => ?_⟩
  obtain ⟨ev, he, -⟩ := hann.once
  cases hd.symm.trans he

end Replica

end AccountReplica
