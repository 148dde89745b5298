import AccountReplica.Proofs.Replay.Verdicts
import AccountReplica.Proofs.Replica.Moves
import AccountReplica.Proofs.Replica.Turns

/-! Pushed groups from the push to the end of their replay: they are replayed in order and at most once, and whatever
becomes of them otherwise, a difference is asked for. -/

namespace AccountReplica

namespace Entry

def handed (x : Entry) : List UpdateGroup :=
  AccountReplica.handed x.effects

def pushed : Entry → List UpdateGroup
  | turn _ i => i.pushed
  | commit .. => []

def inReplay (prior : List UpdateGroup) : Entry → List UpdateGroup
  | turn e (.report id (.groupsReplayed result)) => (turn e (.report id (.groupsReplayed result))).handed
  | x => prior ++ x.handed

end Entry

def inReplay (history : List Entry) : List UpdateGroup :=
  history.foldl Entry.inReplay []

namespace Engine

def waiting (e : Engine) : List UpdateGroup :=
  (heldBy e.queue.operations).map (·.1)

/-- No group leaves the engine in the turn, save those that a committed replay has applied or skipped. -/
structure Accounts (e : Engine) (i : Input) (before : List Entry) : Prop where
  moved : handed (e.step i).effects ++ (e.step i).waiting = e.waiting ++ i.pushed ++ i.returned
  replayed : ∀ id result, i = .report id (.groupsReplayed result) → ∃ g left, result = .ok g ∧
    .commit id (.batch g left) ∈ before ∧ g.Leaves (inReplay before) left ∧
      (inReplay before).Perm (g.applied ++ g.skipped ++ i.returned)

def KeepsPoll (e : Engine) (i : Input) (op : Operation) : Prop :=
  (∃ op' ∈ (e.step i).queue.operations, op'.id = op.id ∧ op'.content.kind = .pollDifference ∧
      (op'.running = true → ∃ events, .spawn op.id (.pollDifference events) ∈ (e.step i).effects)) ∨
    e.restarts i = true ∧
      ∃ op' ∈ (e.step i).queue.operations, op'.content.kind = .pollDifference ∧ e.queue.issued < op'.id.val

end Engine

namespace Replica

structure KeepsPushes (start : Replica) (moves : List Move) : Prop where
  order : ((start.run moves).history.flatMap Entry.handed).Sublist ((start.run moves).history.flatMap Entry.pushed)
  inReplay : inReplay (start.run moves).history ≠ [] → ∃ op rest,
    (start.run moves).engine.queue.operations = op :: rest ∧ op.running = true ∧ op.content.kind = .processGroups
  kept : ∀ before e i after, (start.run moves).history = before ++ .turn e i :: after →
    (e.step i).Polls ∨ e.Accounts i before
  stored : ∀ before id what after, (start.run moves).history = before ++ .commit id what :: after →
    ∃ moves₁ n c moves₂, moves = moves₁ ++ .proceed n c :: moves₂ ∧ (start.run moves₁).history = before ∧
      (start.run (moves₁ ++ [.proceed n c])).storage.storage.account = what.left
  polled : ∀ e i, .turn e i ∈ (start.run moves).history → ∀ op ∈ e.queue.operations, op.running = false →
    op.content.kind = .pollDifference → e.KeepsPoll i op

end Replica

namespace Engine

variable {e : Engine} {i : Input} {op : Operation}

lemma id_ne_of_pending {op₀ : Operation} {rest : List Operation} (h : e.Settled)
    (hq : e.queue.operations = op₀ :: rest) (hm : op ∈ e.queue.operations) (hi : op.running = false) :
    op₀.id ≠ op.id := by
  obtain ⟨hr, ho, -⟩ := h.head hq
  rw [hq] at hm
  rcases List.mem_cons.mp hm with rfl | hm
  · cases hr.symm.trans hi
  · intro he
    have hn := ho.nodup
    rw [List.singleton_append, List.map_cons, List.nodup_cons] at hn
    exact hn.1 (he ▸ List.mem_map_of_mem hm)

lemma spawned_of_pending (h : e.Settled) (hd : e.Due i) (hm : op ∈ e.queue.operations)
    (hi : op.running = false) {op' : Operation} (hm' : op' ∈ (e.step i).queue.operations) (hid : op'.id = op.id)
    (hk : op'.content.kind = .pollDifference) (hr : op'.running = true) :
    ∃ events, .spawn op.id (.pollDifference events) ∈ (e.step i).effects := by
  cases hq : e.queue.operations with
  | nil =>
    rw [hq] at hm
    cases hm
  | cons op₀ rest =>
    cases hd with
    | command c =>
      obtain ⟨op₁, rest₁, hq₁, ha, ho₁, -⟩ := (obeys_step h hq c).queue
      rw [hq₁] at hm'
      rcases List.mem_cons.mp hm' with rfl | hm'
      · exact absurd (ha.id.symm.trans hid) (id_ne_of_pending h hq hm hi)
      · cases hr.symm.trans (ho₁.waits op' hm').1
    | report op₀ rest₀ r hq₀ hk₀ =>
      obtain ⟨hs, -, ds, hl, hx⟩ := turn_of_report h hq₀ hk₀
      cases hl with
      | nothing hq₁ =>
        rw [hq₁] at hm'
        cases hm'
      | head op₁ rest₁ c hq₁ hk₁ =>
        rw [hq₁] at hm'
        obtain rfl : op' = op₁ := by
          rcases List.mem_cons.mp hm' with rfl | hm'
          · rfl
          · cases hr.symm.trans ((hs.head hq₁).2.1.waits op' hm').1
        obtain ⟨events, hc⟩ : ∃ events, c = .pollDifference events := by
          rw [hk] at hk₁
          cases c <;> first | exact ⟨_, rfl⟩ | cases hk₁
        refine ⟨events, mem_effects_of_launch ?_⟩
        rw [hx, hc, hid]
        exact List.mem_append_right _ (List.mem_append_right _ (List.mem_singleton_self _))

lemma keepsPoll_of_due (h : e.Settled) (he : e.effects = []) (hd : e.Due i) (hm : op ∈ e.queue.operations)
    (hi : op.running = false) (hk : op.content.kind = .pollDifference) : e.KeepsPoll i op := by
  have ht := groupTurn_of_due h he hd
  cases hr : e.restarts i with
  | true => exact .inr ⟨hr, ht.poll hr⟩
  | false =>
    rcases ht.still hr op hm (.inl hk) with ⟨op', hm', hg⟩ | ⟨r, rfl, -⟩
    · have hk' := hg.kind.trans hk
      exact .inl ⟨op', hm', hg.id, hk', fun hrun => spawned_of_pending h hd hm hi hm' hg.id hk' hrun⟩
    · generalize hid : op.id = id at hd
      cases hd with
      | report op₀ rest r hq => exact absurd hid.symm (id_ne_of_pending h hq hm hi)

lemma polls_of_restarts (h : e.GroupTurn i) (hr : e.restarts i = true) : (e.step i).Polls := by
  obtain ⟨op, hm, hk, -⟩ := h.poll hr
  exact ⟨op, hm, hk⟩

lemma moved_of_groupTurn (h : e.GroupTurn i) (hr : e.restarts i = false) :
    handed (e.step i).effects ++ (e.step i).waiting = e.waiting ++ i.pushed ++ i.returned := by
  obtain ⟨timeout, hh⟩ := h.held hr
  have := congrArg (List.map (·.1)) hh
  simpa [waiting, List.map_map, Function.comp_def] using this

end Engine

lemma GroupReplay.Leaves.perm {g : GroupReplay} {groups : List UpdateGroup} {left : Account}
    (h : g.Leaves groups left) (hp : g.shouldPoll = false) : groups.Perm (g.applied ++ g.skipped ++ g.remaining) := by
  obtain ⟨expected, found, t, ht, -⟩ := h
  exact perm_of_replayGroups ht hp

def Errand.Replays (id : OperationId) (history : List Entry) : Errand → Prop
  | task (.replayGroups groups) => inReplay history = groups
  | report (.groupsReplayed (.ok g)) =>
    ∃ left, .commit id (.batch g left) ∈ history ∧ g.Leaves (inReplay history) left
  | report (.groupsReplayed (.error _)) => True
  | _ => inReplay history = []

lemma Errand.Replays.mono {id : OperationId} {history more : List Entry} {x : Errand} (h : x.Replays id history)
    (he : inReplay more = inReplay history) (hs : history ⊆ more) : x.Replays id more := by
  cases x with
  | task t => cases t <;> exact he.trans h
  | report r =>
    cases r with
    | groupsReplayed result =>
      cases result with
      | ok g =>
        obtain ⟨left, hm, hl⟩ := h
        exact ⟨left, hs hm, he ▸ hl⟩
      | error error => trivial
    | _ => exact he.trans h
  | _ => exact he.trans h

lemma Errand.Replays.kind {id : OperationId} {history : List Entry} {x : Errand} (h : x.Replays id history)
    (hn : inReplay history ≠ []) : x.kind = .processGroups := by
  cases x with
  | task t => cases t <;> first | rfl | exact absurd h hn
  | report r =>
    cases r with
    | groupsReplayed result => rfl
    | _ => exact absurd h hn
  | _ => exact absurd h hn

namespace Replica

def Replaying (history : List Entry) (underway : List (OperationId × Errand)) : Prop :=
  (underway = [] → inReplay history = []) ∧ ∀ id x, underway = [(id, x)] → x.Replays id history

lemma inReplay_concat (history : List Entry) (x : Entry) :
    inReplay (history ++ [x]) = x.inReplay (inReplay history) := by
  simp [inReplay]

lemma inReplay_command (prior : List UpdateGroup) (e : Engine) (c : Command) :
    Entry.inReplay prior (.turn e (.command c)) = prior ++ (Entry.turn e (.command c)).handed :=
  rfl

lemma inReplay_commit (history : List Entry) (id : OperationId) (what : Commit) :
    inReplay (history ++ [.commit id what]) = inReplay history := by
  rw [inReplay_concat]
  exact List.append_nil _

lemma Replaying.launched {history : List Entry} {e' : Engine} {told : List EventSet} {carried : EventSet}
    {ds : List Deed} (hl : e'.Launched told carried ds) (h : inReplay history = ds.flatMap Deed.handed) :
    Replaying history (launched ds) := by
  cases hl with
  | nothing => exact ⟨fun _ => h, fun _ _ hu => by cases hu⟩
  | head op rest c hq hk hw =>
    refine ⟨fun hu => (by cases hu), fun id x hu => ?_⟩
    obtain ⟨rfl, rfl⟩ : op.id = id ∧ c.errand = x := by
      have hu' : [(op.id, c.errand)] = [(id, x)] := hu
      simpa using hu'
    cases c with
    | processGroups groups => exact h.trans (List.append_nil _)
    | custom work => cases work <;> exact h
    | _ => exact h

lemma replays_proceed {history : List Entry} {id : OperationId} {x : Errand} (h : x.Replays id history)
    (c : Circumstances) (s : SharedStorage) :
    (x.proceed c s).errand.Replays id (history ++ ((x.proceed c s).commit.map (.commit id)).toList) := by
  have hkeep (what : Option Commit) : inReplay (history ++ (what.map (.commit id)).toList) = inReplay history := by
    cases what with
    | none => exact congrArg inReplay (List.append_nil _)
    | some what => exact inReplay_commit history id what
  cases x with
  | task t =>
    cases t with
    | replayGroups groups =>
      have hx : inReplay history = groups := h
      simp only [Errand.proceed]
      cases hr : (replayGroupsTask c.slow groups s).result with
      | error error => trivial
      | ok g =>
        have hw : (Errand.proceed c s (.task (.replayGroups groups))).commit =
            some (.batch g (replayGroupsTask c.slow groups s).storage.storage.account) := by
          simp only [Errand.proceed, hr]
          rfl
        obtain ⟨⟨groups', he, hl⟩, -⟩ := Errand.commit_of_proceed hw
        cases he
        refine ⟨_, List.mem_append_right _ (List.mem_singleton_self _), ?_⟩
        rw [hkeep, hx]
        exact hl
    | pollDifference events =>
      simp only [Errand.proceed]
      split <;> exact (hkeep none).trans h
    | replayPrecomputed state => exact (hkeep _).trans h
    | _ => exact (hkeep none).trans h
  | asked events question => cases question <;> exact (hkeep _).trans h
  | timer => exact (hkeep none).trans h
  | report r => simpa [Errand.proceed] using h

lemma replaying_advance {r r' : Replica} (ha : r.Advance r') (h : Replaying r.history r.underway) :
    Replaying r'.history r'.underway := by
  cases ha with
  | still => exact h
  | interfered s => exact h
  | proceeded op rest x c hq hu hk =>
    refine ⟨fun hn => (by cases hn), fun id x' hx => ?_⟩
    obtain ⟨rfl, rfl⟩ : op.id = id ∧ (x.proceed c r.storage).errand = x' := by simpa using hx
    exact replays_proceed (h.2 _ _ hu) c r.storage
  | commanded op rest x c hq hu ho hd =>
    refine ⟨fun hn => (by cases hn), fun id x' hx => ?_⟩
    obtain ⟨rfl, rfl⟩ : op.id = id ∧ x = x' := by simpa [turned] using hx
    refine (h.2 _ _ hu).mono ?_ (List.subset_append_left _ _)
    have hn : (Entry.turn r.engine (.command c)).handed = [] := by
      rw [Entry.handed, Entry.effects, handed_eq, hd]
      rfl
    rw [turned, inReplay_concat, inReplay_command, hn, List.append_nil]
  | started c ds hq hu hi hl hd =>
    refine .launched hl ?_
    rw [turned, inReplay_concat, inReplay_command, h.1 hu, Entry.handed, Entry.effects, handed_eq, hd]
    rfl
  | reported op rest report ds hq hu hk hi hl hd =>
    refine .launched hl ?_
    have hn : (Entry.turn r.engine (.report op.id report)).handed = ds.flatMap Deed.handed := by
      have ht : (report.told.map Deed.tell).flatMap Deed.handed = [] := by
        simp [List.flatMap_eq_nil_iff, Deed.handed]
      rw [Entry.handed, Entry.effects, handed_eq, hd, List.flatMap_append, List.flatMap_append,
        Engine.handed_answers, ht]
      rfl
    have hr := h.2 _ _ hu
    rw [turned, inReplay_concat]
    cases report with
    | groupsReplayed result => exact hn
    | _ => exact (congrArg (· ++ _) hr).trans hn

lemma replaying_of_run (retryDelay : Nat) (storage : SharedStorage) (moves : List Move) :
    Replaying ((new retryDelay storage).run moves).history ((new retryDelay storage).run moves).underway :=
  run_induct (motive := fun r => Replaying r.history r.underway) ⟨fun _ => rfl, fun _ _ hu => (by cases hu)⟩
    (fun _ _ _ ha h => replaying_advance ha h) moves

end Replica

def Engine.fresh (e : Engine) : List UpdateGroup :=
  ((heldBy e.queue.operations).filter (·.2 = 0)).map (·.1)

namespace Engine

variable {e : Engine} {i : Input}

lemma fresh_step (h : e.GroupTurn i) (hd : e.retryDelay ≠ 0) :
    (handed (e.step i).effects ++ (e.step i).fresh).Sublist (e.fresh ++ i.pushed) := by
  cases hr : e.restarts i with
  | true =>
    obtain ⟨hn, hp, -⟩ := h.dropped hr
    have hf : (e.step i).fresh.Sublist e.fresh := (hp.sublist.filter _).map _
    rw [hn, List.nil_append]
    exact hf.trans (List.sublist_append_left _ _)
  | false =>
    obtain ⟨timeout, hh⟩ := h.held hr
    have hz (gs : List UpdateGroup) (delay : Nat) :
        ((gs.map (·, delay)).filter (·.2 = 0)).map (·.1) = if delay = 0 then gs else [] := by
      by_cases h0 : delay = 0 <;> simp [List.filter_map, Function.comp_def, h0]
    have hk := congrArg (fun l => (l.filter (·.2 = 0)).map (·.1)) hh
    simp only [List.filter_append, List.map_append, hz, if_true, if_neg hd, List.append_nil] at hk
    refine hk ▸ List.Sublist.append_left ?_ _
    split
    · exact .refl _
    · exact List.nil_sublist _

end Engine

namespace Replica

/-- What was handed to replays so far and what waits for the next one comes from the pushes, in their order. -/
structure InOrder (retryDelay : Nat) (r : Replica) : Prop where
  configured : r.Configured retryDelay
  sublist : (r.history.flatMap Entry.handed ++ r.engine.fresh).Sublist (r.history.flatMap Entry.pushed)

lemma inOrder_advance {retryDelay : Nat} {r r' : Replica} (hd : retryDelay ≠ 0) (hs : r.Sound) (ha : r.Advance r')
    (h : r.InOrder retryDelay) : r'.InOrder retryDelay := by
  obtain ⟨i, underway, hdue, rfl⟩ | ⟨he, hh⟩ := ha.turned_or
  · have ht := Engine.groupTurn_of_due hs.settled hs.effects hdue
    refine ⟨configured_advance hs ha h.configured, ?_⟩
    have hstep := Engine.fresh_step ht (h.configured.now ▸ hd)
    have hh : (r.turned i underway).history.flatMap Entry.handed =
        r.history.flatMap Entry.handed ++ handed (r.engine.step i).effects := by
      simp [turned, Entry.handed, Entry.effects]
    have hp : (r.turned i underway).history.flatMap Entry.pushed = r.history.flatMap Entry.pushed ++ i.pushed := by
      simp [turned, Entry.pushed]
    rw [hh, hp, List.append_assoc]
    refine (hstep.append_left _).trans ?_
    rw [← List.append_assoc]
    exact h.sublist.append_right _
  · have hn : r'.history.flatMap Entry.handed = r.history.flatMap Entry.handed ∧
        r'.history.flatMap Entry.pushed = r.history.flatMap Entry.pushed := by
      rcases hh with hh | ⟨id, what, hh⟩ <;> rw [hh]
      · exact ⟨rfl, rfl⟩
      · simp [Entry.handed, Entry.pushed, Entry.effects, handed]
    exact ⟨configured_advance hs ha h.configured, by rw [hn.1, hn.2, he]; exact h.sublist⟩

lemma accounts_of_turn {retryDelay : Nat} {storage : SharedStorage} {moves : List Move} {e : Engine} {i : Input}
    {before after : List Entry} (h : ((new retryDelay storage).run moves).history = before ++ .turn e i :: after)
    (hr : e.restarts i = false) : e.Accounts i before where
  moved := by
    obtain ⟨hs, he, hdue⟩ := due_of_turn (h ▸ List.mem_append_right _ List.mem_cons_self)
    exact Engine.moved_of_groupTurn (Engine.groupTurn_of_due hs he hdue) hr
  replayed id result hi := by
    subst hi
    obtain ⟨r, r', hre, ha, rfl, hh⟩ := advance_of_entry (motive := fun r => Replaying r.history r.underway)
      ⟨fun _ => rfl, fun _ _ hu => (by cases hu)⟩ (fun _ _ _ ha h => replaying_advance ha h) h
    obtain ⟨rfl, ⟨c, hc, -⟩ | ⟨op, rest, report, ds, hi, hq, hu, -⟩⟩ := ha.turn_cases hh
    · cases hc
    · cases hi
      have hx := hre.2 _ _ hu
      rw [Engine.restarts_report hq] at hr
      cases result with
      | error error => cases hr
      | ok g =>
        have hp : g.shouldPoll = false := hr
        have hret : (Input.report op.id (.groupsReplayed (.ok g))).returned = g.remaining := if_neg (by simp [hp])
        obtain ⟨left, hm, hl⟩ := hx
        exact ⟨g, left, rfl, hm, hl, hret ▸ hl.perm hp⟩

theorem keepsPushes_of_run {retryDelay : Nat} (hd : retryDelay ≠ 0) (storage : SharedStorage) (moves : List Move) :
    (new retryDelay storage).KeepsPushes moves where
  order := by
    have h : ((new retryDelay storage).run moves).InOrder retryDelay :=
      run_induct (motive := InOrder retryDelay) ⟨configured_of_run retryDelay storage [], .refl _⟩
        (fun _ _ hs ha h => inOrder_advance hd hs ha h) moves
    exact (List.sublist_append_left _ _).trans h.sublist
  inReplay hn := by
    have hr := replaying_of_run retryDelay storage moves
    obtain ⟨-, -, -, hu⟩ | ⟨-, op, rest, x, hq, hrun, -, -, hu, hk⟩ := sound_of_run retryDelay storage moves
    · exact absurd (hr.1 hu) hn
    · exact ⟨op, rest, hq, hrun, hk.symm.trans ((hr.2 _ _ hu).kind hn)⟩
  kept before e i after h := by
    obtain ⟨hs, he, hdue⟩ := due_of_turn (h ▸ List.mem_append_right _ List.mem_cons_self)
    cases hr : e.restarts i with
    | true => exact .inl (Engine.polls_of_restarts (Engine.groupTurn_of_due hs he hdue) hr)
    | false => exact .inr (accounts_of_turn h hr)
  stored before id what after h := by
    obtain ⟨moves₁, n, c, moves₂, x, hm, hb, -, -, hl⟩ := proceed_of_commit h
    exact ⟨moves₁, n, c, moves₂, hm, hb, hl⟩
  polled e i h op hm hi hk := by
    obtain ⟨hs, he, hdue⟩ := due_of_turn h
    exact Engine.keepsPoll_of_due hs he hdue hm hi hk

def lateGroup : UpdateGroup :=
  .common ⟨[.newMessage sampleMessage 13 1], 13, 1⟩

def pushingLate : List Move :=
  pushing [sampleGroup, lateGroup] ++
    [.proceed 0 calm, .deliver 0, .command (.addGroups [sampleGroup]), .proceed 0 calm, .deliver 0]

theorem keepsPushes_of_pushingLate :
    (((new 2 sampleStorage).run pushingLate).history.flatMap Entry.handed = [sampleGroup, lateGroup] ∧
      ((new 2 sampleStorage).run pushingLate).history.flatMap Entry.pushed = [sampleGroup, lateGroup, sampleGroup] ∧
      ((new 2 sampleStorage).run pushingLate).engine.Polls) ∧
    (new 2 sampleStorage).KeepsPushes pushingLate :=
  ⟨⟨rfl, rfl, _, .head _, rfl⟩, keepsPushes_of_run (by decide) sampleStorage pushingLate⟩

end Replica

end AccountReplica
