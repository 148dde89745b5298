import AccountReplica.Proofs.Replica.Commits
import AccountReplica.Proofs.Replica.Sound
import AccountReplica.Scenario.Poll

/-! Chains of difference polls: what their rounds have committed is carried along, and told when the chain
ends. -/

namespace AccountReplica

def PollOutcome.goesOn : PollOutcome → Bool
  | applied _ more => more
  | mismatch _ => true
  | stateInitialized _ | tooLong .. | failed .. | replayFailed _ => false

def chainAfter (chain : List EventSet) : Entry → List EventSet
  | .commit _ (.difference events _) => chain ++ [events]
  | .turn _ (.report _ (.differencePolled outcome)) => if outcome.goesOn then chain else []
  | _ => chain

def openChain (history : List Entry) : List EventSet :=
  history.foldl chainAfter []

def merged (chain : List EventSet) : EventSet :=
  chain.foldl .merge .empty

lemma openChain_concat (history : List Entry) (x : Entry) :
    openChain (history ++ [x]) = chainAfter (openChain history) x :=
  List.foldl_concat ..

lemma merged_concat (chain : List EventSet) (events : EventSet) :
    merged (chain ++ [events]) = (merged chain).merge events :=
  List.foldl_concat ..

namespace PollOutcome

variable {outcome : PollOutcome}

lemma told_of_goesOn (h : outcome.goesOn) : outcome.told = [] := by
  cases outcome with
  | applied events more => cases more <;> first | rfl | cases h
  | mismatch events => rfl
  | _ => cases h

lemma passedOn_of_goesOn (h : outcome.goesOn) : outcome.passedOn = outcome.carried := by
  cases outcome with
  | applied events more => cases more <;> first | rfl | cases h
  | mismatch events => rfl
  | _ => cases h

lemma told_of_ends (h : outcome.goesOn = false) : outcome.told = outcome.carried.toTell := by
  cases outcome with
  | applied events more => cases more <;> first | rfl | cases h
  | mismatch events => cases h
  | _ => rfl

lemma passedOn_of_ends (h : outcome.goesOn = false) : outcome.passedOn = .empty := by
  cases outcome with
  | applied events more => cases more <;> first | rfl | cases h
  | mismatch events => cases h
  | _ => rfl

end PollOutcome

/-- A difference poll under way carries all that the open chain has committed, unless the last replay
failed. Without one no chain is open. -/
def Errand.Carries (chain : List EventSet) : Errand → Prop
  | task (.pollDifference events) | asked events _ => events = merged chain
  | report (.differencePolled outcome) => (∀ error, outcome ≠ .replayFailed error) → outcome.carried = merged chain
  | _ => chain = []

namespace Errand

lemma Carries.of_kind {chain : List EventSet} {x : Errand} (h : x.Carries chain) (hk : x.kind ≠ .pollDifference) :
    chain = [] := by
  cases x with
  | task t => cases t <;> first | exact h | exact absurd rfl hk
  | asked => exact absurd rfl hk
  | timer => exact h
  | report r => cases r <;> first | exact h | exact absurd rfl hk

lemma carries_of_kind {x : Errand} (hk : x.kind ≠ .pollDifference) : x.Carries [] := by
  cases x with
  | task t => cases t <;> first | rfl | exact absurd rfl hk
  | asked => exact absurd rfl hk
  | timer => rfl
  | report r => cases r <;> first | rfl | exact absurd rfl hk

end Errand

def chainWith (chain : List EventSet) : Option Commit → List EventSet
  | some (.difference events _) => chain ++ [events]
  | _ => chain

lemma openChain_commits (history : List Entry) (id : OperationId) (commit : Option Commit) :
    openChain (history ++ (commit.map (.commit id)).toList) = chainWith (openChain history) commit := by
  cases commit with
  | none => simp [chainWith]
  | some what =>
    rw [Option.map_some, Option.toList_some, openChain_concat]
    cases what <;> rfl

namespace DifferencePoll

variable {chain : List EventSet} {events : EventSet} {origin : SequenceState} {s : SharedStorage}

lemma carried_takeState (answer : Except SyncError SequenceState) (he : events = merged chain)
    (hs : s.Known ∨ chain = []) : (takeState events answer s).result.carried = merged chain := by
  simp only [takeState]
  split
  · exact he
  · next state =>
    split
    · next hr =>
      obtain ⟨t, ht, -⟩ := SharedStorage.of_run_ok (congrArg Prod.fst hr)
      rcases hs with hk | rfl
      · exact absurd (hk.interferedBefore _) (unknown_of_adopt ht)
      · rfl
    · exact he
    · exact he

lemma committed?_tooLong (pts : Int32) : committed? origin (.ok (.tooLong pts)) s = none := by
  simp only [committed?]
  split
  · next hr =>
    obtain ⟨t, ht, -⟩ := SharedStorage.of_run_ok hr
    simp only [replayDifference] at ht
    split at ht <;> cases ht
  · rfl

lemma carries_takeDifference (slow : Bool) (answer : Except SyncError Difference) (left : Account)
    (he : events = merged chain) :
    (∀ error, (takeDifference slow events origin answer s).result ≠ .replayFailed error) →
      (takeDifference slow events origin answer s).result.carried =
        merged (chainWith chain ((committed? origin answer s).map (.difference · left))) := by
  subst he
  simp only [takeDifference]
  split
  · exact fun _ => rfl
  · exact fun _ => rfl
  · rw [committed?_tooLong]
    exact fun _ => rfl
  · next d _ =>
    simp only [replayAnswer, committed?]
    cases hr : s.run (replayDifference origin d) with
    | mk result s' =>
      cases result with
      | ok r =>
        cases r with
        | mismatch found => exact fun _ => rfl
        | applied state applied more => exact fun _ => (merged_concat chain applied).symm
      | error e =>
        cases e with
        | differenceTooLong pts => exact fun _ => rfl
        | _ => exact fun h => absurd rfl (h _)

end DifferencePoll

namespace Errand

lemma difference_of_commit {x : Errand} {c : Circumstances} {s : SharedStorage} {ev : EventSet} {left : Account}
    (h : (x.proceed c s).commit = some (.difference ev left)) :
    x.kind = .pollDifference ∧ (x.proceed c s).storage.Known := by
  obtain ⟨⟨carried, request, d, state, more, found, t, rfl, -, hr, ha⟩, hl⟩ := commit_of_proceed h
  refine ⟨rfl, ?_⟩
  rw [SharedStorage.Known, hl, Commit.left, ← ha]
  exact (known_of_replayDifference hr).2 _ _ _ rfl

lemma Carries.proceed {chain : List EventSet} {x : Errand} {s : SharedStorage} (h : x.Carries chain)
    (c : Circumstances) (hs : s.Known ∨ chain = []) :
    (x.proceed c s).errand.Carries (chainWith chain (x.proceed c s).commit) ∧
      ((x.proceed c s).storage.Known ∨ chainWith chain (x.proceed c s).commit = []) := by
  by_cases hk : x.kind = .pollDifference
  · cases x with
    | task t =>
      cases t with
      | pollDifference events =>
        have hs' : s.Known → (DifferencePoll.ask c.limit events s).storage.Known :=
          DifferencePoll.known_ask c.limit events
        simp only [Errand.proceed]
        split
        · next outcome ho =>
          refine ⟨fun _ => ?_, hs.imp_left hs'⟩
          simp only [DifferencePoll.ask] at ho
          split at ho <;> cases ho
          exact h
        · exact ⟨h, hs.imp_left hs'⟩
      | _ => cases hk
    | asked events question =>
      cases question with
      | currentState =>
        exact ⟨fun _ => DifferencePoll.carried_takeState c.state h hs,
          hs.imp_left (DifferencePoll.known_takeState events c.state)⟩
      | difference request =>
        refine ⟨DifferencePoll.carries_takeDifference c.slow c.difference _ h, ?_⟩
        cases hc : DifferencePoll.committed? request.origin c.difference s with
        | some ev =>
          have hw : (Errand.proceed c s (.asked events (.difference request))).commit = some (.difference ev _) :=
            congrArg (Option.map _) hc
          exact .inl (difference_of_commit hw).2
        | none =>
          refine hs.imp (DifferencePoll.known_takeDifference c.slow events c.difference) fun he => ?_
          simpa [Errand.proceed, hc, chainWith] using he
    | report r => exact ⟨h, hs⟩
    | timer => cases hk
  · have hc : chainWith chain (x.proceed c s).commit = [] := by
      rw [h.of_kind hk]
      cases hw : (x.proceed c s).commit with
      | none => rfl
      | some what =>
        cases what with
        | batch g left => rfl
        | difference ev left => exact absurd (difference_of_commit hw).1 hk
    rw [hc]
    exact ⟨carries_of_kind ((x.kind_proceed c s).trans_ne hk), .inr rfl⟩

end Errand

namespace Engine

variable {e : Engine} {op : Operation} {rest : List Operation}

lemma startFirst_poll {ev : EventSet} (hq : e.queue.operations = op :: rest) (hi : op.running = false)
    (hc : op.content = .pollDifference ev) :
    e.startFirst.queue.operations = ⟨op.id, .pollDifference .empty, true⟩ :: rest := by
  rw [startFirst_of_start hq hi (by rw [start, hc])]
  simp [run, emit, hc, Content.started]

lemma poll_goes_on {outcome : PollOutcome} (hs : e.Settled) (hq : e.queue.operations = op :: rest)
    (hk : op.content.kind = .pollDifference) (hg : outcome.goesOn) :
    ∃ op' rest', (e.step (.report op.id (.differencePolled outcome))).queue.operations = op' :: rest' ∧
      op'.content.kind = .pollDifference := by
  obtain ⟨hr, ho, ht⟩ := hs.head hq
  have hw := waiting_popped ho
  have hf : e.report op.id (.differencePolled outcome) = (e.popped rest).differencePolled outcome := by
    simp only [report, finish?_head hq hr (by simpa [hk] using ht)]
  obtain ⟨op', rest', hq', hi, ev, hc⟩ : ∃ op' rest',
      ((e.popped rest).differencePolled outcome).queue.operations = op' :: rest' ∧ op'.running = false ∧
        ∃ ev, op'.content = .pollDifference ev := by
    cases outcome with
    | applied ev more =>
      obtain rfl : more = true := hg
      exact ⟨_, _, hw.insertFirst_operations (.pollDifference ev), rfl, ev, rfl⟩
    | mismatch ev => exact ⟨_, _, hw.insertFirst_operations (.pollDifference ev), rfl, ev, rfl⟩
    | _ => cases hg
  refine ⟨⟨op'.id, .pollDifference .empty, true⟩, rest', ?_, rfl⟩
  rw [step, (silent_refreshUpdating _).queue, receive, hf]
  exact startFirst_poll hq' hi hc

end Engine

namespace Replica

structure Follows (r : Replica) : Prop where
  known : r.storage.Known ∨ openChain r.history = []
  carried : ∀ p ∈ r.underway, p.2.Carries (openChain r.history)
  rest : r.underway = [] → openChain r.history = []

/-- What a turn dispatches, given what happened before it: the events of the chain that it ends, unless the last
replay of the chain failed, and nothing else but the events of a batch. -/
def TellsChain (before : List Entry) (e : Engine) (i : Input) : Prop :=
  match i with
  | .report _ (.differencePolled outcome) =>
    if outcome.goesOn then (Entry.turn e i).dispatched = []
    else
      (Entry.turn e i).dispatched = (merged (openChain before)).toTell ↔
        ((∃ error, outcome = .replayFailed error) → (merged (openChain before)).isEmpty)
  | .report _ report => (Entry.turn e i).dispatched = report.told
  | .command _ => (Entry.turn e i).dispatched = []

lemma tellsChain_of_report {r : Replica} {op : Operation} {report : Report} {ds : List Deed} (h : r.Follows)
    (hu : r.underway = [(op.id, .report report)])
    (hl : (r.engine.step (.report op.id report)).Launched report.told report.carried ds)
    (hd : deeds (r.engine.step (.report op.id report)).effects =
      op.content.answers ++ report.told.map .tell ++ ds) :
    TellsChain r.history r.engine (.report op.id report) := by
  have hx : (Entry.turn r.engine (.report op.id report)).dispatched = report.told := dispatched_of_deeds hl hd
  cases report with
  | differencePolled outcome =>
    have hc : (Errand.report (.differencePolled outcome)).Carries (openChain r.history) :=
      h.carried _ (by rw [hu]; exact List.mem_singleton_self _)
    simp only [TellsChain, hx]
    split
    · next hg => exact PollOutcome.told_of_goesOn hg
    · next hg =>
      by_cases hf : ∃ error, outcome = .replayFailed error
      · obtain ⟨error, rfl⟩ := hf
        simp only [Report.told, PollOutcome.told, EventSet.toTell]
        split <;> simp_all
      · have he := hc fun error he => hf ⟨error, he⟩
        refine iff_of_true ?_ fun h => absurd h hf
        rw [← he]
        exact PollOutcome.told_of_ends (by simpa using hg)
  | _ => exact hx

lemma follows_new (retryDelay : Nat) (storage : SharedStorage) : (new retryDelay storage).Follows :=
  ⟨.inr rfl, List.forall_mem_nil _, fun _ => rfl⟩

lemma carries_launched {e : Engine} {told : List EventSet} {carried : EventSet} {ds : List Deed}
    {chain : List EventSet} (hl : e.Launched told carried ds) (hc : carried = merged chain)
    (hn : chain = [] ∨ ∃ op rest, e.queue.operations = op :: rest ∧ op.content.kind = .pollDifference) :
    (∀ p ∈ launched ds, p.2.Carries chain) ∧ (launched ds = [] → chain = []) := by
  rcases launched_of hl with ⟨hq, he⟩ | ⟨op, rest, c, hq, he, hk, hp⟩
  · rw [he]
    refine ⟨List.forall_mem_nil _, fun _ => ?_⟩
    rcases hn with hn | ⟨op, rest, hq', -⟩
    · exact hn
    · cases hq.symm.trans hq'
  · rw [he]
    refine ⟨List.forall_mem_singleton.mpr ?_, by rintro ⟨⟩⟩
    by_cases ho : op.content.kind = .pollDifference
    · rw [hp ho]
      exact hc
    · rcases hn with rfl | ⟨op', rest', hq', ho'⟩
      · exact Errand.carries_of_kind (hk.trans_ne ho)
      · obtain ⟨rfl, -⟩ := List.cons.inj (hq.symm.trans hq')
        exact absurd ho' ho

lemma chain_after_report {e : Engine} {op : Operation} {rest : List Operation} {report : Report}
    {chain : List EventSet} (h : (Errand.report report).Carries chain) (hs : e.Settled)
    (hq : e.queue.operations = op :: rest) (hk : report.kind = op.content.kind) :
    report.carried = merged (chainAfter chain (.turn e (.report op.id report))) ∧
      (chainAfter chain (.turn e (.report op.id report)) = [] ∨
        chainAfter chain (.turn e (.report op.id report)) = chain ∧
          ∃ op' rest', (e.step (.report op.id report)).queue.operations = op' :: rest' ∧
            op'.content.kind = .pollDifference) := by
  cases report with
  | differencePolled outcome =>
    cases hg : outcome.goesOn with
    | true =>
      have hc : chainAfter chain (.turn e (.report op.id (.differencePolled outcome))) = chain := if_pos hg
      have hf : ∀ error, outcome ≠ .replayFailed error := by
        rintro error rfl
        cases hg
      rw [hc]
      exact ⟨(PollOutcome.passedOn_of_goesOn hg).trans (h hf),
        .inr ⟨rfl, Engine.poll_goes_on hs hq hk.symm hg⟩⟩
    | false =>
      have hc : chainAfter chain (.turn e (.report op.id (.differencePolled outcome))) = [] := by
        simp [chainAfter, hg]
      rw [hc]
      exact ⟨PollOutcome.passedOn_of_ends hg, .inl rfl⟩
  | _ =>
    obtain rfl : chain = [] := h
    exact ⟨rfl, .inl rfl⟩

lemma Follows.advance {r r' : Replica} (hs : r.Sound) (ha : r.Advance r') (h : r.Follows) : r'.Follows := by
  cases ha with
  | still => exact h
  | interfered s hk => exact ⟨h.known.imp_left hk, h.carried, h.rest⟩
  | proceeded op rest x c hq hu hk =>
    have hx : x.Carries (openChain r.history) := h.carried (op.id, x) (by rw [hu]; exact List.mem_singleton_self _)
    obtain ⟨hc, hk⟩ := hx.proceed c h.known
    rw [← openChain_commits r.history op.id] at hc hk
    exact ⟨hk, List.forall_mem_singleton.mpr hc, by rintro ⟨⟩⟩
  | commanded op rest x c hq hu ho hd =>
    have hc : openChain (r.history ++ [.turn r.engine (.command c)]) = openChain r.history := openChain_concat ..
    refine ⟨?_, ?_, by rintro ⟨⟩⟩
    · simpa only [turned, hc] using h.known
    · simpa only [turned, hc, hu] using h.carried
  | started c ds hq hu hi hl hd =>
    have hc : openChain (r.history ++ [.turn r.engine (.command c)]) = [] :=
      (openChain_concat ..).trans (h.rest hu)
    have hcs : ∀ p ∈ launched ds, p.2.Carries [] := (carries_launched hl rfl (.inl rfl)).1
    refine ⟨.inr hc, ?_, fun _ => hc⟩
    simpa only [turned, hc] using hcs
  | reported op rest report ds hq hu hk hi hl hd =>
    have hx : (Errand.report report).Carries (openChain r.history) :=
      h.carried _ (by rw [hu]; exact List.mem_singleton_self _)
    have hc : openChain (r.history ++ [.turn r.engine (.report op.id report)]) =
      chainAfter (openChain r.history) (.turn r.engine (.report op.id report)) := openChain_concat ..
    obtain ⟨hcar, hn⟩ := chain_after_report hx hs.settled hq hk
    rw [← hc] at hcar hn
    obtain ⟨hcs, hr⟩ := carries_launched hl hcar (hn.imp_right (·.2))
    refine ⟨?_, hcs, hr⟩
    rcases hn with hn | ⟨hn, -⟩
    · exact .inr hn
    · exact h.known.imp_right hn.trans

/-- The event sets that the rounds of a chain of difference polls have committed are dispatched, merged, in the
turn that ends the chain, unless it ends with a replay that fails; no other turn dispatches them. -/
theorem tellsChain_of_turn {retryDelay : Nat} {storage : SharedStorage} {moves : List Move} {before after : List Entry}
    {e : Engine} {i : Input}
    (h : ((new retryDelay storage).run moves).history = before ++ .turn e i :: after) : TellsChain before e i := by
  obtain ⟨r, r', hf, ha, rfl, hh⟩ :=
    advance_of_entry (follows_new ..) (fun _ _ hs ha hf => hf.advance hs ha) h
  obtain ⟨rfl, ⟨c, rfl, hd⟩ | ⟨op, rest, report, ds, rfl, hq, hu, hl, hd⟩⟩ := ha.turn_cases hh
  · refine (filterMap_dispatched _).trans (List.filterMap_eq_nil_iff.mpr fun d hm => ?_)
    obtain ⟨id, t, rfl⟩ := hd d hm
    rfl
  · exact tellsChain_of_report hf hu hl hd

def slices : List Move :=
  let c := answering (.slice [sampleMessage] [] ⟨11, 0, 60, 1⟩)
  [.command .reset, .proceed 0 c, .proceed 0 c, .deliver 0, .proceed 0 calm, .proceed 0 calm, .deliver 0]

theorem tellsChain_of_slices : ∃ before e id outcome,
    ((new 2 sampleStorage).run slices).history = before ++ [.turn e (.report id (.differencePolled outcome))] ∧
      (merged (openChain before)).added = [sampleMessage.id] ∧
      TellsChain before e (.report id (.differencePolled outcome)) := by
  obtain ⟨before, e, id, outcome, h, hm⟩ : ∃ before e id outcome,
      ((new 2 sampleStorage).run slices).history = before ++ .turn e (.report id (.differencePolled outcome)) :: [] ∧
        (merged (openChain before)).added = [sampleMessage.id] := ⟨[_, _, _, _], _, _, _, rfl, rfl⟩
  exact ⟨before, e, id, outcome, h, hm, tellsChain_of_turn h⟩

theorem untold_of_failed_slice : ∃ before e id error,
    ((new 2 { sampleStorage with interference := [(4, .failNext 1)] }).run slices).history =
        before ++ [.turn e (.report id (.differencePolled (.replayFailed error)))] ∧
      (merged (openChain before)).added = [sampleMessage.id] ∧
      (Entry.turn e (.report id (.differencePolled (.replayFailed error)))).dispatched = [] :=
  ⟨[_, _, _], _, _, _, rfl, rfl, rfl⟩

end Replica

end AccountReplica
