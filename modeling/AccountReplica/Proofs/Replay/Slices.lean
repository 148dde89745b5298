import AccountReplica.Proofs.Replay.News
import AccountReplica.Proofs.Replay.Verdicts

/-! A difference that is fetched in slices leaves the same account as the whole one, and what the slices tell is, all
together, what the whole one tells. -/

namespace AccountReplica

lemma Progress.updates_start (a : Account) (us : List Update) :
    Progress.updates ⟨.start a, .empty⟩ us = .ok ⟨.start (a.applyAll us), a.newsAll us⟩ := by
  obtain ⟨⟨⟨account, refusal⟩, events⟩, hq, hf⟩ := updates_free (p := ⟨.start a, .empty⟩) rfl us
  obtain rfl : account = a.applyAll us := account_of_updates hq
  obtain rfl : events = a.newsAll us := (events_of_updates hq).trans (EventSet.empty_merge _)
  obtain rfl : refusal = none := hf
  exact hq

lemma Progress.setState_start {a : Account} {e : SequenceState} (ha : a.state = some e) (events : EventSet)
    (s : SequenceState) :
    Progress.setState ⟨.start a, events⟩ e s = .ok ⟨.start { a with state := some s }, events⟩ := by
  simp only [setState]
  split
  · next h =>
    subst h
    rw [← ha]
    rfl
  · rfl

lemma replayDifference_start {a : Account} {e s : SequenceState} {d : Difference} (ha : a.state = some e)
    (ht : d.target e = .ok s) :
    replayDifference e d (.start a) = .ok (.applied s ((a.newsAll d.content).tellQts e s) d.hasMore,
      .start { a.applyAll d.content with state := some s }) := by
  have hs : (Transaction.start a).state = some e := ha
  have hc : (a.applyAll d.content).state = some e := (Account.state_applyAll a _).trans ha
  have hd := (Progress.difference_eq _ d).trans (Progress.updates_start a d.content)
  simp only [replayDifference]
  rw [if_pos hs, ht]
  exact bind_of_ok rfl <| bind_of_ok hd <| bind_of_ok (Progress.setState_start hc _ s) rfl

def Account.follow (a : Account) : List Difference → Except Failure (List DifferenceReplay × Account)
  | [] => .ok ([], a)
  | d :: ds => do
    let (r, t) ← replayDifference (a.state.getD .zero) d (.start a)
    let (rs, a) ← t.account.follow ds
    return (r :: rs, a)

lemma Account.follow_cons {a b : Account} {e s : SequenceState} {d : Difference} {ds : List Difference}
    {rs : List DifferenceReplay} (ha : a.state = some e) (ht : d.target e = .ok s)
    (h : ({ a.applyAll d.content with state := some s } : Account).follow ds = .ok (rs, b)) :
    a.follow (d :: ds) = .ok (.applied s ((a.newsAll d.content).tellQts e s) d.hasMore :: rs, b) := by
  have hr := replayDifference_start ha ht
  simp only [follow, ha, Option.getD_some]
  exact bind_of_ok hr (bind_of_ok h rfl)

namespace EventSet

lemma foldl_merge (x : EventSet) (told : List EventSet) : told.foldl merge x = x.merge (told.foldl merge empty) := by
  induction told generalizing x with
  | nil => exact (merge_empty x).symm
  | cons y told ih =>
    rw [List.foldl_cons, List.foldl_cons, empty_merge, ih (x.merge y), ih y, merge_assoc]

/-- Of two jumps of `qts` that follow each other the second is told. -/
lemma merge_tellQts {x y : EventSet} (hx : x.maxQts = none) (hy : y.maxQts = none) {e s s' : SequenceState}
    (h : e.qts ≤ s.qts) (h' : s.qts ≤ s'.qts) :
    (x.tellQts e s).merge (y.tellQts s s') = (x.merge y).tellQts e s' := by
  have hmax : max s.qts s'.qts = s'.qts := if_pos h'
  by_cases he : s.qts = e.qts
  · by_cases hs : s'.qts = s.qts
    · simp [tellQts, he, hs]
    · simp [tellQts, he, he ▸ hs, merge, hx]
  · have hne : s'.qts ≠ e.qts := fun hn => he (Int32.le_antisymm (hn ▸ h') h)
    by_cases hs : s'.qts = s.qts
    · simp [tellQts, he, hs, merge, hy]
    · simp [tellQts, he, hs, hne, merge, largest, hmax]

end EventSet

structure Part where
  messages : List Message
  updates : List Update
  state : SequenceState

namespace Part

def slice (p : Part) : Difference :=
  .slice p.messages p.updates p.state

def full (p : Part) : Difference :=
  .full p.messages p.updates p.state

def content (p : Part) : List Update :=
  p.full.content

def joined (ps : List Part) (last : Part) : Part where
  messages := (ps ++ [last]).flatMap messages
  updates := (ps ++ [last]).flatMap updates
  state := last.state

/-- Once a part has brought updates, no more messages come. -/
def Cut (ps : List Part) : Prop :=
  ps.Pairwise fun p q => p.updates ≠ [] → q.messages = []

lemma content_of_cut {ps : List Part} (h : Cut ps) :
    (ps.flatMap messages).map (.newMessage · 0 0) ++ ps.flatMap updates = ps.flatMap content := by
  induction ps with
  | nil => rfl
  | cons p ps ih =>
    obtain ⟨hp, h⟩ := List.pairwise_cons.mp h
    rw [List.flatMap_cons, List.flatMap_cons, List.flatMap_cons, ← ih h]
    by_cases hu : p.updates = []
    · simp [content, Difference.content, full, Difference.messages, Difference.updates, hu]
    · have hm : ps.flatMap messages = [] := List.flatMap_eq_nil_iff.mpr fun q hq => hp q hq hu
      simp [content, Difference.content, full, Difference.messages, Difference.updates, hm]

def Ascending (e : SequenceState) (ps : List Part) : Prop :=
  (e :: ps.map state).IsChain fun s s' => s.qts ≤ s'.qts

lemma Ascending.le_last {e : SequenceState} {ps : List Part} {last : Part} (h : Ascending e (ps ++ [last])) :
    e.qts ≤ last.state.qts := by
  induction ps generalizing e with
  | nil => exact (List.isChain_cons_cons.mp h).1
  | cons p ps ih =>
    obtain ⟨hp, h⟩ := List.isChain_cons_cons.mp h
    exact Int32.le_trans hp (ih h)

end Part

variable {a : Account} {e : SequenceState} {ps : List Part} {last : Part}

lemma follow_parts (ha : a.state = some e) (hq : Part.Ascending e (ps ++ [last])) :
    ∃ told final, told.length = ps.length ∧
      a.follow (ps.map Part.slice ++ [last.full]) =
        .ok (ps.zipWith (fun p ev => .applied p.state ev true) told ++ [.applied last.state final false],
          { a.applyAll ((ps ++ [last]).flatMap Part.content) with state := some last.state }) ∧
      (told ++ [final]).foldl .merge .empty =
        (a.newsAll ((ps ++ [last]).flatMap Part.content)).tellQts e last.state := by
  induction ps generalizing a e with
  | nil =>
    have hc : ([] ++ [last]).flatMap Part.content = last.full.content := List.append_nil _
    rw [hc]
    exact ⟨[], _, rfl, Account.follow_cons (d := last.full) ha rfl rfl, EventSet.empty_merge _⟩
  | cons p ps ih =>
    obtain ⟨hp, hq⟩ := List.isChain_cons_cons.mp hq
    let b : Account := { a.applyAll p.content with state := some p.state }
    obtain ⟨told, final, hl, hf, hm⟩ := ih (a := b) rfl hq
    refine ⟨(a.newsAll p.content).tellQts e p.state :: told, final, congrArg (· + 1) hl, ?_, ?_⟩
    · rw [List.cons_append, List.flatMap_cons, Account.applyAll_append]
      rw [Account.applyAll_setState] at hf
      exact Account.follow_cons (d := p.slice) ha rfl hf
    · have hb := Account.newsAll_setState (a.applyAll p.content) (some p.state) ((ps ++ [last]).flatMap Part.content)
      rw [List.cons_append, List.foldl_cons, EventSet.empty_merge, EventSet.foldl_merge, hm, hb, List.cons_append,
        List.flatMap_cons, Account.newsAll_append]
      exact EventSet.merge_tellQts (Account.maxQts_newsAll _ _) (Account.maxQts_newsAll _ _) hp
        (Part.Ascending.le_last hq)

/-- However a difference is cut into slices and a last answer, the account and what is told stay the same. -/
theorem follow_slices (ha : a.state = some e) (hc : Part.Cut (ps ++ [last])) (hq : Part.Ascending e (ps ++ [last])) :
    ∃ told final b, told.length = ps.length ∧ b.state = some last.state ∧
      a.follow (ps.map Part.slice ++ [last.full]) =
        .ok (ps.zipWith (fun p ev => .applied p.state ev true) told ++ [.applied last.state final false], b) ∧
      a.follow [(Part.joined ps last).full] =
        .ok ([.applied last.state ((told ++ [final]).foldl .merge .empty) false], b) := by
  obtain ⟨told, final, hl, hf, hm⟩ := follow_parts ha hq
  have hj : (Part.joined ps last).full.content = (ps ++ [last]).flatMap Part.content := Part.content_of_cut hc
  refine ⟨told, final, _, hl, rfl, hf, ?_⟩
  rw [hm, ← hj]
  exact Account.follow_cons (d := (Part.joined ps last).full) ha rfl rfl

def sampleParts : List Part :=
  [⟨[.received ⟨⟨1⟩, 7⟩ ⟨2⟩ 60 "hello"], [], ⟨11, 2, 61, 1⟩⟩,
    ⟨[.sent ⟨⟨1⟩, 8⟩ 62 "hi"], [.activity ⟨1⟩ ⟨2⟩ (some .typing), .webpage ⟨⟨4⟩, "example.org", none⟩ 13 1],
      ⟨13, 2, 62, 1⟩⟩]

def sampleRest : Part :=
  ⟨[], [.newSecretMessage (.received ⟨⟨1⟩, 9⟩ ⟨2⟩ 63 "secret") 5, .activity ⟨1⟩ ⟨3⟩ none,
    .webpage ⟨⟨4⟩, "example.org", some "Example"⟩ 14 1, .readInbox ⟨1⟩ 9 15 1], ⟨15, 5, 63, 2⟩⟩

theorem follow_sampleParts :
    let a := Account.empty.write (.setState ⟨10, 0, 60, 1⟩)
    Part.Cut (sampleParts ++ [sampleRest]) ∧ Part.Ascending ⟨10, 0, 60, 1⟩ (sampleParts ++ [sampleRest]) ∧
      ∃ told final b, told.length = 2 ∧ b.state = some ⟨15, 5, 63, 2⟩ ∧
        a.follow (sampleParts.map Part.slice ++ [sampleRest.full]) =
          .ok (sampleParts.zipWith (fun p ev => .applied p.state ev true) told ++
            [.applied ⟨15, 5, 63, 2⟩ final false], b) ∧
        a.follow [(Part.joined sampleParts sampleRest).full] =
          .ok ([.applied ⟨15, 5, 63, 2⟩ ((told ++ [final]).foldl .merge .empty) false], b) := by
  have hc : Part.Cut (sampleParts ++ [sampleRest]) := by unfold Part.Cut; decide
  have hq : Part.Ascending ⟨10, 0, 60, 1⟩ (sampleParts ++ [sampleRest]) := by unfold Part.Ascending; decide
  exact ⟨hc, hq, follow_slices rfl hc hq⟩

end AccountReplica
