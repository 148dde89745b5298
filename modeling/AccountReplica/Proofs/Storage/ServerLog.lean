import AccountReplica.Proofs.Storage.Known

/-! The log of the common box that a server keeps, and a storage that follows it: whatever is pushed,
lost, repeated, fetched or refused, its content is what a prefix of the log makes of it. -/

namespace AccountReplica

def Update.endsAt (u : Update) (p : Int32) : Int32 :=
  match u.sequencing with
  | .common pts _ => pts
  | _ => p

def ptsAfter (p : Int32) (us : List Update) : Int32 :=
  us.foldl (fun p u => u.endsAt p) p

/-- Each update covers at least one event and starts where the one before ends. -/
def Chained : Int32 → List Update → Prop
  | _, [] => True
  | p, u :: us => ∃ pts count, u.sequencing = .common pts count ∧ 1 ≤ count ∧
      pts.toInt - count.toInt = p.toInt ∧ Chained pts us

lemma ptsAfter_append (p : Int32) (us vs : List Update) :
    ptsAfter p (us ++ vs) = ptsAfter (ptsAfter p us) vs :=
  List.foldl_append

lemma chained_append {p : Int32} {us vs : List Update} :
    Chained p (us ++ vs) ↔ Chained p us ∧ Chained (ptsAfter p us) vs := by
  induction us generalizing p with
  | nil => simp [Chained, ptsAfter]
  | cons u us ih =>
    constructor
    · rintro ⟨pts, count, hu, hc, hs, h⟩
      obtain ⟨hus, hvs⟩ := ih.mp h
      refine ⟨⟨pts, count, hu, hc, hs, hus⟩, ?_⟩
      simpa only [ptsAfter, List.foldl_cons, Update.endsAt, hu] using hvs
    · rintro ⟨⟨pts, count, hu, hc, hs, hus⟩, hvs⟩
      refine ⟨pts, count, hu, hc, hs, ih.mpr ⟨hus, ?_⟩⟩
      simpa only [ptsAfter, List.foldl_cons, Update.endsAt, hu] using hvs

lemma le_ptsAfter {p : Int32} {us : List Update} (h : Chained p us) :
    p.toInt + us.length ≤ (ptsAfter p us).toInt := by
  induction us generalizing p with
  | nil => simp [ptsAfter]
  | cons u us ih =>
    obtain ⟨pts, count, hu, hc, hs, hus⟩ := h
    have hc' : 1 ≤ count.toInt := Int32.le_iff_toInt_le.mp hc
    have hi := ih hus
    have he : ptsAfter p (u :: us) = ptsAfter pts us := by
      simp only [ptsAfter, List.foldl_cons, Update.endsAt, hu]
    rw [he, List.length_cons]
    push_cast
    omega

lemma eq_of_ptsAfter_eq {p : Int32} {us xs ys : List Update} (h : Chained p us) (hx : xs <+: us)
    (hy : ys <+: us) (he : ptsAfter p xs = ptsAfter p ys) : xs = ys := by
  wlog hl : xs.length ≤ ys.length generalizing xs ys
  · exact (this hy hx he.symm (by omega)).symm
  obtain ⟨zs, rfl⟩ := List.prefix_of_prefix_length_le hx hy hl
  obtain ⟨vs, rfl⟩ := hy
  have hz := le_ptsAfter (chained_append.mp (chained_append.mp h).1).2
  rw [← ptsAfter_append, ← he] at hz
  have hn : zs = [] := List.eq_nil_of_length_eq_zero (by omega)
  rw [hn, List.append_nil]

lemma prefix_concat {p : Int32} {us xs : List Update} {u : Update} {pts count : Int32}
    (h : Chained p us) (hx : xs <+: us) (hm : u ∈ us) (hu : u.sequencing = .common pts count)
    (hs : pts.toInt - count.toInt = (ptsAfter p xs).toInt) : xs ++ [u] <+: us := by
  obtain ⟨ys, zs, rfl⟩ := List.append_of_mem hm
  obtain ⟨pts', count', hu', -, hs', -⟩ := (chained_append.mp h).2
  obtain ⟨rfl, rfl⟩ : pts = pts' ∧ count = count' := by simpa [hu] using hu'
  have he : ptsAfter p xs = ptsAfter p ys := Int32.toInt_inj.mp (hs.symm.trans hs')
  rw [eq_of_ptsAfter_eq h hx (List.prefix_append ys _) he]
  exact ⟨zs, by simp⟩

structure Box where
  messages : Std.ExtTreeMap MessageId Message
  inboxRead : Std.ExtTreeMap PeerId Int32
  webpages : Std.ExtTreeMap MediaId Webpage

def Account.box (a : Account) : Box :=
  ⟨a.messages, a.inboxRead, a.webpages⟩

structure Log where
  start : Int32
  updates : List Update
  chained : Chained start updates

lemma Account.box_apply {a b : Account} (h : a.box = b.box) (u : Update) :
    (a.apply u).box = (b.apply u).box := by
  injection h with hm hr hw
  cases u <;> simp only [apply, Update.write?, Option.elim, write, box, maxRead, hm, hr, hw]

lemma Account.box_applyAll {a b : Account} (h : a.box = b.box) (us : List Update) :
    (a.applyAll us).box = (b.applyAll us).box := by
  induction us generalizing a b with
  | nil => exact h
  | cons u us ih => exact ih (box_apply h u)

lemma Account.box_storeAll {a b : Account} (h : a.box = b.box) (ms : List Message) :
    (a.storeAll ms).box = (b.storeAll ms).box := by
  induction ms generalizing a b with
  | nil => exact h
  | cons m ms ih =>
    injection h with hm hr hw
    exact ih (by simp only [store, write, box, hm, hr, hw])

lemma Account.box_unsequenced {us : List Update} (h : ∀ u ∈ us, u.sequencing = .unsequenced)
    (a : Account) : (a.applyAll us).box = a.box := by
  induction us generalizing a with
  | nil => rfl
  | cons u us ih =>
    have hu : (a.apply u).box = a.box := by
      cases u <;> first | rfl | cases h _ List.mem_cons_self
    exact (ih (fun v hv => h v (List.mem_cons_of_mem u hv)) _).trans hu

inductive Replay
  | containers (cs : List Container)
  | difference (d : Difference)

/-- A replay on top of the state that it was prepared for. It may be refused as a whole, together with
later ones, or at one of its writes. -/
structure Attempt where
  expected : SequenceState
  replay : Replay
  refused : Nat
  refusal : Option Refusal

namespace Storage

def attempted (s : Storage) (a : Attempt) : Storage :=
  let s := s.failNext a.refused
  match a.replay with
  | .containers cs =>
    (s.transaction fun t =>
      replayGroups a.expected (cs.flatMap Container.groups) { t with refusal := a.refusal }).2
  | .difference d =>
    (s.transaction fun t => replayDifference a.expected d { t with refusal := a.refusal }).2

end Storage

namespace Log

variable (l : Log) (origin : Account)

def Pushes (c : Container) : Prop :=
  ∀ u ∈ c.updates, u ∈ l.updates ∨ u.sequencing = .unsequenced

def Answers (expected : SequenceState) : Difference → Prop
  | .empty .. | .tooLong _ => True
  | .full ms us state | .slice ms us state =>
    ∀ xs, xs <+: l.updates → ptsAfter l.start xs = expected.pts →
      ∃ ys, ys <+: l.updates ∧ ptsAfter l.start ys = state.pts ∧
        (((origin.applyAll xs).storeAll ms).applyAll us).box = (origin.applyAll ys).box

def Serves (a : Attempt) : Prop :=
  match a.replay with
  | .containers cs => ∀ c ∈ cs, l.Pushes c
  | .difference d => l.Answers origin a.expected d

def Reached (pts : Int32) (a : Account) : Prop :=
  ∃ us, us <+: l.updates ∧ ptsAfter l.start us = pts ∧ a.box = (origin.applyAll us).box

def Followed (a : Account) : Prop :=
  ∃ s, a.state = some s ∧ l.Reached origin s.pts a

variable {l origin}

lemma Reached.unsequenced {pts : Int32} {a : Account} (h : l.Reached origin pts a) {us : List Update}
    (hu : ∀ u ∈ us, u.sequencing = .unsequenced) : l.Reached origin pts (a.applyAll us) := by
  obtain ⟨xs, hx, hp, hb⟩ := h
  exact ⟨xs, hx, hp, (Account.box_unsequenced hu a).trans hb⟩

lemma Reached.next {s : SequenceState} {a : Account} (h : l.Reached origin s.pts a) {u : Update}
    {pts count : Int32} (hm : u ∈ l.updates) (hu : u.sequencing = .common pts count)
    (hs : pts.toInt - count.toInt = s.pts.toInt) : l.Reached origin pts (a.apply u) := by
  obtain ⟨xs, hx, hp, hb⟩ := h
  refine ⟨xs ++ [u], prefix_concat l.chained hx hm hu (by rw [hp, hs]), ?_, ?_⟩
  · simp only [ptsAfter, List.foldl_append, List.foldl_cons, List.foldl_nil, Update.endsAt, hu]
  · rw [Account.applyAll_append]
    exact Account.box_apply hb u

lemma Reached.withState {pts : Int32} {a : Account} (h : l.Reached origin pts a)
    (s : Option SequenceState) : l.Reached origin pts { a with state := s } := h

lemma stamped_of_pushes {cs : List Container} (hc : ∀ c ∈ cs, l.Pushes c) {g : UpdateGroup}
    (hg : g ∈ cs.flatMap Container.groups) :
    g = .tooLong ∨ (∃ u ∈ l.updates, UpdateGroup.ofStamped? u = some g) ∨
      ((∃ n, g = .numbered n) ∨ ∃ d, g = .dated d) ∧ ∀ u ∈ g.updates, u.sequencing = .unsequenced := by
  obtain ⟨c, hm, hg⟩ := List.mem_flatMap.mp hg
  rcases Container.of_mem_groups hg with h | ⟨u, hu, h⟩ | h
  · exact Or.inl h
  · rcases hc c hm u hu with hl | hn
    · exact Or.inr (Or.inl ⟨u, hl, h⟩)
    · simp [UpdateGroup.ofStamped?, hn] at h
  · exact Or.inr (Or.inr h)

lemma sequencing_of_mem {u : Update} (h : u ∈ l.updates) :
    ∃ pts count, u.sequencing = .common pts count := by
  obtain ⟨xs, ys, he⟩ := List.append_of_mem h
  obtain ⟨pts, count, hu, -⟩ := (chained_append.mp (he ▸ l.chained)).2
  exact ⟨pts, count, hu⟩

lemma unsequenced_of_pushes {cs : List Container} (hc : ∀ c ∈ cs, l.Pushes c) {g : UpdateGroup}
    (hg : g ∈ cs.flatMap Container.groups) (h : (∃ n, g = .numbered n) ∨ ∃ d, g = .dated d) :
    ∀ u ∈ g.updates, u.sequencing = .unsequenced := by
  rcases stamped_of_pushes hc hg with rfl | ⟨u, hu, hs⟩ | ⟨-, hu⟩
  · simp at h
  · obtain ⟨pts, count, hseq⟩ := sequencing_of_mem hu
    simp only [UpdateGroup.ofStamped?, hseq, Option.some.injEq] at hs
    subst hs
    simp at h
  · exact hu

lemma Followed.replayGroups {cs : List Container} (hc : ∀ c ∈ cs, l.Pushes c)
    {expected : SequenceState} {t t' : Transaction} {r : GroupReplay}
    (h : replayGroups expected (cs.flatMap Container.groups) t = .ok (r, t'))
    (ht : l.Followed origin t.account) : l.Followed origin t'.account := by
  simp only [AccountReplica.replayGroups] at h
  split at h
  · next hs =>
    replace ht : l.Reached origin expected.pts t.account := by
      obtain ⟨s, he, ht⟩ := ht
      cases he.symm.trans hs
      exact ht
    obtain ⟨s, a, ha, he⟩ : ∃ s a, l.Reached origin s.pts a ∧ t'.account = { a with state := some s } := by
      refine Batch.replay_induct (motive := fun s a => l.Reached origin s.pts a) h hs ht ?_ ?_ ?_ ?_
      · intro g hg s a hcont hr
        rcases stamped_of_pushes hc (Batch.mem_common.mp hg) with h | ⟨u, hu, h⟩ | ⟨⟨n, h⟩ | ⟨d, h⟩, -⟩
        · cases h
        · obtain ⟨pts, count, hseq⟩ := sequencing_of_mem hu
          simp only [UpdateGroup.ofStamped?, hseq, Option.some.injEq, UpdateGroup.common.injEq] at h
          subst h
          have hstart : pts.toInt - count.toInt = s.pts.toInt :=
            of_decide_eq_true (Except.ok.inj hcont)
          exact hr.next hu hseq hstart
        · cases h
        · cases h
      · intro g hg
        rcases stamped_of_pushes hc (Batch.mem_secret.mp hg) with h | ⟨u, hu, h⟩ | ⟨⟨n, h⟩ | ⟨d, h⟩, -⟩
        · cases h
        · obtain ⟨pts, count, hseq⟩ := sequencing_of_mem hu
          simp [UpdateGroup.ofStamped?, hseq] at h
        · cases h
        · cases h
      · intro g hg s a _ hr
        exact hr.unsequenced (unsequenced_of_pushes hc (Batch.mem_numbered.mp hg) (Or.inl ⟨g, rfl⟩))
      · intro g hg s a hr
        exact hr.unsequenced (unsequenced_of_pushes hc (Batch.mem_dated.mp hg) (Or.inr ⟨g, rfl⟩))
    exact ⟨s, by rw [he], he ▸ ha.withState (some s)⟩
  · cases h

lemma Followed.replayDifference {d : Difference} {expected : SequenceState}
    (hd : l.Answers origin expected d) {t t' : Transaction} {r : DifferenceReplay}
    (h : replayDifference expected d t = .ok (r, t')) (ht : l.Followed origin t.account) :
    l.Followed origin t'.account := by
  simp only [AccountReplica.replayDifference] at h
  split at h
  · next he =>
    obtain ⟨state, hs, ht⟩ := ht
    obtain rfl : state = expected := Option.some.inj (hs.symm.trans he)
    obtain ⟨target, htgt, h⟩ := bind_ok h
    obtain ⟨p, hp, h⟩ := bind_ok h
    obtain ⟨q, hq, h⟩ := bind_ok h
    cases h
    have hp := Progress.account_of_difference hp
    have hq := Progress.account_of_setState hq (by simp [hp, hs])
    refine ⟨target, by rw [hq], ?_⟩
    obtain ⟨xs, hx, hpts, hb⟩ := ht
    have hbox : q.txn.account.box = (((origin.applyAll xs).storeAll d.messages).applyAll d.updates).box := by
      rw [hq, hp]
      exact Account.box_applyAll (Account.box_storeAll hb _) _
    cases d with
    | empty date seq => cases htgt; exact ⟨xs, hx, hpts, hbox⟩
    | full ms us state | slice ms us state =>
      cases htgt
      obtain ⟨ys, hy, hpts, he⟩ := hd xs hx hpts
      exact ⟨ys, hy, hpts, hbox.trans he⟩
    | tooLong pts => cases htgt
  · cases h; exact ht

lemma Followed.attempted {s : Storage} {a : Attempt} (ha : l.Serves origin a)
    (h : l.Followed origin s.account) : l.Followed origin (s.attempted a).account := by
  simp only [Storage.attempted]
  simp only [Serves] at ha
  cases hr : a.replay with
  | containers cs =>
    simp only [hr] at ha ⊢
    rcases Storage.transaction_cases _ (s.failNext a.refused) with ⟨-, -, he⟩ | ⟨r, t, ht, -, he⟩
    · rw [he]; exact h
    · rw [he]; exact Followed.replayGroups ha ht h
  | difference d =>
    simp only [hr] at ha ⊢
    rcases Storage.transaction_cases _ (s.failNext a.refused) with ⟨-, -, he⟩ | ⟨r, t, ht, -, he⟩
    · rw [he]; exact h
    · rw [he]; exact Followed.replayDifference ha ht h

lemma Followed.attempts {s : Storage} {as : List Attempt} (ha : ∀ a ∈ as, l.Serves origin a)
    (h : l.Followed origin s.account) : l.Followed origin (as.foldl Storage.attempted s).account := by
  induction as generalizing s with
  | nil => exact h
  | cons a as ih =>
    exact ih (fun b hb => ha b (List.mem_cons_of_mem a hb)) (h.attempted (ha a List.mem_cons_self))

/-- The persisted `pts` tells how much of the log the storage holds: all of it up to there, each update
once and in order, and nothing else. -/
theorem box_of_attempts (l : Log) (s : Storage) {state : SequenceState}
    (hs : s.account.state = some state) (hp : state.pts = l.start) (as : List Attempt)
    (ha : ∀ a ∈ as, l.Serves s.account a) :
    ∃ state' us, (as.foldl Storage.attempted s).account.state = some state' ∧
      (as.foldl Storage.attempted s).account.box = (s.account.applyAll us).box ∧
      ∀ vs, vs <+: l.updates ∧ ptsAfter l.start vs = state'.pts ↔ vs = us := by
  have h : l.Followed s.account s.account := ⟨state, hs, [], List.nil_prefix, hp.symm, rfl⟩
  obtain ⟨state', hs', us, hu, hpts, hb⟩ := h.attempts ha
  refine ⟨state', us, hs', hb, fun vs => ⟨?_, ?_⟩⟩
  · rintro ⟨hv, hpts'⟩
    exact eq_of_ptsAfter_eq l.chained hv hu (hpts'.trans hpts.symm)
  · rintro rfl
    exact ⟨hu, hpts⟩

def sampleMessage : Message :=
  .received ⟨⟨1⟩, 7⟩ ⟨2⟩ 60 "hello"

def sample : Log where
  start := 10
  updates := [.newMessage sampleMessage 11 1, .readInbox ⟨1⟩ 7 13 2]
  chained := ⟨11, 1, rfl, by decide, by decide, 13, 2, rfl, by decide, by decide, trivial⟩

def sampleStorage : Storage :=
  Storage.empty.setState ⟨10, 0, 60, 1⟩

def sampleAttempts : List Attempt :=
  [⟨⟨10, 0, 60, 1⟩, .containers [.short (.readInbox ⟨1⟩ 7 13 2) 61], 0, none⟩,
    ⟨⟨10, 0, 60, 1⟩, .containers [.batch sample.updates.reverse 2 62, .short (.peerChanged ⟨3⟩) 62], 0,
      some ⟨.storeMessage, 1⟩⟩,
    ⟨⟨10, 0, 60, 1⟩, .difference (.full [sampleMessage] [] ⟨11, 0, 63, 2⟩), 0, none⟩]

theorem box_of_sampleAttempts :
    (∀ a ∈ sampleAttempts, sample.Serves sampleStorage.account a) ∧
      ∃ state' us, (sampleAttempts.foldl Storage.attempted sampleStorage).account.state = some state' ∧
        (sampleAttempts.foldl Storage.attempted sampleStorage).account.box =
          (sampleStorage.account.applyAll us).box ∧
        ∀ vs, vs <+: sample.updates ∧ ptsAfter sample.start vs = state'.pts ↔ vs = us := by
  have h : ∀ a ∈ sampleAttempts, sample.Serves sampleStorage.account a := by
    simp only [sampleAttempts, List.forall_mem_cons]
    refine ⟨?_, ?_, ?_, by simp⟩
    · simp [Serves, Pushes, Container.updates, sample]
    · simp [Serves, Pushes, Container.updates, sample, Update.sequencing]
    · intro xs hx hpts
      obtain rfl : xs = [] := eq_of_ptsAfter_eq sample.chained hx List.nil_prefix hpts
      exact ⟨[.newMessage sampleMessage 11 1], ⟨_, rfl⟩, rfl, rfl⟩
  exact ⟨h, box_of_attempts sample sampleStorage rfl rfl sampleAttempts h⟩

end Log

end AccountReplica
