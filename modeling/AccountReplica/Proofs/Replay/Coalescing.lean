import AccountReplica.Proofs.Replay.JointWalk
import AccountReplica.Proofs.Replay.LastWrites

/-! Batches that are replayed as one: when this leaves the same account as replaying one after the other. -/

namespace AccountReplica

open Track

lemma foldl_blocks {α β : Type} {f : β → α → β} {c s n d c' s' n' d' : List α}
    (hc : ∀ x ∈ s ++ n ++ d, ∀ y ∈ c', ∀ b, f (f b x) y = f (f b y) x)
    (hs : ∀ x ∈ n ++ d, ∀ y ∈ s', ∀ b, f (f b x) y = f (f b y) x)
    (hn : ∀ x ∈ d, ∀ y ∈ n', ∀ b, f (f b x) y = f (f b y) x) (b : β) :
    (c ++ c' ++ (s ++ s') ++ (n ++ n') ++ (d ++ d')).foldl f b =
      (c' ++ s' ++ n' ++ d').foldl f ((c ++ s ++ n ++ d).foldl f b) := by
  have hc' := foldl_comm hc
  have hs' := foldl_comm hs
  have hn' := foldl_comm hn
  simp only [List.foldl_append] at hc' hs' ⊢
  rw [hc', hs', hn']

namespace UpdateGroup

def rank : UpdateGroup → Nat
  | common _ => 0
  | secret _ => 1
  | numbered _ => 2
  | dated _ => 3
  | tooLong => 4

variable {g h : UpdateGroup}

lemma advance_comm (hr : h.rank < g.rank) (s : SequenceState) :
    advance (advance s g) h = advance (advance s h) g := by
  cases g with
  | common => cases hr
  | secret =>
    cases h with
    | common => rfl
    | _ => simp [rank] at hr
  | numbered =>
    cases h with
    | common | secret => rfl
    | _ => simp [rank] at hr
  | dated =>
    cases h with
    | common | secret => rfl
    | numbered => simp only [advance, Track.numbered, DatedGroup.advance, max_right_comm]
    | _ => simp [rank] at hr
  | tooLong => rfl

def writes (gs : List UpdateGroup) : List Write :=
  AccountReplica.writes (gs.flatMap (·.updates))

end UpdateGroup

namespace GroupReplay

/-- What two replays have applied, in the order in which one of both batches applies it. -/
def coalesced (ra rb : GroupReplay) : List UpdateGroup :=
  (StableSort.sort CommonGroup.start (ra.common.applied ++ rb.common.applied)).map .common ++
    (StableSort.sort (·.qts.toInt) (ra.secret.applied ++ rb.secret.applied)).map .secret ++
    (StableSort.sort (·.first.toInt) (ra.numbered.applied ++ rb.numbered.applied)).map .numbered ++
    (ra.dated ++ rb.dated).map .dated

lemma coalesced_perm (ra rb : GroupReplay) : (ra.coalesced rb).Perm (ra.applied ++ rb.applied) := by
  have hc := (StableSort.sort_perm CommonGroup.start (ra.common.applied ++ rb.common.applied)).map UpdateGroup.common
  have hs := (StableSort.sort_perm (·.qts.toInt) (ra.secret.applied ++ rb.secret.applied)).map UpdateGroup.secret
  have hn := (StableSort.sort_perm (·.first.toInt) (ra.numbered.applied ++ rb.numbered.applied)).map
    UpdateGroup.numbered
  refine (((hc.append hs).append hn).append_right _).trans (List.perm_iff_count.mpr fun g => ?_)
  simp only [applied, List.map_append, List.count_append]
  omega

end GroupReplay

structure Separable (s : SequenceState) (ra rb : GroupReplay) : Prop where
  common : Line.common.Apart s ra.common rb.common
  numbered : Line.numbered.Apart s ra.numbered rb.numbered

instance (s : SequenceState) (ra rb : GroupReplay) : Decidable (Separable s ra rb) :=
  decidable_of_iff (Line.common.Apart s ra.common rb.common ∧ Line.numbered.Apart s ra.numbered rb.numbered)
    ⟨fun ⟨hc, hn⟩ => ⟨hc, hn⟩, fun h => ⟨h.common, h.numbered⟩⟩

lemma GroupReplay.held_eq_nil {r : GroupReplay} (h : r.remaining = []) :
    r.common.held = [] ∧ r.secret.held = [] ∧ r.numbered.held = [] := by
  simpa [remaining, and_assoc] using h

variable {s s₁ : SequenceState} {as bs : List UpdateGroup} {ra rb : GroupReplay}

lemma advance_coalesced
    (hc : ∀ s, (StableSort.sort CommonGroup.start (ra.common.applied ++ rb.common.applied)).foldl Track.common.advance s =
      rb.common.applied.foldl Track.common.advance (ra.common.applied.foldl Track.common.advance s))
    (hs : ∀ s, (StableSort.sort (·.qts.toInt) (ra.secret.applied ++ rb.secret.applied)).foldl Track.secret.advance s =
      rb.secret.applied.foldl Track.secret.advance (ra.secret.applied.foldl Track.secret.advance s))
    (hn : ∀ s, (StableSort.sort (·.first.toInt) (ra.numbered.applied ++ rb.numbered.applied)).foldl
      Track.numbered.advance s =
        rb.numbered.applied.foldl Track.numbered.advance (ra.numbered.applied.foldl Track.numbered.advance s))
    (s : SequenceState) :
    (ra.coalesced rb).foldl UpdateGroup.advance s =
      rb.applied.foldl UpdateGroup.advance (ra.applied.foldl UpdateGroup.advance s) := by
  have hm : (ra.coalesced rb).foldl UpdateGroup.advance s =
      ((ra.common.applied.map UpdateGroup.common ++ rb.common.applied.map UpdateGroup.common) ++
        (ra.secret.applied.map UpdateGroup.secret ++ rb.secret.applied.map UpdateGroup.secret) ++
        (ra.numbered.applied.map UpdateGroup.numbered ++ rb.numbered.applied.map UpdateGroup.numbered) ++
        (ra.dated.map UpdateGroup.dated ++ rb.dated.map UpdateGroup.dated)).foldl UpdateGroup.advance s := by
    simp only [GroupReplay.coalesced, List.map_append, List.foldl_append, List.foldl_map, UpdateGroup.advance]
    rw [hc, hs, hn]
  rw [hm]
  have hr {g h : UpdateGroup} (hlt : h.rank < g.rank) (s : SequenceState) :
      UpdateGroup.advance (UpdateGroup.advance s g) h = UpdateGroup.advance (UpdateGroup.advance s h) g :=
    UpdateGroup.advance_comm hlt s
  refine foldl_blocks (fun g hg g' hg' => hr ?_) (fun g hg g' hg' => hr ?_) (fun g hg g' hg' => hr ?_) s
  · simp only [List.mem_append, List.mem_map] at hg hg'
    obtain ⟨y, hy, rfl⟩ := hg'
    rcases hg with (⟨x, hx, rfl⟩ | ⟨x, hx, rfl⟩) | ⟨x, hx, rfl⟩ <;> simp [UpdateGroup.rank]
  · simp only [List.mem_append, List.mem_map] at hg hg'
    obtain ⟨y, hy, rfl⟩ := hg'
    rcases hg with ⟨x, hx, rfl⟩ | ⟨x, hx, rfl⟩ <;> simp [UpdateGroup.rank]
  · simp only [List.mem_map] at hg hg'
    obtain ⟨y, hy, rfl⟩ := hg'
    obtain ⟨x, hx, rfl⟩ := hg
    simp [UpdateGroup.rank]

lemma judges_append (ja : (Batch.ofGroups as).Judges s ra) (ha : ra.remaining = [])
    (jb : (Batch.ofGroups bs).Judges (ra.applied.foldl UpdateGroup.advance s) rb) (hb : rb.remaining = [])
    (h : Separable s ra rb) :
    ∃ r, (Batch.ofGroups (as ++ bs)).Judges s r ∧ r.remaining = [] ∧
      r.shouldPoll = (ra.shouldPoll || rb.shouldPoll) ∧ r.applied = ra.coalesced rb ∧
      r.applied.foldl UpdateGroup.advance s =
        rb.applied.foldl UpdateGroup.advance (ra.applied.foldl UpdateGroup.advance s) := by
  obtain ⟨hac, has, han⟩ := GroupReplay.held_eq_nil ha
  obtain ⟨hbc, hbs, hbn⟩ := GroupReplay.held_eq_nil hb
  have jbc := Track.common_congr jb.common (Batch.pts_applied ra s)
  have jbs := Track.secret_congr jb.secret (Batch.qts_applied ra s)
  have jbn := Track.numbered_congr jb.numbered (Batch.seq_applied ra s)
  have hsecret := Line.apart_secret ja.secret jbs
  obtain ⟨vc, jc, ac, hc⟩ := Line.common.judges_append ja.common hac jbc hbc h.common
  obtain ⟨vs, js, as', hs⟩ := Line.secret.judges_append ja.secret has jbs hbs hsecret
  obtain ⟨vn, jn, an, hn⟩ := Line.numbered.judges_append ja.numbered han jbn hbn h.numbered
  have hr : (⟨.empty, ra.shouldPoll || rb.shouldPoll, vc, vs, vn, ra.dated ++ rb.dated⟩ : GroupReplay).applied =
      ra.coalesced rb := by
    simp only [GroupReplay.applied, ac, as', an]
    rfl
  refine ⟨_, ⟨fun g hg => ?_, ?_, ?_, ?_, ?_, ?_⟩, ?_, rfl, hr, ?_⟩
  · rw [Batch.mem_common, List.mem_append] at hg
    rcases hg with hg | hg
    · exact ja.fits g (Batch.mem_common.mpr hg)
    · exact jb.fits g (Batch.mem_common.mpr hg)
  · simp only [Batch.ofGroups, List.filterMap_append]
    exact jc
  · simp only [Batch.ofGroups, List.filterMap_append]
    exact js
  · simp only [Batch.ofGroups, List.filterMap_append]
    exact jn
  · simp only [ja.dated, jb.dated, Batch.ofGroups, List.filterMap_append]
  · simp [ja.shouldPoll, jb.shouldPoll, Batch.ofGroups]
  · simp [GroupReplay.remaining, hc, hs, hn]
  · rw [hr]
    exact advance_coalesced (Line.common.foldl_append ja.common jbc h.common)
      (Line.secret.foldl_append ja.secret jbs hsecret) (Line.numbered.foldl_append ja.numbered jbn h.numbered) s

namespace Account

lemma take_setState (a : Account) (s : SequenceState) (g : UpdateGroup) :
    (a.write (.setState s)).take g = (a.take g).write (.setState s) := by
  simp only [take, applyAll]
  generalize g.updates = us
  induction us generalizing a with
  | nil => rfl
  | cons u us ih =>
    have hu : (a.write (.setState s)).apply u = (a.apply u).write (.setState s) := by cases u <;> rfl
    rw [List.foldl_cons, hu, ih]
    rfl

lemma foldl_take_setState (gs : List UpdateGroup) (a : Account) (s : SequenceState) :
    gs.foldl take (a.write (.setState s)) = (gs.foldl take a).write (.setState s) := by
  induction gs generalizing a with
  | nil => rfl
  | cons g gs ih =>
    rw [List.foldl_cons, take_setState, ih]
    rfl

lemma foldl_take (gs : List UpdateGroup) (a : Account) : gs.foldl take a = a.writeAll (UpdateGroup.writes gs) := by
  have happly (us : List Update) (a : Account) : a.applyAll us = a.writeAll (writes us) := by
    induction us generalizing a with
    | nil => rfl
    | cons u us ih =>
      refine (ih (a.apply u)).trans ?_
      cases u <;> rfl
  exact List.foldl_flatMap.symm.trans (happly (gs.flatMap UpdateGroup.updates) a)

end Account

def followed (s : SequenceState) : Account :=
  Account.empty.write (.setState s)

def push (cs : List Container) : List UpdateGroup :=
  cs.flatMap Container.groups

def samplePeer : PeerId := ⟨1⟩

def sampleText (number : Int32) : Message :=
  .received ⟨samplePeer, number⟩ samplePeer 60 "hello"

def sampleContact (isContact : Bool) : Update :=
  .contact samplePeer isContact

def sampleRead (upTo pts count : Int32) : Update :=
  .readInbox samplePeer upTo pts count

def firstPush : List UpdateGroup :=
  push [.batch [.newMessage (sampleText 7) 11 1, sampleContact true] 2 61,
    .short (.newSecretMessage (sampleText 8) 1) 61]

def secondPush : List UpdateGroup :=
  push [.short (.newMessage (sampleText 7) 11 1) 61,
    .batch [.deleteMessages [(sampleText 7).id] 12 1, sampleContact false] 3 62]

def Coalesces (a : Account) (as bs : List UpdateGroup) : Prop :=
  ∀ s ra ta s₁ rb tb, replayGroups s as (.start a) = .ok (ra, ta) → ra.remaining = [] → ra.shouldPoll = false →
    replayGroups s₁ bs (.start ta.account) = .ok (rb, tb) → rb.remaining = [] → rb.shouldPoll = false →
      ∃ r t, replayGroups s (as ++ bs) (.start a) = .ok (r, t) ∧ r.remaining = [] ∧ t.account = tb.account

lemma not_coalesces {a : Account} {r : GroupReplay} {ta tb t : Transaction} (s s₁ : SequenceState)
    (ha : replayGroups s as (.start a) = .ok (ra, ta)) (hra : ra.remaining = [] ∧ ra.shouldPoll = false)
    (hb : replayGroups s₁ bs (.start ta.account) = .ok (rb, tb)) (hrb : rb.remaining = [] ∧ rb.shouldPoll = false)
    (hr : replayGroups s (as ++ bs) (.start a) = .ok (r, t)) (hn : ¬(r.remaining = [] ∧ t.account = tb.account)) :
    ¬Coalesces a as bs := by
  intro h
  obtain ⟨r', t', hr', hh⟩ := h s ra ta s₁ rb tb ha hra.1 hra.2 hb hrb.1 hrb.2
  cases hr.symm.trans hr'
  exact hn hh

end AccountReplica
