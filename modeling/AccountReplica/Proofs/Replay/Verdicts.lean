import AccountReplica.Proofs.Replay.Content

/-! What becomes of the groups of a batch, rule by rule, and what the applied ones leave behind. -/

namespace AccountReplica

lemma foldl_keeps {α β κ : Type} {f : β → α → β} (key : β → κ) (h : ∀ b a, key (f b a) = key b) (as : List α) (b : β) :
    key (as.foldl f b) = key b := by
  induction as generalizing b with
  | nil => rfl
  | cons a as ih => exact (ih (f b a)).trans (h b a)

lemma foldl_congr_key {α β κ : Type} {f : β → α → β} (key : β → κ)
    (h : ∀ b b' a, key b = key b' → key (f b a) = key (f b' a)) (as : List α) {b b' : β} (hb : key b = key b') :
    key (as.foldl f b) = key (as.foldl f b') := by
  induction as generalizing b b' with
  | nil => exact hb
  | cons a as ih => exact ih (h b b' a hb)

lemma foldl_past {α β : Type} {f : β → α → β} {x : α} {ys : List α}
    (h : ∀ y ∈ ys, ∀ b, f (f b x) y = f (f b y) x) (b : β) : ys.foldl f (f b x) = f (ys.foldl f b) x := by
  induction ys generalizing b with
  | nil => rfl
  | cons y ys ih =>
    rw [List.foldl_cons, h y List.mem_cons_self, ih fun y' hm => h y' (List.mem_cons_of_mem y hm)]
    rfl

lemma foldl_comm {α β : Type} {f : β → α → β} {xs ys : List α}
    (h : ∀ x ∈ xs, ∀ y ∈ ys, ∀ b, f (f b x) y = f (f b y) x) (b : β) :
    ys.foldl f (xs.foldl f b) = xs.foldl f (ys.foldl f b) := by
  induction xs generalizing b with
  | nil => rfl
  | cons x xs ih =>
    rw [List.foldl_cons, ih fun x' hm => h x' (List.mem_cons_of_mem x hm), foldl_past (h x List.mem_cons_self)]
    rfl

lemma max_right_comm (x y z : Int32) : max (max x y) z = max (max x z) y := by
  rw [← Int32.toInt_inj]
  simp only [Counter.toInt_max]
  omega

namespace Track

variable {γ : Type} {t : Track γ}

inductive Judges (t : Track γ) : SequenceState → List γ → Verdicts γ → Prop
  | done (s : SequenceState) : Judges t s [] ⟨[], [], []⟩
  | apply {s : SequenceState} {g : γ} {gs : List γ} {v : Verdicts γ} (hc : t.continues s g = .ok true)
      (h : Judges t (t.advance s g) gs v) : Judges t s (g :: gs) { v with applied := g :: v.applied }
  | skip {s : SequenceState} {g : γ} {gs : List γ} {v : Verdicts γ} (hc : t.continues s g = .ok false)
      (hv : t.covered s g = true) (h : Judges t s gs v) : Judges t s (g :: gs) { v with skipped := g :: v.skipped }
  | hold {s : SequenceState} {g : γ} {gs : List γ} (hc : t.continues s g = .ok false)
      (hv : t.covered s g = false) : Judges t s (g :: gs) ⟨[], [], g :: gs⟩

def applyGroups (t : Track γ) (p : Progress) (gs : List γ) : Except Failure Progress :=
  gs.foldlM (fun p g => t.applyGroup g p) p

lemma judges_of_walk {gs : List γ} {s : SequenceState} {p : Progress} {w : Walk γ} (h : t.walk gs s p = .ok w) :
    t.Judges s gs w.verdicts ∧ w.state = w.verdicts.applied.foldl t.advance s ∧
      t.applyGroups p w.verdicts.applied = .ok w.progress := by
  induction gs generalizing s p w with
  | nil =>
    cases h
    exact ⟨.done s, rfl, rfl⟩
  | cons g gs ih =>
    simp only [walk] at h
    split at h
    · cases h
    · next hc =>
      obtain ⟨p', hp, h⟩ := bind_ok h
      obtain ⟨w', hw, h⟩ := bind_ok h
      cases h
      obtain ⟨hj, hs, ha⟩ := ih hw
      refine ⟨.apply hc hj, hs, ?_⟩
      exact bind_of_ok hp ha
    · next hc =>
      split at h
      · next hv =>
        obtain ⟨w', hw, h⟩ := bind_ok h
        cases h
        obtain ⟨hj, hs, ha⟩ := ih hw
        exact ⟨.skip hc hv hj, hs, ha⟩
      · next hv =>
        cases h
        exact ⟨.hold hc (by simpa using hv), rfl, rfl⟩

lemma walk_of_judges {gs : List γ} {s : SequenceState} {v : Verdicts γ} (h : t.Judges s gs v) {p q : Progress}
    (hq : t.applyGroups p v.applied = .ok q) : t.walk gs s p = .ok ⟨v, v.applied.foldl t.advance s, q⟩ := by
  induction h generalizing p with
  | done s =>
    cases hq
    rfl
  | apply hc h ih =>
    obtain ⟨p', hp, hq⟩ := bind_ok hq
    simp only [walk, hc]
    exact bind_of_ok hp (bind_of_ok (ih hq) rfl)
  | skip hc hv h ih =>
    simp only [walk, hc, hv, if_true]
    exact bind_of_ok (ih hq) rfl
  | hold hc hv =>
    cases hq
    simp [walk, hc, hv]

/-- A walk does not look at more of the state than its own counter. -/
lemma Judges.congr {κ : Type} (counter : SequenceState → κ) {s s' : SequenceState} {gs : List γ} {v : Verdicts γ}
    (h : t.Judges s gs v) (hs : counter s = counter s')
    (hc : ∀ s s' g, counter s = counter s' → t.continues s g = t.continues s' g ∧ t.covered s g = t.covered s' g ∧
      counter (t.advance s g) = counter (t.advance s' g)) : t.Judges s' gs v := by
  induction h generalizing s' with
  | done => exact .done s'
  | apply hg h ih =>
    obtain ⟨he, -, ha⟩ := hc _ _ _ hs
    exact .apply (he ▸ hg) (ih ha)
  | skip hg hv h ih =>
    obtain ⟨he, hv', -⟩ := hc _ _ _ hs
    exact .skip (he ▸ hg) (hv' ▸ hv) (ih hs)
  | hold hg hv =>
    obtain ⟨he, hv', -⟩ := hc _ _ _ hs
    exact .hold (he ▸ hg) (hv' ▸ hv)

lemma qts_common (gs : List CommonGroup) (s : SequenceState) : (gs.foldl common.advance s).qts = s.qts :=
  foldl_keeps (f := common.advance) (·.qts) (fun _ _ => rfl) gs s

lemma seq_common (gs : List CommonGroup) (s : SequenceState) : (gs.foldl common.advance s).seq = s.seq :=
  foldl_keeps (f := common.advance) (·.seq) (fun _ _ => rfl) gs s

lemma seq_secret (gs : List SecretGroup) (s : SequenceState) : (gs.foldl secret.advance s).seq = s.seq :=
  foldl_keeps (f := secret.advance) (·.seq) (fun _ _ => rfl) gs s

lemma common_congr {s s' : SequenceState} {gs : List CommonGroup} {v : Verdicts CommonGroup}
    (h : common.Judges s gs v) (hs : s.pts = s'.pts) : common.Judges s' gs v :=
  h.congr (·.pts) hs fun s s' g (he : s.pts = s'.pts) => by simp [common, he]

lemma secret_congr {s s' : SequenceState} {gs : List SecretGroup} {v : Verdicts SecretGroup}
    (h : secret.Judges s gs v) (hs : s.qts = s'.qts) : secret.Judges s' gs v :=
  h.congr (·.qts) hs fun s s' g (he : s.qts = s'.qts) => by simp [secret, he]

lemma numbered_congr {s s' : SequenceState} {gs : List NumberedGroup} {v : Verdicts NumberedGroup}
    (h : numbered.Judges s gs v) (hs : s.seq = s'.seq) : numbered.Judges s' gs v :=
  h.congr (·.seq) hs fun s s' g (he : s.seq = s'.seq) => by simp [numbered, he]

lemma account_of_applyGroups {gs : List γ} {p q : Progress} (h : t.applyGroups p gs = .ok q) :
    q.txn.account = gs.foldl (fun a g => a.applyAll (t.updates g)) p.txn.account := by
  induction gs generalizing p with
  | nil =>
    cases h
    rfl
  | cons g gs ih =>
    obtain ⟨p', hp, h⟩ := bind_ok h
    rw [ih h, account_of_applyGroup hp]
    rfl

end Track

namespace Progress

variable {p : Progress}

lemma update_free (h : p.txn.refusal = none) (u : Update) : ∃ q, p.update u = .ok q ∧ q.txn.refusal = none := by
  have hw (w : Write) : p.txn.write w = .ok { p.txn with account := p.txn.account.write w } := by
    simp only [Transaction.write, h]
  cases u with
  | newMessage m | newSecretMessage m =>
    have hs : p.txn.storeMessage m =
        .ok (!p.txn.account.messages.contains m.id, { p.txn with account := p.txn.account.store m }) := by
      rw [Transaction.storeMessage, hw]
      rfl
    exact ⟨_, bind_of_ok hs rfl, h⟩
  | deleteMessages | readInbox | webpage | contact => exact ⟨_, bind_of_ok (hw _) rfl, h⟩
  | _ => exact ⟨_, rfl, h⟩

lemma updates_free (h : p.txn.refusal = none) (us : List Update) :
    ∃ q, p.updates us = .ok q ∧ q.txn.refusal = none := by
  induction us generalizing p with
  | nil => exact ⟨p, rfl, h⟩
  | cons u us ih =>
    obtain ⟨p', hp, h'⟩ := update_free h u
    obtain ⟨q, hq, hf⟩ := ih h'
    exact ⟨q, bind_of_ok hp hq, hf⟩

lemma setState_free (h : p.txn.refusal = none) (expected state : SequenceState) :
    ∃ q, p.setState expected state = .ok q := by
  simp only [setState]
  split
  · exact ⟨p, rfl⟩
  · refine ⟨{ p with txn := { p.txn with account := p.txn.account.write (.setState state) } }, bind_of_ok ?_ rfl⟩
    simp only [Transaction.write, h]

end Progress

lemma Track.applyGroups_free {γ : Type} (t : Track γ) (gs : List γ) {p : Progress} (h : p.txn.refusal = none) :
    ∃ q, t.applyGroups p gs = .ok q ∧ q.txn.refusal = none := by
  induction gs generalizing p with
  | nil => exact ⟨p, rfl, h⟩
  | cons g gs ih =>
    obtain ⟨p', hp, h'⟩ := Progress.updates_free h (t.updates g)
    obtain ⟨q, hq, hf⟩ := ih (p := { p' with events := t.tell g p'.events }) h'
    exact ⟨q, bind_of_ok (bind_of_ok hp rfl) hq, hf⟩

namespace DatedGroup

def advance (s : SequenceState) (g : DatedGroup) : SequenceState :=
  { s with date := max s.date g.date }

lemma of_applyAll {gs : List DatedGroup} {sp sp' : SequenceState × Progress} (h : gs.foldlM apply sp = .ok sp') :
    sp'.1 = gs.foldl advance sp.1 ∧
      sp'.2.txn.account = gs.foldl (fun a g => a.applyAll g.updates) sp.2.txn.account := by
  induction gs generalizing sp with
  | nil =>
    cases h
    exact ⟨rfl, rfl⟩
  | cons g gs ih =>
    obtain ⟨sp₁, h₁, h⟩ := bind_ok h
    obtain ⟨hs, ha⟩ := of_apply h₁
    obtain ⟨hs', ha'⟩ := ih h
    exact ⟨by rw [hs', hs]; rfl, by rw [ha', ha]; rfl⟩

lemma applyAll_free (gs : List DatedGroup) (s : SequenceState) {p : Progress} (h : p.txn.refusal = none) :
    ∃ sp', gs.foldlM apply (s, p) = .ok sp' ∧ sp'.2.txn.refusal = none := by
  induction gs generalizing s p with
  | nil => exact ⟨(s, p), rfl, h⟩
  | cons g gs ih =>
    obtain ⟨p', hp, h'⟩ := Progress.updates_free h g.updates
    obtain ⟨sp', hs, hf⟩ := ih (g.advance s) h'
    exact ⟨sp', bind_of_ok (bind_of_ok hp rfl) hs, hf⟩

end DatedGroup

namespace UpdateGroup

def advance (s : SequenceState) : UpdateGroup → SequenceState
  | common g => Track.common.advance s g
  | secret g => Track.secret.advance s g
  | numbered g => Track.numbered.advance s g
  | dated g => g.advance s
  | tooLong => s

end UpdateGroup

def Account.take (a : Account) (g : UpdateGroup) : Account :=
  a.applyAll g.updates

def GroupReplay.applied (r : GroupReplay) : List UpdateGroup :=
  r.common.applied.map .common ++ r.secret.applied.map .secret ++ r.numbered.applied.map .numbered ++
    r.dated.map .dated

namespace Batch

structure Judges (b : Batch) (s : SequenceState) (r : GroupReplay) : Prop where
  fits : ∀ g ∈ b.common, Counter.Fits g.start
  common : Track.common.Judges s b.common r.common
  secret : Track.secret.Judges s b.secret r.secret
  numbered : Track.numbered.Judges s b.numbered r.numbered
  dated : r.dated = b.dated
  shouldPoll : r.shouldPoll = b.tooLong

lemma foldl_applied {β : Type} (f : β → UpdateGroup → β) (r : GroupReplay) (x : β) :
    r.applied.foldl f x = r.dated.foldl (fun x g => f x (.dated g))
      (r.numbered.applied.foldl (fun x g => f x (.numbered g))
        (r.secret.applied.foldl (fun x g => f x (.secret g))
          (r.common.applied.foldl (fun x g => f x (.common g)) x))) := by
  simp only [GroupReplay.applied, List.foldl_append, List.foldl_map]

lemma advance_applied (r : GroupReplay) (s : SequenceState) :
    r.applied.foldl UpdateGroup.advance s = r.dated.foldl DatedGroup.advance
      (r.numbered.applied.foldl Track.numbered.advance
        (r.secret.applied.foldl Track.secret.advance (r.common.applied.foldl Track.common.advance s))) :=
  foldl_applied UpdateGroup.advance r s

lemma pts_applied (r : GroupReplay) (s : SequenceState) :
    (r.applied.foldl UpdateGroup.advance s).pts = (r.common.applied.foldl Track.common.advance s).pts := by
  rw [advance_applied, foldl_keeps (f := DatedGroup.advance) (·.pts) fun _ _ => rfl,
    foldl_keeps (f := Track.numbered.advance) (·.pts) fun _ _ => rfl,
    foldl_keeps (f := Track.secret.advance) (·.pts) fun _ _ => rfl]

lemma qts_applied (r : GroupReplay) (s : SequenceState) :
    (r.applied.foldl UpdateGroup.advance s).qts = (r.secret.applied.foldl Track.secret.advance s).qts := by
  rw [advance_applied, foldl_keeps (f := DatedGroup.advance) (·.qts) fun _ _ => rfl,
    foldl_keeps (f := Track.numbered.advance) (·.qts) fun _ _ => rfl]
  exact foldl_congr_key (f := Track.secret.advance) (·.qts) (fun _ _ _ _ => rfl) _ (Track.qts_common _ s)

lemma seq_applied (r : GroupReplay) (s : SequenceState) :
    (r.applied.foldl UpdateGroup.advance s).seq = (r.numbered.applied.foldl Track.numbered.advance s).seq := by
  rw [advance_applied, foldl_keeps (f := DatedGroup.advance) (·.seq) fun _ _ => rfl]
  refine foldl_congr_key (f := Track.numbered.advance) (·.seq) (fun b b' g hb => ?_) _
    ((Track.seq_secret _ _).trans (Track.seq_common _ s))
  have hb' : b.seq = b'.seq := hb
  simp only [Track.numbered, hb']

variable {b : Batch} {s : SequenceState} {t t' : Transaction} {r : GroupReplay}

/-- A replay applies the groups of one counter after the other and then the dated ones, and writes the state in the
end. -/
lemma steps_of_replay (h : b.replay s t = .ok (r, t')) :
    b.Judges s r ∧ ∃ pc ps pn p q sn, Track.common.applyGroups ⟨t, .empty⟩ r.common.applied = .ok pc ∧
      Track.secret.applyGroups pc r.secret.applied = .ok ps ∧
      Track.numbered.applyGroups ps r.numbered.applied = .ok pn ∧
      r.dated.foldlM DatedGroup.apply (sn, pn) = .ok (r.applied.foldl UpdateGroup.advance s, p) ∧
      p.setState s (r.applied.foldl UpdateGroup.advance s) = .ok q ∧ q.events = r.events ∧ q.txn = t' := by
  simp only [replay] at h
  split at h
  · next hf =>
    obtain ⟨wc, hc, h⟩ := bind_ok h
    obtain ⟨ws, hs, h⟩ := bind_ok h
    obtain ⟨wn, hn, h⟩ := bind_ok h
    obtain ⟨⟨state, p⟩, hd, h⟩ := bind_ok h
    obtain ⟨q, hq, h⟩ := bind_ok h
    cases h
    obtain ⟨jc, sc, ac⟩ := Track.judges_of_walk hc
    obtain ⟨js, ss, as⟩ := Track.judges_of_walk hs
    obtain ⟨jn, sn, an⟩ := Track.judges_of_walk hn
    have hqts : wc.state.qts = s.qts := sc ▸ Track.qts_common _ s
    have hseq : ws.state.seq = s.seq := by rw [ss, Track.seq_secret, sc, Track.seq_common]
    have hstate := (DatedGroup.of_applyAll hd).1
    rw [sn, ss, sc, ← advance_applied ⟨q.events, b.tooLong, wc.verdicts, ws.verdicts, wn.verdicts, b.dated⟩] at hstate
    subst hstate
    refine ⟨⟨by simpa using hf, jc, Track.secret_congr js hqts, Track.numbered_congr jn hseq, rfl, rfl⟩, ?_⟩
    exact ⟨_, _, _, p, q, _, ac, as, an, hd, hq, rfl, rfl⟩
  · cases h

theorem judges_of_replay (h : b.replay s t = .ok (r, t')) (ht : t.account.state = some s) :
    b.Judges s r ∧ t'.account =
      (r.applied.foldl Account.take t.account).write (.setState (r.applied.foldl UpdateGroup.advance s)) := by
  obtain ⟨hj, pc, ps, pn, p, q, sn, hc, hs, hn, hd, hq, -, rfl⟩ := steps_of_replay h
  have had := (DatedGroup.of_applyAll hd).2
  rw [Track.account_of_applyGroups hn, Track.account_of_applyGroups hs, Track.account_of_applyGroups hc] at had
  have ha : p.txn.account = r.applied.foldl Account.take t.account := by
    rw [foldl_applied]
    exact had
  have hstate : p.txn.account.state = some s := by
    rw [ha, foldl_keeps (f := Account.take) (·.state) fun a g => Account.state_applyAll a g.updates, ht]
  refine ⟨hj, ?_⟩
  rw [Progress.account_of_setState hq hstate, ha]
  rfl

lemma replay_of_steps {pc ps pn p q : Progress} {state : SequenceState} (h : b.Judges s r)
    (hc : Track.common.applyGroups ⟨t, .empty⟩ r.common.applied = .ok pc)
    (hs : Track.secret.applyGroups pc r.secret.applied = .ok ps)
    (hn : Track.numbered.applyGroups ps r.numbered.applied = .ok pn)
    (hd : r.dated.foldlM DatedGroup.apply (r.numbered.applied.foldl Track.numbered.advance
      (r.secret.applied.foldl Track.secret.advance (r.common.applied.foldl Track.common.advance s)), pn) =
        .ok (state, p))
    (hq : p.setState s state = .ok q) : b.replay s t = .ok ({ r with events := q.events }, q.txn) := by
  let sc := r.common.applied.foldl Track.common.advance s
  let ss := r.secret.applied.foldl Track.secret.advance sc
  have js : Track.secret.Judges sc b.secret r.secret := Track.secret_congr h.secret (Track.qts_common _ s).symm
  have jn : Track.numbered.Judges ss b.numbered r.numbered :=
    Track.numbered_congr h.numbered ((Track.seq_secret _ sc).trans (Track.seq_common _ s)).symm
  obtain ⟨events, shouldPoll, common, secret, numbered, dated⟩ := r
  obtain rfl : dated = b.dated := h.dated
  obtain rfl : shouldPoll = b.tooLong := h.shouldPoll
  simp only [replay]
  rw [if_pos (by simpa using h.fits)]
  exact bind_of_ok (Track.walk_of_judges h.common hc) <| bind_of_ok (Track.walk_of_judges js hs) <|
    bind_of_ok (Track.walk_of_judges jn hn) <| bind_of_ok hd <| bind_of_ok hq rfl

theorem replay_of_judges (h : b.Judges s r) (ht : t.refusal = none) :
    ∃ events t', b.replay s t = .ok ({ r with events }, t') := by
  obtain ⟨pc, hc, fc⟩ := Track.common.applyGroups_free r.common.applied (p := ⟨t, .empty⟩) ht
  obtain ⟨ps, hs, fs⟩ := Track.secret.applyGroups_free r.secret.applied fc
  obtain ⟨pn, hn, fn⟩ := Track.numbered.applyGroups_free r.numbered.applied fs
  obtain ⟨⟨state, p⟩, hd, fd⟩ := DatedGroup.applyAll_free r.dated _ fn
  obtain ⟨q, hq⟩ := Progress.setState_free fd s state
  exact ⟨q.events, q.txn, replay_of_steps h hc hs hn hd hq⟩

end Batch

def GroupReplay.skipped (r : GroupReplay) : List UpdateGroup :=
  r.common.skipped.map .common ++ r.secret.skipped.map .secret ++ r.numbered.skipped.map .numbered

lemma Track.Judges.perm {γ : Type} {t : Track γ} {s : SequenceState} {gs : List γ} {v : Verdicts γ}
    (h : t.Judges s gs v) : gs.Perm (v.applied ++ v.skipped ++ v.held) := by
  induction h with
  | done => exact .nil
  | apply _ _ ih => exact ih.cons _
  | skip _ _ _ ih =>
    rw [List.append_assoc, List.cons_append]
    refine (ih.cons _).trans ?_
    rw [List.append_assoc]
    exact List.perm_middle.symm
  | hold => exact .refl _

namespace Batch

lemma perm_kinds {gs : List UpdateGroup} (h : .tooLong ∉ gs) :
    gs.Perm ((gs.filterMap UpdateGroup.common?).map .common ++ (gs.filterMap UpdateGroup.secret?).map .secret ++
      (gs.filterMap UpdateGroup.numbered?).map .numbered ++ (gs.filterMap UpdateGroup.dated?).map .dated) := by
  induction gs with
  | nil => exact .nil
  | cons g gs ih =>
    rw [List.mem_cons, not_or] at h
    obtain ⟨hg, h⟩ := h
    refine ((ih h).cons g).trans ?_
    cases g with
    | common g => exact .refl _
    | tooLong => exact absurd rfl hg
    | _ =>
      refine List.perm_iff_count.mpr fun x => ?_
      simp only [List.filterMap_cons, UpdateGroup.common?, UpdateGroup.secret?, UpdateGroup.numbered?,
        UpdateGroup.dated?, List.map_cons, List.count_cons, List.count_append]
      omega

lemma perm_ofGroups {gs : List UpdateGroup} (h : .tooLong ∉ gs) :
    gs.Perm ((ofGroups gs).common.map .common ++ (ofGroups gs).secret.map .secret ++
      (ofGroups gs).numbered.map .numbered ++ (ofGroups gs).dated.map .dated) := by
  have hc := (StableSort.sort_perm CommonGroup.start (gs.filterMap UpdateGroup.common?)).map UpdateGroup.common
  have hs := (StableSort.sort_perm (·.qts.toInt) (gs.filterMap UpdateGroup.secret?)).map UpdateGroup.secret
  have hn := (StableSort.sort_perm (·.first.toInt) (gs.filterMap UpdateGroup.numbered?)).map UpdateGroup.numbered
  exact (perm_kinds h).trans (((hc.append hs).append hn).append_right _).symm

lemma perm_of_judges {gs : List UpdateGroup} (h : (ofGroups gs).Judges s r) (hp : r.shouldPoll = false) :
    gs.Perm (r.applied ++ r.skipped ++ r.remaining) := by
  have ht : .tooLong ∉ gs := by
    have := h.shouldPoll
    simpa [ofGroups, hp] using this.symm
  refine (perm_ofGroups ht).trans ?_
  have hc := h.common.perm.map UpdateGroup.common
  have hs := h.secret.perm.map UpdateGroup.secret
  have hn := h.numbered.perm.map UpdateGroup.numbered
  rw [← h.dated]
  refine (((hc.append hs).append hn).append_right _).trans ?_
  simp only [GroupReplay.applied, GroupReplay.skipped, GroupReplay.remaining, List.map_append]
  refine List.perm_iff_count.mpr fun g => ?_
  simp only [List.count_append]
  omega

end Batch

lemma replay_of_replayGroups {s : SequenceState} {gs : List UpdateGroup} {t : Transaction}
    {x : GroupReplay × Transaction} (h : replayGroups s gs t = .ok x) :
    t.account.state = some s ∧ (Batch.ofGroups gs).replay s t = .ok x := by
  simp only [replayGroups] at h
  split at h
  · next hs => exact ⟨hs, h⟩
  · cases h

lemma perm_of_replayGroups {s : SequenceState} {gs : List UpdateGroup} {t t' : Transaction} {r : GroupReplay}
    (h : replayGroups s gs t = .ok (r, t')) (hp : r.shouldPoll = false) :
    gs.Perm (r.applied ++ r.skipped ++ r.remaining) := by
  obtain ⟨hs, h⟩ := replay_of_replayGroups h
  exact Batch.perm_of_judges (Batch.judges_of_replay h hs).1 hp

end AccountReplica
