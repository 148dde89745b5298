import AccountReplica.Container
import Mathlib.Data.List.Basic

/-! What becomes of the updates of a pushed container: each one that a counter stamps is dealt out to a group of its
own, in order, and the others stay together behind them. -/

namespace AccountReplica

namespace Update

inductive Stamps : Update → UpdateGroup → Prop
  | newMessage (message : Message) (pts count : Int32) :
      Stamps (.newMessage message pts count) (.common ⟨[.newMessage message pts count], pts, count⟩)
  | newSecretMessage (message : Message) (qts : Int32) :
      Stamps (.newSecretMessage message qts) (.secret ⟨[.newSecretMessage message qts], qts⟩)
  | deleteMessages (ids : List MessageId) (pts count : Int32) :
      Stamps (.deleteMessages ids pts count) (.common ⟨[.deleteMessages ids pts count], pts, count⟩)
  | readInbox (chat : PeerId) (upTo pts count : Int32) :
      Stamps (.readInbox chat upTo pts count) (.common ⟨[.readInbox chat upTo pts count], pts, count⟩)
  | readOutbox (chat : PeerId) (upTo pts count : Int32) :
      Stamps (.readOutbox chat upTo pts count) (.common ⟨[.readOutbox chat upTo pts count], pts, count⟩)
  | webpage (page : Webpage) (pts count : Int32) :
      Stamps (.webpage page pts count) (.common ⟨[.webpage page pts count], pts, count⟩)

def Loose (u : Update) : Prop :=
  ∀ g, ¬u.Stamps g

lemma ofStamped?_eq_some {u : Update} {g : UpdateGroup} : UpdateGroup.ofStamped? u = some g ↔ u.Stamps g := by
  constructor
  · intro h
    cases u <;> cases h <;> constructor
  · intro h
    cases h <;> rfl

lemma ofStamped?_eq_none {u : Update} : UpdateGroup.ofStamped? u = none ↔ u.Loose := by
  rw [Option.eq_none_iff_forall_ne_some]
  exact forall_congr' fun g => not_congr ofStamped?_eq_some

lemma unsequenced_iff {u : Update} : u.sequencing = .unsequenced ↔ u.Loose := by
  rw [← ofStamped?_eq_none]
  cases u <;> simp [sequencing, UpdateGroup.ofStamped?]

instance : DecidablePred Loose :=
  fun _ => decidable_of_iff _ unsequenced_iff

lemma Stamps.updates {u : Update} {g : UpdateGroup} (h : u.Stamps g) : g.updates = [u] := by
  cases h <;> rfl

end Update

/-- The updates were dealt out one after the other: a stamped one to the next group, a loose one to the rest. -/
inductive Dealt : List Update → List UpdateGroup → List Update → Prop
  | nil : Dealt [] [] []
  | stamped {u : Update} {g : UpdateGroup} {us : List Update} {gs : List UpdateGroup} {rest : List Update}
      (hu : u.Stamps g) (h : Dealt us gs rest) : Dealt (u :: us) (g :: gs) rest
  | loose {u : Update} {us : List Update} {gs : List UpdateGroup} {rest : List Update} (hu : u.Loose)
      (h : Dealt us gs rest) : Dealt (u :: us) gs (u :: rest)

namespace Dealt

variable {us rest : List Update} {gs : List UpdateGroup}

lemma of_split (us : List Update) :
    Dealt us (us.filterMap UpdateGroup.ofStamped?) (us.filter (·.sequencing = .unsequenced)) := by
  induction us with
  | nil => exact .nil
  | cons u us ih =>
    cases hs : UpdateGroup.ofStamped? u with
    | some g =>
      have hu := Update.ofStamped?_eq_some.mp hs
      have hn : ¬u.sequencing = .unsequenced := fun h => Update.unsequenced_iff.mp h g hu
      rw [List.filterMap_cons_some hs, List.filter_cons_of_neg (by simpa using hn)]
      exact .stamped hu ih
    | none =>
      have hu := Update.ofStamped?_eq_none.mp hs
      rw [List.filterMap_cons_none hs, List.filter_cons_of_pos (by simpa using Update.unsequenced_iff.mpr hu)]
      exact .loose hu ih

lemma unique (h : Dealt us gs rest) {gs' : List UpdateGroup} {rest' : List Update} (h' : Dealt us gs' rest') :
    gs' = gs ∧ rest' = rest := by
  induction h generalizing gs' rest' with
  | nil =>
    cases h'
    exact ⟨rfl, rfl⟩
  | @stamped u g us gs rest hu _ ih =>
    cases h' with
    | stamped hu' h' =>
      obtain ⟨rfl, rfl⟩ := ih h'
      have hg := (Update.ofStamped?_eq_some.mpr hu').symm.trans (Update.ofStamped?_eq_some.mpr hu)
      exact ⟨by rw [Option.some.inj hg], rfl⟩
    | loose hu' => exact absurd hu (hu' g)
  | @loose u us gs rest hu _ ih =>
    cases h' with
    | stamped hu' => exact absurd hu' (hu _)
    | loose _ h' =>
      obtain ⟨rfl, rfl⟩ := ih h'
      exact ⟨rfl, rfl⟩

lemma rest_eq (h : Dealt us gs rest) : rest = us.filter (·.Loose) := by
  induction h with
  | nil => rfl
  | stamped hu _ ih => rw [ih, List.filter_cons_of_neg (by simpa using fun hl => hl _ hu)]
  | loose hu _ ih => rw [ih, List.filter_cons_of_pos (by simpa using hu)]

lemma updates_eq (h : Dealt us gs rest) : gs.flatMap (·.updates) = us.filter (!·.Loose) := by
  induction h with
  | nil => rfl
  | stamped hu _ ih =>
    rw [List.flatMap_cons, ih, hu.updates, List.filter_cons_of_pos (by simpa using fun hl => hl _ hu)]
    rfl
  | loose hu _ ih => rw [ih, List.filter_cons_of_neg (by simpa using hu)]

end Dealt

namespace Container

/-- What a container says of all its updates together: the first and the last number that it covers, 0 as the last
standing for none, and the time. -/
structure Envelope where
  first : Int32
  last : Int32
  date : Int32

inductive Envelope.Closes (e : Envelope) : List Update → List UpdateGroup → Prop
  | numbered (rest : List Update) (h : e.last ≠ 0) : e.Closes rest [.numbered ⟨rest, e.first, e.last, e.date⟩]
  | dated (rest : List Update) (h : e.last = 0) (hr : rest ≠ []) : e.Closes rest [.dated ⟨rest, e.date⟩]
  | nothing (h : e.last = 0) : e.Closes [] []

def Envelope.Groups (e : Envelope) (us : List Update) (gs : List UpdateGroup) : Prop :=
  ∃ own rest closing, Dealt us own rest ∧ e.Closes rest closing ∧ gs = own ++ closing

inductive Grouped : Container → List UpdateGroup → Prop
  | short (u : Update) (date : Int32) {gs : List UpdateGroup} (h : Envelope.Groups ⟨0, 0, date⟩ [u] gs) :
      Grouped (.short u date) gs
  | combined (us : List Update) (first last date : Int32) {gs : List UpdateGroup}
      (h : Envelope.Groups ⟨first, last, date⟩ us gs) : Grouped (.combined us first last date) gs
  | batch (us : List Update) (seq date : Int32) {gs : List UpdateGroup} (h : Envelope.Groups ⟨seq, seq, date⟩ us gs) :
      Grouped (.batch us seq date) gs

namespace Envelope

variable {e : Envelope} {us rest : List Update} {gs closing : List UpdateGroup}

lemma closes_restGroups (e : Envelope) (rest : List Update) :
    e.Closes rest (restGroups rest e.first e.last e.date) := by
  unfold restGroups
  split
  · next h => exact .numbered rest h
  · next h =>
    rw [not_not] at h
    split
    · next hr =>
      obtain rfl := List.isEmpty_iff.mp hr
      exact .nothing h
    · next hr => exact .dated rest h (by simpa using hr)

lemma Closes.unique (h : e.Closes rest closing) : closing = restGroups rest e.first e.last e.date := by
  cases h with
  | numbered rest h => rw [restGroups, if_pos h]
  | dated rest h hr => rw [restGroups, if_neg (not_not.mpr h), if_neg (by simpa using hr)]
  | nothing h =>
    rw [restGroups, if_neg (not_not.mpr h)]
    rfl

lemma Closes.updates_eq (h : e.Closes rest closing) : closing.flatMap (·.updates) = rest := by
  cases h <;> simp [UpdateGroup.updates]

lemma groups_iff : e.Groups us gs ↔ gs = split us e.first e.last e.date := by
  constructor
  · rintro ⟨own, rest, closing, hd, hc, rfl⟩
    obtain ⟨rfl, rfl⟩ := (Dealt.of_split us).unique hd
    rw [hc.unique, split]
  · rintro rfl
    exact ⟨_, _, _, .of_split us, e.closes_restGroups _, rfl⟩

lemma Groups.updates_eq (h : e.Groups us gs) :
    gs.flatMap (·.updates) = us.filter (!·.Loose) ++ us.filter (·.Loose) := by
  obtain ⟨own, rest, closing, hd, hc, rfl⟩ := h
  rw [List.flatMap_append, hd.updates_eq, hc.updates_eq, hd.rest_eq]

end Envelope

variable {c : Container} {gs : List UpdateGroup}

lemma grouped_iff (hc : c ≠ .tooLong) : c.Grouped gs ↔ gs = c.groups := by
  cases c with
  | tooLong => exact absurd rfl hc
  | short u date =>
    exact ⟨fun | .short _ _ h => Envelope.groups_iff.mp h, fun h => .short u date (Envelope.groups_iff.mpr h)⟩
  | combined us first last date =>
    exact ⟨fun | .combined _ _ _ _ h => Envelope.groups_iff.mp h,
      fun h => .combined us first last date (Envelope.groups_iff.mpr h)⟩
  | batch us seq date =>
    exact ⟨fun | .batch _ _ _ h => Envelope.groups_iff.mp h, fun h => .batch us seq date (Envelope.groups_iff.mpr h)⟩

lemma Grouped.updates_eq (h : c.Grouped gs) :
    gs.flatMap (·.updates) = c.updates.filter (!·.Loose) ++ c.updates.filter (·.Loose) := by
  cases h with
  | short u date h => exact h.updates_eq
  | combined us first last date h => exact h.updates_eq
  | batch us seq date h => exact h.updates_eq

/-- A container is grouped in one way. All its updates are in the groups, once each, the stamped ones first and otherwise
in their order. -/
theorem grouped_groups (c : Container) (hc : c ≠ .tooLong) :
    (∀ gs, c.Grouped gs ↔ gs = c.groups) ∧
      c.groups.flatMap (·.updates) = c.updates.filter (!·.Loose) ++ c.updates.filter (·.Loose) ∧
      (c.groups.flatMap (·.updates)).Perm c.updates := by
  have hu := ((grouped_iff hc).mpr rfl).updates_eq
  refine ⟨fun gs => grouped_iff hc, hu, ?_⟩
  rw [hu]
  exact List.perm_append_comm.trans (List.filter_append_perm _ _)

def mixed : Container :=
  .combined
    [.peerChanged ⟨4⟩, .readInbox ⟨1⟩ 7 11 1, .delayNotifications 90,
      .newSecretMessage (.received ⟨⟨2⟩, 8⟩ ⟨2⟩ 60 "hello") 3, .readOutbox ⟨1⟩ 6 12 1]
    3 5 60

theorem grouped_mixed : mixed ≠ .tooLong ∧ mixed.Grouped mixed.groups ∧
    mixed.groups.map (·.updates.length) = [1, 1, 1, 2] ∧ (mixed.groups.flatMap (·.updates)).Perm mixed.updates := by
  have h : mixed ≠ .tooLong := by rintro ⟨⟩
  exact ⟨h, ((grouped_groups mixed h).1 _).mpr rfl, by decide, (grouped_groups mixed h).2.2⟩

end Container

end AccountReplica
