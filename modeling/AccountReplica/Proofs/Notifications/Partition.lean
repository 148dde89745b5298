import AccountReplica.Notification
import Mathlib.Data.List.Induction
import Mathlib.Data.List.Perm.Basic
import Mathlib.Tactic.Common

/-! Every message that is to be announced belongs to exactly one notification. -/

namespace AccountReplica

def Account.Eligible (a : Account) (now : Int32) (id : MessageId) : Prop :=
  ∃ m, a.message? id = some m ∧ m.incoming = true ∧ a.maxRead id.peer < id.number ∧
    (a.settingsOf id.peer).isMuted now = false

structure Occurrence where
  place : Nat
  id : MessageId
  message : Message
deriving DecidableEq

namespace Occurrence

variable {o o' o'' : Occurrence}

def SameAlbum (o o' : Occurrence) : Prop :=
  o.id.peer = o'.id.peer ∧ o.message.album.isSome ∧ o.message.album = o'.message.album

def SameSource (o o' : Occurrence) : Prop :=
  o.id.peer = o'.id.peer ∧ o.message.album = none ∧ o'.message.album = none ∧
    o.message.forwardedFrom.isSome ∧ o.message.forwardedFrom = o'.message.forwardedFrom

instance : DecidableRel SameAlbum := fun _ _ => inferInstanceAs (Decidable (_ ∧ _))
instance : DecidableRel SameSource := fun _ _ => inferInstanceAs (Decidable (_ ∧ _))

end Occurrence

def Account.occurrences (a : Account) (ids : List MessageId) (now : Int32) : List Occurrence :=
  (ids.filterMap (a.announced? now)).zipIdx.map fun x => ⟨x.2, x.1.1, x.1.2⟩

structure Bundle where
  first : Occurrence
  later : List Occurrence

namespace Bundle

def all (b : Bundle) : List Occurrence :=
  b.first :: b.later

def notification (a : Account) (b : Bundle) : Notification :=
  ⟨b.first.id.peer, b.first.message, b.all.map (·.id), (a.settingsOf b.first.id.peer).silent⟩

def append (b : Bundle) (o : Occurrence) : Bundle :=
  { b with later := b.later ++ [o] }

inductive Adds (o : Occurrence) : List Bundle → List Bundle → Prop
  | joined (newer : List Bundle) (b : Bundle) (older : List Bundle)
      (h : b.first.SameAlbum o ∨ newer = [] ∧ b.first.SameSource o) :
      Adds o (newer ++ b :: older) (newer ++ b.append o :: older)
  | started (bs : List Bundle) (ha : ∀ b ∈ bs, ¬b.first.SameAlbum o) (hs : ∀ b ∈ bs.head?, ¬b.first.SameSource o) :
      Adds o bs (⟨o, []⟩ :: bs)

end Bundle

namespace Notification

lemma appendFirst_cases (test : Notification → Bool) (id : MessageId) (ns : List Notification) :
    (∃ newer n older, ns = newer ++ n :: older ∧ test n = true ∧
        appendFirst test id ns = some (newer ++ n.append id :: older)) ∨
      (∀ n ∈ ns, test n = false) ∧ appendFirst test id ns = none := by
  induction ns with
  | nil => exact .inr ⟨List.forall_mem_nil _, rfl⟩
  | cons n ns ih =>
    simp only [appendFirst]
    cases ht : test n with
    | true => exact .inl ⟨[], n, ns, rfl, ht, rfl⟩
    | false =>
      rcases ih with ⟨newer, n', older, rfl, ht', he⟩ | ⟨hn, he⟩
      · exact .inl ⟨n :: newer, n', older, rfl, ht', by rw [he]; rfl⟩
      · exact .inr ⟨List.forall_mem_cons.mpr ⟨ht, hn⟩, by rw [he]; rfl⟩

end Notification

namespace Bundle

variable {a : Account} {o : Occurrence} {b : Bundle} {bs : List Bundle}

lemma append_notification (a : Account) (b : Bundle) (o : Occurrence) :
    (b.append o).notification a = (b.notification a).append o.id := by
  simp [notification, append, all, Notification.append]

lemma takesAlbum_iff {album : Int64} (ho : o.message.album = some album) :
    (b.notification a).takesAlbum o.id.peer album = true ↔ b.first.SameAlbum o := by
  simp only [Notification.takesAlbum, Bool.and_eq_true, decide_eq_true_eq, Occurrence.SameAlbum, ho]
  constructor
  · rintro ⟨hp, ha⟩
    exact ⟨hp, Option.isSome_of_eq_some ha, ha⟩
  · rintro ⟨hp, -, ha⟩
    exact ⟨hp, ha⟩

lemma takesForward_iff (ho : o.message.album = none) :
    (b.notification a).takesForward o.id.peer o.message = true ↔ b.first.SameSource o := by
  simp only [Notification.takesForward, Bool.and_eq_true, decide_eq_true_eq, Occurrence.SameSource, ho,
    Option.isNone_iff_eq_none, true_and, and_assoc]
  rfl

lemma not_sameAlbum (ho : o.message.album = none) : ¬b.first.SameAlbum o := by
  rintro ⟨-, hs, he⟩
  rw [he, ho] at hs
  cases hs

lemma adds_add (a : Account) (o : Occurrence) (bs : List Bundle) :
    ∃ bs', Adds o bs bs' ∧
      Notification.add a (bs.map (notification a)) (o.id, o.message) = bs'.map (notification a) := by
  cases ho : o.message.album with
  | some album =>
    rcases Notification.appendFirst_cases (·.takesAlbum o.id.peer album) o.id (bs.map (notification a)) with
      ⟨newer, n, older, hb, ht, he⟩ | ⟨hn, he⟩
    · obtain ⟨newer, rest, rfl, rfl, hr⟩ := List.map_eq_append_iff.mp hb
      obtain ⟨b, older, rfl, rfl, rfl⟩ := List.map_eq_cons_iff.mp hr
      refine ⟨_, .joined newer b older (.inl ((takesAlbum_iff ho).mp ht)), ?_⟩
      simp only [Notification.add, Notification.join?, ho, he]
      simp [append_notification]
    · refine ⟨_, .started bs ?_ ?_, ?_⟩
      · intro b hb hs
        have := hn _ (List.mem_map_of_mem hb)
        rw [(takesAlbum_iff ho).mpr hs] at this
        cases this
      · intro b hb hs
        rw [hs.2.2.1] at ho
        cases ho
      · simp only [Notification.add, Notification.join?, ho, he, Option.getD_none]
        rfl
  | none =>
    cases bs with
    | nil =>
      refine ⟨_, .started [] (List.forall_mem_nil _) (by simp), ?_⟩
      simp only [Notification.add, Notification.join?, ho, List.map_nil, Option.getD_none]
      rfl
    | cons b older =>
      by_cases hs : b.first.SameSource o
      · refine ⟨_, .joined [] b older (.inr ⟨rfl, hs⟩), ?_⟩
        simp only [Notification.add, Notification.join?, ho, List.map_cons, (takesForward_iff ho).mpr hs, if_true,
          Option.getD_some, append_notification, List.nil_append]
      · refine ⟨_, .started (b :: older) (fun b' _ => not_sameAlbum ho) (by simpa using hs), ?_⟩
        have hf := mt (takesForward_iff (a := a) ho).mp hs
        simp only [Notification.add, Notification.join?, ho, List.map_cons, if_neg hf, Option.getD_none]
        rfl

inductive Builds : List Occurrence → List Bundle → Prop
  | nil : Builds [] []
  | concat {os : List Occurrence} {bs bs' : List Bundle} {o : Occurrence} (h : Builds os bs) (ha : Adds o bs bs') :
      Builds (os ++ [o]) bs'

lemma exists_builds (a : Account) (os : List Occurrence) :
    ∃ bs, Builds os bs ∧
      os.foldl (fun ns o => Notification.add a ns (o.id, o.message)) [] = bs.map (notification a) := by
  induction os using List.reverseRecOn with
  | nil => exact ⟨[], .nil, rfl⟩
  | append_singleton os o ih =>
    obtain ⟨bs, hb, he⟩ := ih
    obtain ⟨bs', ha, he'⟩ := adds_add a o bs
    refine ⟨bs', hb.concat ha, ?_⟩
    rw [List.foldl_append, he]
    exact he'

/-- The bundles, listed from the newest to the oldest, hold these occurrences and no others. -/
structure Holds (bs : List Bundle) (os : List Occurrence) : Prop where
  occurrences : (bs.flatMap (·.all)).Perm os
  ascending : ∀ b ∈ bs, b.all.Pairwise (·.place < ·.place)
  chat : ∀ b ∈ bs, ∀ o ∈ b.all, o.id.peer = b.first.id.peer
  order : (bs.map (·.first)).Pairwise fun o o' => o'.place < o.place

lemma all_append (b : Bundle) (o : Occurrence) : (b.append o).all = b.all ++ [o] := rfl

lemma Holds.mem {os : List Occurrence} (h : Holds bs os) (hb : b ∈ bs) (ho : o ∈ b.all) : o ∈ os :=
  h.occurrences.subset (List.mem_flatMap.mpr ⟨b, hb, ho⟩)

lemma Adds.mem_cases {bs' : List Bundle} (ha : Adds o bs bs') (hb : b ∈ bs') :
    b ∈ bs ∨ (∃ b' ∈ bs, b = b'.append o ∧ b'.first.id.peer = o.id.peer) ∨ b = ⟨o, []⟩ := by
  cases ha with
  | joined newer b' older hj =>
    simp only [List.mem_append, List.mem_cons] at hb ⊢
    rcases hb with hb | rfl | hb
    · exact .inl (.inl hb)
    · exact .inr (.inl ⟨b', .inr (.inl rfl), rfl, hj.elim And.left fun hj => hj.2.1⟩)
    · exact .inl (.inr (.inr hb))
  | started =>
    rcases List.mem_cons.mp hb with rfl | hb
    · exact .inr (.inr rfl)
    · exact .inl hb

lemma Adds.perm {bs' : List Bundle} (ha : Adds o bs bs') :
    (bs'.flatMap (·.all)).Perm (bs.flatMap (·.all) ++ [o]) := by
  cases ha with
  | joined newer b older =>
    simp only [List.flatMap_append, List.flatMap_cons, all_append, List.append_assoc]
    exact (List.perm_append_comm.append_left b.all).append_left _
  | started => exact (List.perm_append_singleton o _).symm

lemma Adds.holds {os : List Occurrence} {bs' : List Bundle} (ha : Adds o bs bs') (h : Holds bs os)
    (hs : ∀ o' ∈ os, o'.place < o.place) : Holds bs' (os ++ [o]) where
  occurrences := ha.perm.trans (h.occurrences.append_right [o])
  ascending b hb := by
    rcases ha.mem_cases hb with hm | ⟨b', hm, rfl, -⟩ | rfl
    · exact h.ascending b hm
    · rw [all_append, List.pairwise_append]
      refine ⟨h.ascending b' hm, List.pairwise_singleton _ _, ?_⟩
      intro o₁ h₁ o₂ h₂
      rw [List.mem_singleton.mp h₂]
      exact hs o₁ (h.mem hm h₁)
    · exact List.pairwise_singleton _ _
  chat b hb o' ho := by
    rcases ha.mem_cases hb with hm | ⟨b', hm, rfl, hp⟩ | rfl
    · exact h.chat b hm o' ho
    · rw [all_append] at ho
      rcases List.mem_append.mp ho with ho | ho
      · exact h.chat b' hm o' ho
      · rw [List.mem_singleton.mp ho]
        exact hp.symm
    · rw [List.mem_singleton.mp ho]
  order := by
    cases ha with
    | joined newer b older => simpa [append] using h.order
    | started =>
      rw [List.map_cons, List.pairwise_cons]
      refine ⟨?_, h.order⟩
      intro o' ho
      obtain ⟨b, hb, rfl⟩ := List.mem_map.mp ho
      exact hs _ (h.mem hb List.mem_cons_self)

lemma Builds.holds {os : List Occurrence} (hb : Builds os bs) (hs : os.Pairwise (·.place < ·.place)) :
    Holds bs os := by
  induction hb with
  | nil => exact ⟨.nil, List.forall_mem_nil _, List.forall_mem_nil _, .nil⟩
  | @concat os bs bs' o hb ha ih =>
    obtain ⟨hs, -, ho⟩ := List.pairwise_append.mp hs
    exact ha.holds (ih hs) fun o' h => ho o' h o (List.mem_singleton_self o)

end Bundle

namespace Account

variable {a : Account} {now : Int32} {ids : List MessageId}

lemma announced?_eq_some_iff {id : MessageId} {x : MessageId × Message} : a.announced? now id = some x ↔
    x.1 = id ∧ a.message? id = some x.2 ∧ x.2.incoming = true ∧ a.maxRead id.peer < id.number ∧
      (a.settingsOf id.peer).isMuted now = false := by
  obtain ⟨id', m'⟩ := x
  simp only [announced?]
  cases a.message? id with
  | none => simp
  | some m =>
    simp only [Option.ite_none_right_eq_some, Bool.and_eq_true, decide_eq_true_eq, Bool.not_eq_true', Option.some.injEq,
      Prod.mk.injEq]
    constructor
    · rintro ⟨⟨⟨hi, hr⟩, hm⟩, rfl, rfl⟩
      exact ⟨rfl, rfl, hi, hr, hm⟩
    · rintro ⟨rfl, rfl, hi, hr, hm⟩
      exact ⟨⟨⟨hi, hr⟩, hm⟩, rfl, rfl⟩

lemma isSome_announced? {id : MessageId} : (a.announced? now id).isSome ↔ a.Eligible now id := by
  rw [Option.isSome_iff_exists]
  constructor
  · rintro ⟨⟨id', m⟩, hx⟩
    exact ⟨m, (announced?_eq_some_iff.mp hx).2⟩
  · rintro ⟨m, h⟩
    exact ⟨(id, m), announced?_eq_some_iff.mpr ⟨rfl, h⟩⟩

instance (id : MessageId) : Decidable (a.Eligible now id) :=
  decidable_of_iff _ isSome_announced?

lemma map_occurrences :
    (a.occurrences ids now).map (fun o => (o.id, o.message)) = ids.filterMap (a.announced? now) := by
  rw [occurrences, List.map_map]
  exact List.zipIdx_map_fst 0 _

lemma id_occurrences : (a.occurrences ids now).map (·.id) = ids.filter (a.Eligible now ·) := by
  have h : (a.occurrences ids now).map (·.id) = (ids.filterMap (a.announced? now)).map (·.1) := by
    rw [← map_occurrences, List.map_map]
    rfl
  rw [h]
  clear h
  induction ids with
  | nil => rfl
  | cons id ids ih =>
    cases hx : a.announced? now id with
    | none =>
      have hn : ¬a.Eligible now id := by simp [← isSome_announced?, hx]
      rw [List.filterMap_cons_none hx, ih, List.filter_cons_of_neg (by simpa using hn)]
    | some x =>
      have he : a.Eligible now id := by simp [← isSome_announced?, hx]
      rw [List.filterMap_cons_some hx, List.map_cons, ih, List.filter_cons_of_pos (by simpa using he),
        (announced?_eq_some_iff.mp hx).1]

lemma message_occurrences {o : Occurrence} (h : o ∈ a.occurrences ids now) : a.message? o.id = some o.message := by
  have hm := List.mem_map_of_mem (f := fun o : Occurrence => (o.id, o.message)) h
  rw [map_occurrences] at hm
  obtain ⟨id, -, hx⟩ := List.mem_filterMap.mp hm
  obtain ⟨rfl, hs, -⟩ := announced?_eq_some_iff.mp hx
  exact hs

lemma place_occurrences : (a.occurrences ids now).map (·.place) = List.range (a.occurrences ids now).length := by
  rw [occurrences, List.map_map, List.length_map, List.length_zipIdx, List.range_eq_range']
  exact List.zipIdx_map_snd 0 _

lemma ascending_occurrences : (a.occurrences ids now).Pairwise (·.place < ·.place) := by
  have h := List.pairwise_lt_range (n := (a.occurrences ids now).length)
  rwa [← place_occurrences, List.pairwise_map] at h

end Account

namespace Notification

structure Partition (a : Account) (ids : List MessageId) (now : Int32) (bs : List Bundle) : Prop where
  result : resolve a ids now = bs.map (Bundle.notification a)
  occurrences : (bs.flatMap (·.all)).Perm (a.occurrences ids now)
  ascending : ∀ b ∈ bs, b.all.Pairwise (·.place < ·.place)
  chat : ∀ b ∈ bs, ∀ o ∈ b.all, o.id.peer = b.first.id.peer
  order : (bs.map (·.first)).Pairwise (·.place < ·.place)

variable {a : Account} {ids : List MessageId} {now : Int32} {bs : List Bundle}

lemma exists_partition (a : Account) (ids : List MessageId) (now : Int32) :
    ∃ bs, Bundle.Builds (a.occurrences ids now) bs ∧ Partition a ids now bs.reverse := by
  obtain ⟨bs, hb, hr⟩ := Bundle.exists_builds a (a.occurrences ids now)
  have h := hb.holds Account.ascending_occurrences
  refine ⟨bs, hb, ?_, ?_, ?_, ?_, ?_⟩
  · rw [resolve, ← Account.map_occurrences, List.foldl_map, hr, List.map_reverse]
  · exact ((List.reverse_perm bs).flatMap_right _).trans h.occurrences
  · exact fun b hm => h.ascending b (List.mem_reverse.mp hm)
  · exact fun b hm => h.chat b (List.mem_reverse.mp hm)
  · rw [List.map_reverse, List.pairwise_reverse]
    exact h.order

/-- Each message that is to be announced is in one notification, in order of arrival and with messages of its chat only.
The notification shows the first of them, and stands where that one came. -/
theorem partitioned_resolve (a : Account) (ids : List MessageId) (now : Int32) :
    (a.occurrences ids now).map (·.id) = ids.filter (a.Eligible now ·) ∧
      (a.occurrences ids now).map (·.place) = List.range (a.occurrences ids now).length ∧
      (∀ o ∈ a.occurrences ids now, a.message? o.id = some o.message) ∧ ∃ bs, Partition a ids now bs := by
  obtain ⟨bs, -, h⟩ := exists_partition a ids now
  exact ⟨Account.id_occurrences, Account.place_occurrences, fun _ => Account.message_occurrences, bs.reverse, h⟩

end Notification

end AccountReplica
