import AccountReplica.Proofs.Notifications.Partition
import Mathlib.Data.List.Chain
import Mathlib.Data.List.Nodup
import Mathlib.Data.List.Perm.Subperm

/-! Which messages share a notification. Parts of an album do wherever they stand; forwards do as long as no other
message starts a notification in between, so that a later part of an album does not interrupt them. -/

namespace AccountReplica

namespace Occurrence

variable {o o' o'' : Occurrence}

/-- The documented rule for an earlier and a later one of the occurrences `E`: they are parts of one album, or forwards
from one source with nothing but such forwards in between. -/
def Collapses (E : List Occurrence) (o o' : Occurrence) : Prop :=
  o.SameAlbum o' ∨ o.SameSource o' ∧ ∀ k ∈ E, o.place < k.place → k.place < o'.place → o.SameSource k

def Late (E : List Occurrence) (k : Occurrence) : Prop :=
  ∃ o ∈ E, o.place < k.place ∧ o.SameAlbum k

def Joins (E : List Occurrence) (o o' : Occurrence) : Prop :=
  o.SameAlbum o' ∨
    o.SameSource o' ∧ ∀ k ∈ E, o.place < k.place → k.place < o'.place → o.SameSource k ∨ k.Late E

def Interrupted (E : List Occurrence) (o o' : Occurrence) : Prop :=
  o.SameSource o' ∧ (∀ k ∈ E, o.place < k.place → k.place < o'.place → o.SameSource k ∨ k.Late E) ∧
    ∃ k ∈ E, o.place < k.place ∧ k.place < o'.place ∧ k.Late E

instance (E : List Occurrence) (k : Occurrence) : Decidable (Late E k) :=
  inferInstanceAs (Decidable (∃ o ∈ E, _))

instance (E : List Occurrence) : DecidableRel (Interrupted E) :=
  fun _ _ => inferInstanceAs (Decidable (_ ∧ (∀ k ∈ E, _) ∧ ∃ k ∈ E, _))

lemma SameAlbum.symm (h : o.SameAlbum o') : o'.SameAlbum o :=
  ⟨h.1.symm, h.2.2 ▸ h.2.1, h.2.2.symm⟩

lemma SameAlbum.trans (h : o.SameAlbum o') (h' : o'.SameAlbum o'') : o.SameAlbum o'' :=
  ⟨h.1.trans h'.1, h.2.1, h.2.2.trans h'.2.2⟩

lemma SameSource.symm (h : o.SameSource o') : o'.SameSource o :=
  ⟨h.1.symm, h.2.2.1, h.2.1, h.2.2.2.2 ▸ h.2.2.2.1, h.2.2.2.2.symm⟩

lemma SameSource.trans (h : o.SameSource o') (h' : o'.SameSource o'') : o.SameSource o'' :=
  ⟨h.1.trans h'.1, h.2.1, h'.2.2.1, h.2.2.2.1, h.2.2.2.2.trans h'.2.2.2.2⟩

lemma SameAlbum.not_sameSource (h : o.SameAlbum o') : ¬o'.SameSource o'' := by
  intro hs
  have ha := h.symm.2.1
  rw [hs.2.1] at ha
  cases ha

lemma Collapses.joins {E : List Occurrence} (h : Collapses E o o') : Joins E o o' :=
  h.imp_right fun h => ⟨h.1, fun k hk hl hr => .inl (h.2 k hk hl hr)⟩

/-- The two rules differ where a run of forwards is interrupted by later parts of albums. -/
lemma Joins.collapses {E : List Occurrence} (h : Joins E o o') (hi : ¬Interrupted E o o') : Collapses E o o' := by
  rcases h with h | ⟨hs, hb⟩
  · exact .inl h
  · refine .inr ⟨hs, fun k hk hl hr => ?_⟩
    rcases hb k hk hl hr with h | h
    · exact h
    · exact absurd ⟨hs, hb, k, hk, hl, hr, h⟩ hi

lemma Interrupted.joins {E : List Occurrence} (h : Interrupted E o o') : Joins E o o' :=
  .inr ⟨h.1, h.2.1⟩

lemma Interrupted.not_collapses {E : List Occurrence} (h : Interrupted E o o') : ¬Collapses E o o' := by
  obtain ⟨hs, -, k, hk, hl, hr, j, -, -, hj⟩ := h
  rintro (ha | ⟨-, hb⟩)
  · exact ha.symm.not_sameSource hs
  · exact hj.not_sameSource (hb k hk hl hr).symm

end Occurrence

namespace Bundle

variable {os : List Occurrence} {bs bs' : List Bundle} {b b' : Bundle} {o o' k : Occurrence}

/-- What holds of the bundles, listed from the newest to the oldest, as they are built: each of them is of one album or
of one source, no two are of one album, no two that follow each other are of one source, and a bundle of forwards
took none of them after another bundle was started. -/
structure Collapsed (bs : List Bundle) : Prop where
  alike : ∀ b ∈ bs, ∀ o ∈ b.later, b.first.SameAlbum o ∨ b.first.SameSource o
  albums : (bs.map (·.first)).Pairwise fun o o' => ¬o'.SameAlbum o
  runs : (bs.map (·.first)).IsChain fun o o' => ¬o'.SameSource o
  unbroken : ∀ b ∈ bs, ∀ o ∈ b.later, b.first.SameSource o →
    ∀ k ∈ bs.map (·.first), k.place ≤ b.first.place ∨ o.place < k.place

lemma mem_later_joined {newer older : List Bundle} (hb : b' ∈ newer ++ b.append o :: older) (ho : o' ∈ b'.later) :
    (∃ c ∈ newer ++ b :: older, c.first = b'.first ∧ o' ∈ c.later) ∨ b'.first = b.first ∧ o' = o := by
  rcases List.mem_append.mp hb with hb | hb
  · exact .inl ⟨b', List.mem_append_left _ hb, rfl, ho⟩
  · rcases List.mem_cons.mp hb with rfl | hb
    · rcases List.mem_append.mp ho with ho | ho
      · exact .inl ⟨b, by simp, rfl, ho⟩
      · exact .inr ⟨rfl, List.mem_singleton.mp ho⟩
    · exact .inl ⟨b', by simp [hb], rfl, ho⟩

lemma Adds.collapsed (ha : Adds o bs bs') (h : Holds bs os) (hs : ∀ o' ∈ os, o'.place < o.place)
    (hc : Collapsed bs) : Collapsed bs' := by
  cases ha with
  | joined newer b older hj =>
    have hf : (newer ++ b.append o :: older).map (·.first) = (newer ++ b :: older).map (·.first) := by simp [append]
    refine ⟨?_, hf ▸ hc.albums, hf ▸ hc.runs, ?_⟩
    · intro b' hb o' ho
      rcases mem_later_joined hb ho with ⟨c, hcm, he, ho⟩ | ⟨he, rfl⟩
      · exact he ▸ hc.alike c hcm o' ho
      · exact he ▸ hj.imp_right And.right
    · intro b' hb o' ho hso k hk
      rw [hf] at hk
      rcases mem_later_joined hb ho with ⟨c, hcm, he, ho⟩ | ⟨he, rfl⟩
      · exact he ▸ hc.unbroken c hcm o' ho (he ▸ hso) k hk
      · -- a forward only joins the newest bundle, so that no other was started since
        rw [he] at hso ⊢
        rcases hj with hj | ⟨rfl, -⟩
        · exact absurd hso hj.symm.not_sameSource
        · rcases List.mem_cons.mp hk with rfl | hk
          · exact .inl (Nat.le_refl _)
          · exact .inl (Nat.le_of_lt ((List.pairwise_cons.mp h.order).1 k hk))
  | started bs ha hr =>
    refine ⟨?_, ?_, ?_, ?_⟩
    · exact List.forall_mem_cons.mpr ⟨List.forall_mem_nil _, hc.alike⟩
    · exact List.pairwise_cons.mpr ⟨by simpa using ha, hc.albums⟩
    · exact List.isChain_cons.mpr ⟨by simpa using hr, hc.runs⟩
    · refine List.forall_mem_cons.mpr ⟨List.forall_mem_nil _, fun b hb o' ho hso k hk => ?_⟩
      rcases List.mem_cons.mp hk with rfl | hk
      · exact .inr (hs o' (h.mem hb (List.mem_cons_of_mem _ ho)))
      · exact hc.unbroken b hb o' ho hso k hk

lemma Builds.collapsed (hb : Builds os bs) (hs : os.Pairwise (·.place < ·.place)) : Collapsed bs := by
  induction hb with
  | nil => exact ⟨List.forall_mem_nil _, .nil, .nil, List.forall_mem_nil _⟩
  | @concat os bs bs' o hb ha ih =>
    obtain ⟨hs, -, ho⟩ := List.pairwise_append.mp hs
    exact ha.collapsed (hb.holds hs) (fun o' h => ho o' h o (List.mem_singleton_self o)) (ih hs)

def Together (bs : List Bundle) (o o' : Occurrence) : Prop :=
  ∃ b ∈ bs, o ∈ b.all ∧ o' ∈ b.all

lemma mem_later (ho : o ∈ b.all) (hl : b.first.place < o.place) : o ∈ b.later := by
  rcases List.mem_cons.mp ho with rfl | ho
  · exact absurd hl (Nat.lt_irrefl _)
  · exact ho

lemma Holds.exists_mem (h : Holds bs os) (ho : o ∈ os) : ∃ b ∈ bs, o ∈ b.all :=
  List.mem_flatMap.mp (h.occurrences.symm.subset ho)

lemma Holds.first_cases (h : Holds bs os) (hb : b ∈ bs) (ho : o ∈ b.all) : o = b.first ∨ b.first.place < o.place := by
  rcases List.mem_cons.mp ho with rfl | ho
  · exact .inl rfl
  · exact .inr ((List.pairwise_cons.mp (h.ascending b hb)).1 o ho)

lemma Holds.first_le (h : Holds bs os) (hb : b ∈ bs) (ho : o ∈ b.all) : b.first.place ≤ o.place := by
  rcases h.first_cases hb ho with rfl | hl
  · exact Nat.le_refl _
  · exact Nat.le_of_lt hl

lemma Holds.places (h : Holds bs os) (hb : b ∈ bs) (hb' : b' ∈ bs) (hne : b ≠ b') :
    b.first.place < b'.first.place ∨ b'.first.place < b.first.place := by
  have ho := (List.pairwise_map.mp h.order).imp (S := fun b b' => b.first.place ≠ b'.first.place) fun h => h.ne'
  have : Std.Symm fun b b' : Bundle => b.first.place ≠ b'.first.place := ⟨fun _ _ => Ne.symm⟩
  exact Nat.lt_or_gt_of_ne (ho.forall hb hb' hne)

lemma Holds.unique (h : Holds bs os) (hn : os.Nodup) (hb : b ∈ bs) (hb' : b' ∈ bs) (ho : o ∈ b.all)
    (ho' : o ∈ b'.all) : b = b' := by
  by_contra hne
  have hd := (List.nodup_flatMap.mp (h.occurrences.nodup_iff.mpr hn)).2
  have : Std.Symm (Function.onFun List.Disjoint Bundle.all) := ⟨fun _ _ h _ h₁ h₂ => h h₂ h₁⟩
  exact hd.forall hb hb' hne ho ho'

lemma Collapsed.sameAlbum_iff (hc : Collapsed bs) (hb : b ∈ bs) (ho : o ∈ b.all) :
    o.SameAlbum k ↔ b.first.SameAlbum k := by
  rcases List.mem_cons.mp ho with rfl | ho
  · rfl
  · rcases hc.alike b hb o ho with hf | hf
    · exact ⟨hf.trans, hf.symm.trans⟩
    · exact ⟨fun h => absurd hf.symm h.symm.not_sameSource, fun h => absurd hf h.symm.not_sameSource⟩

lemma Collapsed.sameSource_iff (hc : Collapsed bs) (hb : b ∈ bs) (ho : o ∈ b.all) :
    o.SameSource k ↔ b.first.SameSource k := by
  rcases List.mem_cons.mp ho with rfl | ho
  · rfl
  · rcases hc.alike b hb o ho with hf | hf
    · exact ⟨fun h => absurd h hf.not_sameSource, fun h => absurd h hf.symm.not_sameSource⟩
    · exact ⟨hf.trans, hf.symm.trans⟩

lemma Collapsed.eq_of_sameAlbum (hc : Collapsed bs) (hb : b ∈ bs) (hb' : b' ∈ bs) (h : b.first.SameAlbum b'.first) :
    b = b' := by
  by_contra hne
  have : Std.Symm fun b b' : Bundle => ¬b'.first.SameAlbum b.first := ⟨fun _ _ h h' => h h'.symm⟩
  exact (List.pairwise_map.mp hc.albums).forall hb' hb (Ne.symm hne) h

lemma Collapsed.not_late (hc : Collapsed bs) (h : Holds bs os) (hb : b ∈ bs) : ¬b.first.Late os := by
  rintro ⟨o, hm, hl, ha⟩
  obtain ⟨b', hb', ho⟩ := h.exists_mem hm
  obtain rfl := hc.eq_of_sameAlbum hb' hb ((hc.sameAlbum_iff hb' ho).mp ha)
  exact absurd hl (Nat.not_lt.mpr (h.first_le hb ho))

lemma Collapsed.apart (hc : Collapsed bs) (h : Holds bs os) (hb : b ∈ bs) (hb' : b' ∈ bs) (hne : b ≠ b')
    (hs : b.first.SameSource k) (ho : o ∈ b.all) : b'.first.place < b.first.place ∨ o.place < b'.first.place := by
  have hp := h.places hb hb' hne
  rcases List.mem_cons.mp ho with rfl | ho
  · exact hp.symm
  · rcases hc.alike b hb o ho with hf | hf
    · exact absurd hs hf.symm.not_sameSource
    · have := hc.unbroken b hb o ho hf _ (List.mem_map_of_mem hb')
      omega

lemma Collapsed.exists_next (hc : Collapsed bs) (h : Holds bs os) (hb : b ∈ bs) (hb' : b' ∈ bs)
    (hl : b.first.place < b'.first.place) : ∃ c ∈ bs, b.first.place < c.first.place ∧
      (c = b' ∨ c.first.place < b'.first.place) ∧ ¬b.first.SameSource c.first := by
  obtain ⟨newer, older, rfl⟩ := List.append_of_mem hb
  have ho := List.pairwise_append.mp (List.pairwise_map.mp h.order)
  have hm : b' ∈ newer := by
    rcases List.mem_append.mp hb' with hm | hm
    · exact hm
    · rcases List.mem_cons.mp hm with rfl | hm
      · exact absurd hl (Nat.lt_irrefl _)
      · have := (List.pairwise_cons.mp ho.2.1).1 b' hm
        omega
  rcases List.eq_nil_or_concat' newer with rfl | ⟨newer, c, rfl⟩
  · cases hm
  · refine ⟨c, by simp, ho.2.2 c (by simp) b List.mem_cons_self, ?_, ?_⟩
    · rcases List.mem_append.mp hm with hm | hm
      · exact .inr ((List.pairwise_append.mp ho.1).2.2 b' hm c (List.mem_singleton_self c))
      · exact .inl (List.mem_singleton.mp hm).symm
    · have hr := hc.runs
      rw [List.map_append, List.isChain_append] at hr
      exact hr.2.2 _ (by simp) _ (by simp)

lemma Collapsed.joins_of_together (hc : Collapsed bs) (h : Holds bs os) (hl : o.place < o'.place)
    (ht : Together bs o o') : o.Joins os o' := by
  obtain ⟨b, hb, ho, ho'⟩ := ht
  have hle := h.first_le hb ho
  have hm : o' ∈ b.later := mem_later ho' (by omega)
  rcases hc.alike b hb o' hm with hf | hf
  · exact .inl ((hc.sameAlbum_iff hb ho).mpr hf)
  refine .inr ⟨(hc.sameSource_iff hb ho).mpr hf, ?_⟩
  intro k hk hl' hr
  obtain ⟨b', hb', hk'⟩ := h.exists_mem hk
  by_cases he : b = b'
  · have hks := (hc.sameSource_iff hb (he ▸ hk')).mpr hf
    exact .inl (((hc.sameSource_iff hb ho).mpr hf).trans hks.symm)
  · right
    have hle' := h.first_le hb' hk'
    have hp := hc.apart h hb hb' he hf ho'
    have hkm : k ∈ b'.later := mem_later hk' (by omega)
    rcases hc.alike b' hb' k hkm with hf' | hf'
    · exact ⟨b'.first, h.mem hb' List.mem_cons_self, by omega, hf'⟩
    · have := hc.apart h hb' hb (Ne.symm he) hf' hk'
      omega

lemma Collapsed.together_of_joins (hc : Collapsed bs) (h : Holds bs os) (ho : o ∈ os) (ho' : o' ∈ os)
    (hl : o.place < o'.place) (hj : o.Joins os o') : Together bs o o' := by
  obtain ⟨b, hb, hm⟩ := h.exists_mem ho
  obtain ⟨b', hb', hm'⟩ := h.exists_mem ho'
  suffices he : b = b' from ⟨b, hb, hm, he ▸ hm'⟩
  rcases hj with ha | ⟨hs, hj⟩
  · have hf := (hc.sameAlbum_iff hb hm).mp ha
    exact hc.eq_of_sameAlbum hb hb' ((hc.sameAlbum_iff hb' hm').mp hf.symm).symm
  by_contra hne
  have hf := (hc.sameSource_iff hb hm).mp hs
  have hf' := (hc.sameSource_iff hb' hm').mp hf.symm
  have hle := h.first_le hb hm
  have hle' := h.first_le hb' hm'
  have hp : b.first.place < b'.first.place := by
    have := hc.apart h hb' hb (Ne.symm hne) hf' hm'
    omega
  -- the bundle started next after that of the earlier forward can neither be of its source nor of another
  obtain ⟨c, hcm, hbc, hcb, hnot⟩ := hc.exists_next h hb hb' hp
  rcases hcb with rfl | hcb
  · exact hnot hf'.symm
  · have hoc := hc.apart h hb hcm (by rintro rfl; omega) hf hm
    rcases hj c.first (h.mem hcm List.mem_cons_self) (by omega) (by omega) with hsc | hlate
    · exact hnot ((hc.sameSource_iff hb hm).mp hsc)
    · exact hc.not_late h hcm hlate

section Finer

variable {ds : List Bundle} (h : Holds bs os) (hd : Holds ds os) (hn : os.Nodup) (hl : ds.length = bs.length)
  (hf : ∀ o o', o.place < o'.place → Together ds o o' → Together bs o o')
include h hd hn hl hf

lemma Holds.perm_first_of_finer : (bs.map (·.first)).Perm (ds.map (·.first)) := by
  have hsub : bs.map (·.first) ⊆ ds.map (·.first) := by
    intro k hk
    obtain ⟨b, hb, rfl⟩ := List.mem_map.mp hk
    obtain ⟨d, hdm, hm⟩ := hd.exists_mem (h.mem hb List.mem_cons_self)
    rcases hd.first_cases hdm hm with he | hlt
    · exact he ▸ List.mem_map_of_mem hdm
    · obtain ⟨b', hb', hdb, hbb⟩ := hf _ _ hlt ⟨d, hdm, List.mem_cons_self, hm⟩
      obtain rfl := h.unique hn hb hb' List.mem_cons_self hbb
      have := h.first_le hb hdb
      omega
  have hnd : (bs.map (·.first)).Nodup := h.order.imp (S := (· ≠ ·)) fun h he => Nat.lt_irrefl _ (he ▸ h)
  exact (List.subperm_of_subset hnd hsub).perm_of_length_le (by simp [hl])

lemma Holds.first_eq_of_finer {d : Bundle} (hb : b ∈ bs) (hdm : d ∈ ds) (hkb : k ∈ b.all) (hkd : k ∈ d.all) :
    d.first = b.first := by
  have hm : d.first ∈ b.all := by
    rcases hd.first_cases hdm hkd with rfl | hlt
    · exact hkb
    · obtain ⟨b', hb', hm, hk⟩ := hf _ _ hlt ⟨d, hdm, List.mem_cons_self, hkd⟩
      rwa [h.unique hn hb hb' hkb hk]
  have hp := h.perm_first_of_finer hd hn hl hf
  obtain ⟨b', hb', he⟩ := List.mem_map.mp (hp.symm.subset (List.mem_map_of_mem hdm))
  obtain rfl := h.unique hn hb hb' hm (he ▸ List.mem_cons_self)
  exact he.symm

lemma Holds.together_of_finer (ht : Together bs o o') : Together ds o o' := by
  obtain ⟨b, hb, ho, ho'⟩ := ht
  obtain ⟨d, hdm, hm⟩ := hd.exists_mem (h.mem hb ho)
  obtain ⟨d', hdm', hm'⟩ := hd.exists_mem (h.mem hb ho')
  have hfirst := h.first_eq_of_finer hd hn hl hf hb hdm ho hm
  have hfirst' := h.first_eq_of_finer hd hn hl hf hb hdm' ho' hm'
  have he : d.first = d'.first := hfirst.trans hfirst'.symm
  obtain rfl := hd.unique hn hdm hdm' List.mem_cons_self (he ▸ List.mem_cons_self)
  exact ⟨d, hdm, hm, hm'⟩

end Finer

lemma together_reverse : Together bs.reverse o o' ↔ Together bs o o' := by
  simp only [Together, List.mem_reverse]

end Bundle

namespace Notification

variable {a : Account} {ids : List MessageId} {now : Int32} {bs : List Bundle} {o o' : Occurrence}

def AsDocumented (a : Account) (ids : List MessageId) (now : Int32) : Prop :=
  ∃ bs, Partition a ids now bs ∧ ∀ o ∈ a.occurrences ids now, ∀ o' ∈ a.occurrences ids now, o.place < o'.place →
    (Bundle.Together bs o o' ↔ o.Collapses (a.occurrences ids now) o')

lemma Partition.holds (h : Partition a ids now bs) : Bundle.Holds bs.reverse (a.occurrences ids now) where
  occurrences := ((List.reverse_perm bs).flatMap_right _).trans h.occurrences
  ascending b hb := h.ascending b (List.mem_reverse.mp hb)
  chat b hb := h.chat b (List.mem_reverse.mp hb)
  order := by
    rw [List.map_reverse, List.pairwise_reverse]
    exact h.order

lemma exists_joins (a : Account) (ids : List MessageId) (now : Int32) : ∃ bs, Partition a ids now bs ∧
    ∀ o ∈ a.occurrences ids now, ∀ o' ∈ a.occurrences ids now, o.place < o'.place →
      (Bundle.Together bs o o' ↔ o.Joins (a.occurrences ids now) o') := by
  obtain ⟨bs, hb, hp⟩ := exists_partition a ids now
  have hc := hb.collapsed Account.ascending_occurrences
  have h := hb.holds Account.ascending_occurrences
  refine ⟨bs.reverse, hp, ?_⟩
  intro o ho o' ho' hl
  rw [Bundle.together_reverse]
  exact ⟨hc.joins_of_together h hl, hc.together_of_joins h ho ho' hl⟩

lemma not_asDocumented (ho : o ∈ a.occurrences ids now) (ho' : o' ∈ a.occurrences ids now)
    (hi : o.Interrupted (a.occurrences ids now) o') : ¬AsDocumented a ids now := by
  rintro ⟨ds, hd, hr⟩
  obtain ⟨bs, hb, hj⟩ := exists_joins a ids now
  have hl : o.place < o'.place := by
    obtain ⟨-, -, k, -, h, h', -⟩ := hi
    omega
  have hlen : ds.reverse.length = bs.reverse.length := by
    have := congrArg List.length (hd.result.symm.trans hb.result)
    simpa using this
  have hn : (a.occurrences ids now).Nodup :=
    Account.ascending_occurrences.imp (S := (· ≠ ·)) fun h he => Nat.lt_irrefl _ (he ▸ h)
  have hf : ∀ o o', o.place < o'.place → Bundle.Together ds.reverse o o' → Bundle.Together bs.reverse o o' := by
    intro k k' hl ht
    obtain ⟨d, hdm, hk, hk'⟩ := ht
    have hm := hd.holds.mem hdm hk
    have hm' := hd.holds.mem hdm hk'
    have hc := (hr k hm k' hm' hl).mp (Bundle.together_reverse.mp ⟨d, hdm, hk, hk'⟩)
    exact Bundle.together_reverse.mpr ((hj k hm k' hm' hl).mpr hc.joins)
  have ht := Bundle.together_reverse.mpr ((hj o ho o' ho' hl).mpr hi.joins)
  have hs := hb.holds.together_of_finer hd.holds hn hlen hf ht
  exact hi.not_collapses ((hr o ho o' ho' hl).mp (Bundle.together_reverse.mp hs))

/-- The documented rule is followed exactly when later parts of albums are nowhere all that interrupts a run of forwards
from one source. -/
theorem asDocumented_iff (a : Account) (ids : List MessageId) (now : Int32) : AsDocumented a ids now ↔
    ∀ o ∈ a.occurrences ids now, ∀ o' ∈ a.occurrences ids now, ¬o.Interrupted (a.occurrences ids now) o' := by
  constructor
  · intro h o ho o' ho' hi
    exact not_asDocumented ho ho' hi h
  · intro hi
    obtain ⟨bs, hb, hj⟩ := exists_joins a ids now
    refine ⟨bs, hb, ?_⟩
    intro o ho o' ho' hl
    rw [hj o ho o' ho' hl]
    exact ⟨fun h => h.collapses (hi o ho o' ho'), Occurrence.Collapses.joins⟩

def sampleMessages : List Message :=
  [⟨⟨⟨1⟩, 1⟩, some ⟨2⟩, 60, true, "a", some 5, none⟩, ⟨⟨⟨1⟩, 2⟩, some ⟨2⟩, 60, true, "b", none, some ⟨50⟩⟩,
    ⟨⟨⟨1⟩, 3⟩, some ⟨2⟩, 60, true, "c", some 5, none⟩, ⟨⟨⟨1⟩, 4⟩, some ⟨2⟩, 60, true, "d", none, some ⟨50⟩⟩]

def sampleAccount : Account :=
  sampleMessages.foldl (fun a m => a.write (.storeMessage m)) .empty

theorem undocumented_sampleAccount :
    resolve sampleAccount (sampleMessages.map (·.id)) 0 =
        [⟨⟨1⟩, ⟨⟨⟨1⟩, 1⟩, some ⟨2⟩, 60, true, "a", some 5, none⟩, [⟨⟨1⟩, 1⟩, ⟨⟨1⟩, 3⟩], false⟩,
          ⟨⟨1⟩, ⟨⟨⟨1⟩, 2⟩, some ⟨2⟩, 60, true, "b", none, some ⟨50⟩⟩, [⟨⟨1⟩, 2⟩, ⟨⟨1⟩, 4⟩], false⟩] ∧
      ¬AsDocumented sampleAccount (sampleMessages.map (·.id)) 0 := by
  have hi : ∃ o ∈ sampleAccount.occurrences (sampleMessages.map (·.id)) 0,
      ∃ o' ∈ sampleAccount.occurrences (sampleMessages.map (·.id)) 0,
        o.Interrupted (sampleAccount.occurrences (sampleMessages.map (·.id)) 0) o' := by
    decide +kernel
  obtain ⟨o, ho, o', ho', hi⟩ := hi
  exact ⟨by decide +kernel, not_asDocumented ho ho' hi⟩

end Notification

end AccountReplica
