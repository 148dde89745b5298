import AccountReplica.Proofs.Engine.Subscriptions
import AccountReplica.Proofs.Listeners.Bag
import Mathlib.Data.List.Induction

/-! Those who follow a webpage. A bag that becomes empty is thrown away, and the tokens of the next one are the same
again. But nobody holds a token of a bag that is gone, so whoever leaves takes nobody else along. -/

namespace AccountReplica

namespace Engine

variable {e e' : Engine} {media : MediaId} {token : BagToken} {listener : ListenerId}
  {table table' : MediaId → List (BagToken × ListenerId)}

def bagOf (e : Engine) (media : MediaId) : SubscriberBag ListenerId :=
  e.webpageListeners.getD media .empty

lemma bagOf_eq (e : Engine) (media : MediaId) : e.bagOf media = (e.webpageListeners[media]?).getD .empty :=
  Std.ExtTreeMap.getD_eq_getD_getElem?

lemma webpageListenersOf_eq (e : Engine) (media : MediaId) :
    e.webpageListenersOf media = (e.bagOf media).entries.map (·.2) := by
  rw [webpageListenersOf, bagOf_eq]
  cases e.webpageListeners[media]? with
  | none => rfl
  | some bag => exact bag.values_eq

structure Lists (e : Engine) (table : MediaId → List (BagToken × ListenerId)) : Prop where
  holds : ∀ media, (e.bagOf media).Holds (table media)
  occupied : ∀ (media : MediaId) (bag : SubscriberBag ListenerId),
    e.webpageListeners[media]? = some bag → bag.isEmpty = false

lemma lists_new (retryDelay : Nat) : (new retryDelay).Lists fun _ => [] where
  holds media := by
    rw [bagOf_eq, new, Std.ExtTreeMap.getElem?_empty]
    exact .empty
  occupied media bag h := by
    rw [new, Std.ExtTreeMap.getElem?_empty] at h
    cases h

namespace Lists

lemma congr (h : e.Lists table) (hw : e'.webpageListeners = e.webpageListeners)
    (ht : ∀ media, (table media).Perm (table' media)) : e'.Lists table' where
  holds media := by
    rw [bagOf, hw]
    exact (h.holds media).perm (ht media)
  occupied := by
    rw [hw]
    exact h.occupied

lemma listeners (h : e.Lists table) (media : MediaId) :
    (e.webpageListenersOf media).Perm ((table media).map (·.2)) := by
  rw [webpageListenersOf_eq]
  exact (h.holds media).entries.map _

lemma insert (h : e.Lists table) (hl : (table media).length < 2 ^ 32) (listener : ListenerId)
    (hw : e'.webpageListeners = e.webpageListeners.insert media ((e.bagOf media).insert listener).2) :
    e'.Lists fun m =>
      if m = media then (((e.bagOf media).insert listener).1, listener) :: table media else table m where
  holds m := by
    rw [bagOf_eq, hw, Std.ExtTreeMap.getElem?_insert]
    by_cases hm : m = media
    · subst hm
      simpa using (h.holds m).insert hl listener
    · simpa [Std.LawfulEqCmp.compare_eq_iff_eq, Ne.symm hm, hm, ← bagOf_eq] using h.holds m
  occupied m bag hb := by
    rw [hw, Std.ExtTreeMap.getElem?_insert] at hb
    split at hb
    · cases hb
      have hi := ((h.holds media).insert hl listener).isEmpty_iff
      simpa using hi
    · exact h.occupied m bag hb

end Lists

structure Dismisses (e e' : Engine) (s : Subscription) : Prop where
  found : ∃ bag bag', e.webpageListeners[s.media]? = some bag ∧ bag.remove s.token = some (s.listener, bag')
  left : ∃ xs ys, e.webpageListenersOf s.media = xs ++ s.listener :: ys ∧ e'.webpageListenersOf s.media = xs ++ ys
  others : ∀ media : MediaId, media ≠ s.media → e'.webpageListeners[media]? = e.webpageListeners[media]?

lemma Dismisses.congr {e'' : Engine} {s : Subscription} (h : e.Dismisses e' s)
    (hw : e''.webpageListeners = e'.webpageListeners) : e.Dismisses e'' s where
  found := h.found
  left := by
    simp only [webpageListenersOf, hw]
    exact h.left
  others := by
    rw [hw]
    exact h.others

lemma effects_unsubscribe (e : Engine) (key : SubscriptionKey) : (e.unsubscribe key).effects = e.effects := by
  cases key <;> simp only [unsubscribe] <;> split <;> rfl

lemma unsubscribe_webpage {bag : SubscriberBag ListenerId}
    (hr : (e.bagOf media).remove token = some (listener, bag)) :
    e.webpageListeners[media]? = some (e.bagOf media) ∧
      ∀ m : MediaId, (e.unsubscribe (.webpage media token)).webpageListeners[m]? =
        if m = media then if bag.isEmpty then none else some bag else e.webpageListeners[m]? := by
  have hb : e.webpageListeners[media]? = some (e.bagOf media) := by
    rw [bagOf_eq] at hr ⊢
    cases hb : e.webpageListeners[media]? with
    | none =>
      rw [hb] at hr
      cases hr
    | some b => rfl
  simp only [unsubscribe, hb, hr, Option.elim_some, true_and]
  intro m
  split
  · simp only [Std.ExtTreeMap.getElem?_erase, Std.LawfulEqCmp.compare_eq_iff_eq, eq_comm (a := m)]
  · simp only [Std.ExtTreeMap.getElem?_insert, Std.LawfulEqCmp.compare_eq_iff_eq, eq_comm (a := m)]

namespace Lists

lemma unsubscribe {s : Subscription} {xs : List (BagToken × ListenerId)} (h : e.Lists table)
    (hs : (table s.media).Perm ((s.token, s.listener) :: xs)) :
    e.Dismisses (e.unsubscribe (.webpage s.media s.token)) s ∧
      (e.unsubscribe (.webpage s.media s.token)).Lists (fun m => if m = s.media then xs else table m) := by
  obtain ⟨bag, hr, hb⟩ := ((h.holds s.media).perm hs).remove
  obtain ⟨he, hw⟩ := unsubscribe_webpage hr
  generalize e.unsubscribe (.webpage s.media s.token) = e' at hw
  have hown : (e'.bagOf s.media).entries = bag.entries ∧ (e'.bagOf s.media).Holds xs := by
    rw [bagOf_eq, hw, if_pos rfl]
    split
    · next hn =>
      -- The next bag starts with the first tokens again, but there is nobody left who holds one.
      rw [hb.isEmpty_iff.mp hn, hb.sound.isEmpty_iff.mp hn]
      exact ⟨rfl, .empty⟩
    · exact ⟨rfl, hb⟩
  have hothers (m : MediaId) (hm : m ≠ s.media) : e'.webpageListeners[m]? = e.webpageListeners[m]? := by
    rw [hw, if_neg hm]
  refine ⟨⟨⟨_, bag, he, hr⟩, ?_, hothers⟩, fun m => ?_, fun m b hm => ?_⟩
  · obtain ⟨ys, zs, hy, hz⟩ := SubscriberBag.entries_remove hr
    refine ⟨ys.map (·.2), zs.map (·.2), ?_, ?_⟩
    · rw [webpageListenersOf_eq, hy, List.map_append, List.map_cons]
    · rw [webpageListenersOf_eq, hown.1, hz, List.map_append]
  · by_cases hm : m = s.media
    · rw [if_pos hm, hm]
      exact hown.2
    · rw [if_neg hm, bagOf_eq, hothers m hm, ← bagOf_eq]
      exact h.holds m
  · rw [hw] at hm
    split at hm
    · split at hm
      · cases hm
      · next hn =>
        cases hm
        simpa using hn
    · exact h.occupied m b hm

lemma subscribe (h : e.Lists table) (hl : (table media).length < 2 ^ 32) (listener : ListenerId) (awaited : Bool) :
    ∃ token, (e.command (.subscribeWebpage media listener awaited)).Lists
        (fun m => if m = media ∧ awaited then (token, listener) :: table m else table m) ∧
      subscriptions (e.command (.subscribeWebpage media listener awaited)).effects =
        subscriptions e.effects ++ if awaited then [⟨media, token, listener⟩] else [] := by
  refine ⟨((e.bagOf media).insert listener).1, ?_⟩
  let e' := { e with webpageListeners := e.webpageListeners.insert media ((e.bagOf media).insert listener).2 }
  have hi : e'.Lists _ := h.insert hl listener rfl
  cases awaited with
  | true =>
    refine ⟨hi.congr rfl fun m => ?_, by simp [command, confirm, emit, bagOf, subscriptions, Effect.subscription?]⟩
    by_cases hm : m = media <;> simp [hm]
  | false =>
    have hs := (hi.unsubscribe (s := ⟨media, ((e.bagOf media).insert listener).1, listener⟩)
      (by rw [if_pos rfl])).2
    refine ⟨hs.congr rfl fun m => ?_, ?_⟩
    · by_cases hm : m = media <;> simp [hm]
    · rw [if_neg Bool.false_ne_true, List.append_nil]
      have he : (e.command (.subscribeWebpage media listener false)).effects = e.effects := by
        simp only [command, confirm, Bool.false_eq_true, if_false, effects_unsubscribe]
      rw [he]

end Lists

end Engine

structure Reader where
  media : MediaId
  listener : ListenerId
deriving DecidableEq

def Subscription.reader (s : Subscription) : Reader :=
  ⟨s.media, s.listener⟩

def Input.reader? : Input → Option Reader
  | command (.subscribeWebpage media listener true) => some ⟨media, listener⟩
  | _ => none

structure Readership where
  engine : Engine
  holders : List (Option Subscription)

namespace Readership

inductive Move
  | input (i : Input)
  /-- The holder of the key that was told as the `n`-th gives it back, if it is still theirs. -/
  | leave (n : Nat)

def input (r : Readership) (i : Input) : Readership :=
  let (effects, engine) := (r.engine.step i).takeEffects
  ⟨engine, r.holders ++ (subscriptions effects).map some⟩

def leave (r : Readership) (n : Nat) : Readership :=
  match r.holders[n]? with
  | some (some s) =>
    let r := r.input (.command (.unsubscribe (.webpage s.media s.token)))
    { r with holders := r.holders.set n none }
  | _ => r

def subscribing (media : MediaId) (listener : ListenerId) (awaited : Bool) : Move :=
  .input (.command (.subscribeWebpage media listener awaited))

def move (r : Readership) : Move → Readership
  | .input i => r.input i
  | .leave n => r.leave n

def run (retryDelay : Nat) (moves : List Move) : Readership :=
  moves.foldl move ⟨.new retryDelay, []⟩

/-- Who follows webpages after the move, whatever the engine makes of it. -/
def follow (readers : List (Option Reader)) : Move → List (Option Reader)
  | .input i => readers ++ i.reader?.toList.map some
  | .leave n => readers.set n none

def readers (moves : List Move) : List (Option Reader) :=
  moves.foldl follow []

def listenersOf (media : MediaId) (readers : List (Option Reader)) : List ListenerId :=
  readers.filterMap fun r => r.bind fun r => if r.media = media then some r.listener else none

def entriesOf (holders : List (Option Subscription)) (media : MediaId) : List (BagToken × ListenerId) :=
  holders.filterMap fun s => s.bind fun s => if s.media = media then some (s.token, s.listener) else none

variable {r : Readership} {rs : List (Option Reader)} {holders : List (Option Subscription)} {s : Subscription}
  {media : MediaId} {n : Nat}

lemma map_snd_entriesOf (holders : List (Option Subscription)) (media : MediaId) :
    (entriesOf holders media).map (·.2) = listenersOf media (holders.map (Option.map Subscription.reader)) := by
  rw [entriesOf, listenersOf, List.map_filterMap, List.filterMap_map]
  congr 1
  funext s
  cases s with
  | none => rfl
  | some s => by_cases h : s.media = media <;> simp [Subscription.reader, h]

lemma entriesOf_append (holders : List (Option Subscription)) (s : Subscription) (media : MediaId) :
    entriesOf (holders ++ [some s]) media =
      entriesOf holders media ++ if s.media = media then [(s.token, s.listener)] else [] := by
  rw [entriesOf, List.filterMap_append]
  by_cases h : s.media = media <;> simp [entriesOf, h]

lemma entriesOf_set (h : holders[n]? = some (some s)) (media : MediaId) :
    (entriesOf holders media).Perm
      ((if s.media = media then [(s.token, s.listener)] else []) ++ entriesOf (holders.set n none) media) := by
  obtain ⟨hn, hs⟩ := List.getElem?_eq_some_iff.mp h
  have ho : holders = holders.take n ++ some s :: holders.drop (n + 1) := by
    rw [← hs, ← List.drop_eq_getElem_cons hn, List.take_append_drop]
  rw [List.set_eq_take_append_cons_drop, if_pos hn]
  nth_rewrite 1 [ho]
  by_cases hm : s.media = media <;> simp [entriesOf, hm]

lemma follow_gone (h : ∀ x, rs[n]? ≠ some (some x)) : follow rs (.leave n) = rs := by
  refine List.ext_getElem? fun i => ?_
  rw [follow, List.getElem?_set]
  split
  · next hi =>
    subst hi
    split
    · next hn =>
      cases hx : rs[n] with
      | none => rw [List.getElem?_eq_getElem hn, hx]
      | some x => exact absurd (by rw [List.getElem?_eq_getElem hn, hx]) (h x)
    · next hn => rw [List.getElem?_eq_none (Nat.le_of_not_lt hn)]
  · rfl

structure Tracks (r : Readership) (rs : List (Option Reader)) : Prop where
  told : r.holders.map (Option.map Subscription.reader) = rs
  lists : r.engine.Lists (entriesOf r.holders)
  effects : r.engine.effects = []

lemma lists_input {i : Input} {table : MediaId → List (BagToken × ListenerId)}
    (h : (r.engine.receive i).Lists table) : (r.input i).engine.Lists table ∧ (r.input i).engine.effects = [] ∧
      (r.input i).holders = r.holders ++ (subscriptions (r.engine.receive i).effects).map some := by
  have hs := Engine.spares_step r.engine i
  exact ⟨h.congr hs.webpages fun _ => .refl _, rfl, by rw [← hs.subscriptions]; rfl⟩

namespace Tracks

lemma new (retryDelay : Nat) : (⟨.new retryDelay, []⟩ : Readership).Tracks [] :=
  ⟨rfl, Engine.lists_new retryDelay, rfl⟩

lemma length (h : r.Tracks rs) (media : MediaId) :
    (entriesOf r.holders media).length = (listenersOf media rs).length := by
  rw [← h.told, ← map_snd_entriesOf, List.length_map]

lemma spared {i : Input} (h : r.Tracks rs) (hi : i.onWebpages = false) :
    (r.input i).Tracks (follow rs (.input i)) := by
  have hs := Engine.spares_receive r.engine hi
  obtain ⟨hl, he, ho⟩ := lists_input (h.lists.congr hs.webpages fun _ => .refl _)
  have hr : i.reader? = none := by
    cases i with
    | report => rfl
    | command c => cases c with
      | subscribeWebpage => cases hi
      | _ => rfl
  rw [hs.subscriptions, h.effects] at ho
  simp only [subscriptions, List.filterMap_nil, List.map_nil, List.append_nil] at ho
  refine ⟨?_, ?_, he⟩
  · rw [ho, h.told, follow, hr]
    simp
  · rw [ho]
    exact hl

lemma subscribe (h : r.Tracks rs) (hc : (listenersOf media rs).length < 2 ^ 32) (listener : ListenerId)
    (awaited : Bool) : (r.move (subscribing media listener awaited)).Tracks
      (follow rs (subscribing media listener awaited)) := by
  obtain ⟨token, hl, hs⟩ := h.lists.subscribe (h.length media ▸ hc) listener awaited
  obtain ⟨hl, he, ho⟩ := lists_input (i := .command (.subscribeWebpage media listener awaited)) hl
  rw [Engine.receive, hs, h.effects] at ho
  rw [subscribing, move]
  cases awaited with
  | true =>
    simp only [subscriptions, List.filterMap_nil, List.nil_append, if_true, List.map_cons, List.map_nil] at ho
    refine ⟨?_, hl.congr rfl fun m => ?_, he⟩
    · rw [ho, List.map_append, h.told]
      rfl
    · rw [ho, entriesOf_append]
      by_cases hm : m = media
      · subst hm
        simpa using (List.perm_append_singleton _ _).symm
      · simp [hm, Ne.symm hm]
  | false =>
    simp only [subscriptions, List.filterMap_nil, Bool.false_eq_true, if_false, List.append_nil, List.map_nil] at ho
    refine ⟨?_, hl.congr rfl fun m => ?_, he⟩
    · rw [ho, h.told, follow]
      exact (List.append_nil rs).symm
    · rw [ho]
      simp

lemma dismisses (h : r.Tracks rs) (hs : r.holders[n]? = some (some s)) :
    r.engine.Dismisses (r.leave n).engine s ∧ (r.leave n).Tracks (follow rs (.leave n)) := by
  have hp := entriesOf_set hs
  obtain ⟨hl, ht⟩ := h.lists.unsubscribe ((hp s.media).trans (by rw [if_pos rfl]; exact .refl _))
  obtain ⟨ht', he, ho⟩ := lists_input (i := .command (.unsubscribe (.webpage s.media s.token))) ht
  rw [Engine.receive, Engine.command, Engine.effects_unsubscribe, h.effects] at ho
  have hr : r.leave n =
      ⟨(r.input (.command (.unsubscribe (.webpage s.media s.token)))).engine, r.holders.set n none⟩ := by
    simp only [Readership.leave, hs, ho]
    simp [subscriptions]
  rw [hr]
  refine ⟨hl.congr (Engine.spares_step r.engine _).webpages, ?_, ?_, he⟩
  · rw [List.map_set, h.told]
    rfl
  · refine ht'.congr rfl fun m => ?_
    have hm := hp m
    split
    · next hms =>
      subst hms
      exact .refl _
    · next hms =>
      rw [if_neg (Ne.symm hms)] at hm
      exact hm

lemma leave (h : r.Tracks rs) (n : Nat) : (r.leave n).Tracks (follow rs (.leave n)) := by
  by_cases hs : ∃ s, r.holders[n]? = some (some s)
  · obtain ⟨s, hs⟩ := hs
    exact (h.dismisses hs).2
  · have hl : r.leave n = r := by
      simp only [Readership.leave]
      split
      · next s hn => exact absurd ⟨s, hn⟩ hs
      · rfl
    rw [hl, follow_gone]
    · exact h
    · rintro x hx
      rw [← h.told, List.getElem?_map] at hx
      obtain ⟨s, hn, hs'⟩ := Option.map_eq_some_iff.mp hx
      obtain ⟨s, rfl, -⟩ := Option.map_eq_some_iff.mp hs'
      exact hs ⟨s, hn⟩

lemma move {m : Move} (h : r.Tracks rs)
    (hc : ∀ media listener awaited, m = subscribing media listener awaited → (listenersOf media rs).length < 2 ^ 32)
    (hm : ∀ media token, m ≠ .input (.command (.unsubscribe (.webpage media token)))) :
    (r.move m).Tracks (follow rs m) := by
  cases m with
  | leave n => exact h.leave n
  | input i =>
    cases i with
    | report id x => exact h.spared rfl
    | command c => cases c with
      | subscribeWebpage media listener awaited => exact h.subscribe (hc media _ _ rfl) listener awaited
      | unsubscribe key => cases key with
        | webpage media token => exact absurd rfl (hm media token)
        | nearby token => exact h.spared rfl
      | _ => exact h.spared rfl

end Tracks

/-- Those who have subscribed and not left are listed, each once, and each of them can leave without anybody else. -/
structure Serves (r : Readership) (rs : List (Option Reader)) : Prop where
  told : r.holders.map (Option.map Subscription.reader) = rs
  listeners : ∀ media, (r.engine.webpageListenersOf media).Perm (listenersOf media rs)
  occupied : ∀ (media : MediaId) (bag : SubscriberBag ListenerId),
    r.engine.webpageListeners[media]? = some bag → bag.isEmpty = false
  leaves : ∀ n s, r.holders[n]? = some (some s) → r.engine.Dismisses (r.leave n).engine s

lemma tracks_run (retryDelay : Nat) {moves : List Move}
    (hm : ∀ media token, .input (.command (.unsubscribe (.webpage media token))) ∉ moves)
    (hc : ∀ before media listener awaited, before ++ [subscribing media listener awaited] <+: moves →
      (listenersOf media (readers before)).length < 2 ^ 32) :
    (run retryDelay moves).Tracks (readers moves) := by
  induction moves using List.reverseRecOn with
  | nil => exact .new retryDelay
  | append_singleton moves m ih =>
    have h := ih (fun media token h => hm media token (List.mem_append_left _ h))
      fun before media listener awaited hb => hc before media listener awaited (hb.trans (List.prefix_append _ _))
    have hr : run retryDelay (moves ++ [m]) = (run retryDelay moves).move m := by simp [run]
    have hf : readers (moves ++ [m]) = follow (readers moves) m := by simp [readers]
    rw [hr, hf]
    refine h.move (fun media listener awaited he => ?_) fun media token he => ?_
    · exact hc moves media listener awaited (he ▸ List.prefix_rfl)
    · exact hm media token (List.mem_append_right _ (List.mem_singleton.mpr he.symm))

/-- The tokens of a page suffice while fewer than `2 ^ 32` follow it when somebody else comes. -/
theorem serves_of_run (retryDelay : Nat) (moves : List Move)
    (hm : ∀ media token, .input (.command (.unsubscribe (.webpage media token))) ∉ moves)
    (hc : ∀ before media listener awaited, before ++ [subscribing media listener awaited] <+: moves →
      (listenersOf media (readers before)).length < 2 ^ 32) :
    (run retryDelay moves).Serves (readers moves) := by
  have h := tracks_run retryDelay hm hc
  refine ⟨h.told, fun media => ?_, h.lists.occupied, fun n s hs => (h.dismisses hs).1⟩
  rw [← h.told, ← map_snd_entriesOf]
  exact h.lists.listeners media

lemma length_listenersOf_le (media : MediaId) (moves : List Move) :
    (listenersOf media (readers moves)).length ≤ moves.length := by
  refine Nat.le_trans (List.length_filterMap_le _ _) ?_
  induction moves using List.reverseRecOn with
  | nil => exact Nat.le_refl 0
  | append_singleton moves m ih =>
    have hf : readers (moves ++ [m]) = follow (readers moves) m := by simp [readers]
    rw [hf, List.length_append, List.length_singleton]
    cases m with
    | input i =>
      rw [follow, List.length_append, List.length_map]
      exact Nat.add_le_add ih (by cases i.reader? <;> simp)
    | leave n =>
      rw [follow, List.length_set]
      exact Nat.le_succ_of_le ih

def sampleMoves : List Move :=
  [subscribing ⟨7⟩ 1 true, .leave 0, subscribing ⟨7⟩ 2 true, .leave 0, subscribing ⟨7⟩ 3 false,
    subscribing ⟨7⟩ 4 true, subscribing ⟨8⟩ 5 true, .leave 1]

theorem serves_of_sampleMoves :
    (∀ media token, .input (.command (.unsubscribe (.webpage media token))) ∉ sampleMoves) ∧
      (∀ before media listener awaited, before ++ [subscribing media listener awaited] <+: sampleMoves →
        (listenersOf media (readers before)).length < 2 ^ 32) ∧
      (run 500 sampleMoves).Serves (readers sampleMoves) := by
  have hm : ∀ media token, .input (.command (.unsubscribe (.webpage media token))) ∉ sampleMoves := by
    simp [sampleMoves, subscribing]
  have hc : ∀ before media listener awaited, before ++ [subscribing media listener awaited] <+: sampleMoves →
      (listenersOf media (readers before)).length < 2 ^ 32 := by
    intro before media listener awaited hb
    have hl := hb.length_le
    rw [List.length_append] at hl
    have hs : sampleMoves.length = 8 := rfl
    have := length_listenersOf_le media before
    omega
  exact ⟨hm, hc, serves_of_run 500 sampleMoves hm hc⟩

example : (run 500 sampleMoves).holders = [none, none, some ⟨⟨7⟩, ⟨1, 1⟩, 4⟩, some ⟨⟨8⟩, ⟨0, 0⟩, 5⟩] := by
  decide

end Readership

end AccountReplica
