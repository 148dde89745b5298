import AccountReplica.Proofs.Storage.Writes
import Mathlib.Tactic.Common

/-! A transaction happens as a whole or not at all, and observers see the state that is persisted. -/

namespace AccountReplica

namespace Storage

def replaced (s : Storage) (a : Account) : Storage :=
  { s with
    account := a
    view := a.state
    viewWrites := s.viewWrites + if a.state = s.account.state then 0 else 1
    commits := s.commits + 1 }

variable {ε α : Type} {s : Storage} {refused : ε}

lemma commit_eq (h : s.view = s.account.state) (a : Account) : s.commit a = s.replaced a := by
  simp only [commit, replaced]
  split
  · next ha => rw [h, ha]; rfl
  · rfl

/-- What an attempt at a transaction can come to: it is refused without its body, or its body fails, or the storage
has everything that the body wrote. -/
inductive Attempts (refused : ε) (body : Transaction → Except ε (α × Transaction)) (s : Storage) :
    Except ε α × Storage → Prop
  | refused (n : Nat) (hr : s.refusals = n + 1) : Attempts refused body s (.error refused, { s with refusals := n })
  | failed (e : ε) (hr : s.refusals = 0) (hb : body (.start s.account) = .error e) :
      Attempts refused body s (.error e, s)
  | committed (a : α) (t : Transaction) (hr : s.refusals = 0) (hb : body (.start s.account) = .ok (a, t)) :
      Attempts refused body s (.ok a, s.replaced t.account)

lemma attempts (h : s.view = s.account.state) (refused : ε) (body : Transaction → Except ε (α × Transaction)) :
    s.Attempts refused body (s.attempt refused body) := by
  simp only [attempt]
  split
  · next n hr => exact .refused n hr
  · next hr =>
    split
    · next e hb => exact .failed e hr hb
    · next a t hb =>
      rw [commit_eq h]
      exact .committed a t hr hb

inductive Call (ε α : Type)
  | setState (state : SequenceState)
  | setSettings (chat : PeerId) (settings : ChatSettings)
  | failNext (n : Nat)
  | storeResources (rs : List Resource)
  | transaction (body : Transaction → Except ε (α × Transaction))

def call (refused : ε) (s : Storage) : Call ε α → List (Except ε α) × Storage
  | .setState state => ([], s.setState state)
  | .setSettings chat settings => ([], s.setSettings chat settings)
  | .failNext n => ([], s.failNext n)
  | .storeResources rs => ([], s.storeResources rs)
  | .transaction body => ([(s.attempt refused body).1], (s.attempt refused body).2)

def calls (refused : ε) (s : Storage) : List (Call ε α) → List (Except ε α) × Storage
  | [] => ([], s)
  | c :: cs =>
    ((s.call refused c).1 ++ (calls refused (s.call refused c).2 cs).1, (calls refused (s.call refused c).2 cs).2)

def Call.isTransaction : Call ε α → Bool
  | transaction _ => true
  | _ => false

def admitted : Nat → List (Call ε α) → List (Call ε α)
  | 0, cs => cs
  | _ + 1, [] => []
  | n + 1, c :: cs => if c.isTransaction then admitted n cs else c :: admitted (n + 1) cs

variable {c : Call ε α} {cs : List (Call ε α)}

lemma view_call (h : s.view = s.account.state) (c : Call ε α) :
    (s.call refused c).2.view = (s.call refused c).2.account.state := by
  cases c with
  | transaction body =>
    have ha := attempts h refused body
    simp only [call]
    generalize s.attempt refused body = x at ha
    cases ha with
    | refused | failed => exact h
    | committed => rfl
  | setState => rfl
  | _ => exact h

lemma view_calls (h : s.view = s.account.state) (cs : List (Call ε α)) :
    (s.calls refused cs).2.view = (s.calls refused cs).2.account.state := by
  induction cs generalizing s with
  | nil => exact h
  | cons c cs ih => exact ih (view_call h c)

lemma commits_calls (s : Storage) (cs : List (Call ε α)) :
    (s.calls refused cs).2.commits = s.commits + (s.calls refused cs).1.countP (·.isOk) := by
  induction cs generalizing s with
  | nil => rfl
  | cons c cs ih =>
    have hc : (s.call refused c).2.commits = s.commits + (s.call refused c).1.countP (·.isOk) := by
      cases c with
      | transaction body =>
        simp only [call, attempt]
        split
        · rfl
        · split
          · rfl
          · simp only [commit]
            split <;> rfl
      | _ => rfl
    rw [calls, List.countP_append, ih, hc, Nat.add_assoc]

lemma refusals_calls (hs : s.refusals = 0) (h : ∀ n, .failNext n ∉ cs) : (s.calls refused cs).2.refusals = 0 := by
  induction cs generalizing s with
  | nil => exact hs
  | cons c cs ih =>
    refine ih ?_ fun n hn => h n (List.mem_cons_of_mem c hn)
    cases c with
    | failNext n => exact absurd List.mem_cons_self (h n)
    | transaction body =>
      simp only [call, attempt, hs]
      split
      · exact hs
      · simp only [commit]
        split <;> exact hs
    | _ => exact hs

lemma failNext_eq (hs : s.refusals = 0) : s.failNext 0 = s := by
  rw [failNext, ← hs]

lemma call_failNext (refused : ε) (s : Storage) (hc : c.isTransaction = false) (hn : ∀ m, c ≠ .failNext m) (n : Nat) :
    (s.failNext n).call refused c = ([], (s.call refused c).2.failNext n) := by
  cases c with
  | failNext m => exact absurd rfl (hn m)
  | transaction => cases hc
  | _ => rfl

lemma calls_failNext (s : Storage) (n : Nat) (h : ∀ m, .failNext m ∉ cs) : (s.failNext n).calls refused cs =
    (List.replicate (min n (cs.countP (·.isTransaction))) (.error refused) ++
        ((s.failNext 0).calls refused (admitted n cs)).1,
      ((s.failNext 0).calls refused (admitted n cs)).2.failNext (n - cs.countP (·.isTransaction))) := by
  induction cs generalizing s n with
  | nil => cases n <;> rfl
  | cons c cs ih =>
    have h' := fun m hm => h m (List.mem_cons_of_mem c hm)
    have hn (m : Nat) : c ≠ .failNext m := fun hm => h m (hm ▸ List.mem_cons_self)
    cases n with
    | zero =>
      have h0 : ((s.failNext 0).calls refused (c :: cs)).2.refusals = 0 := refusals_calls rfl h
      simp [admitted, failNext_eq h0]
    | succ n =>
      cases hc : c.isTransaction with
      | true =>
        -- The refusal does not depend on the body, which might as well not be there.
        obtain ⟨body, rfl⟩ : ∃ body, c = .transaction body := by
          cases c with
          | transaction body => exact ⟨body, rfl⟩
          | _ => cases hc
        have ha : (s.failNext (n + 1)).call refused (.transaction body) = ([.error refused], s.failNext n) := rfl
        rw [calls, ha, ih s n h', admitted, if_pos hc, List.countP_cons_of_pos hc, Nat.succ_min_succ,
          List.replicate_succ, Nat.add_sub_add_right]
        rfl
      | false =>
        rw [calls, call_failNext refused s hc hn, ih _ (n + 1) h', admitted, if_neg (by simp [hc]),
          List.countP_cons_of_neg (by simp [hc]), calls, call_failNext refused s hc hn]
        rfl

structure Atomic (s : Storage) : Prop where
  view : s.view = s.account.state
  attempts : ∀ {ε α : Type} (refused : ε) (body : Transaction → Except ε (α × Transaction)),
    s.Attempts refused body (s.attempt refused body)
  refuses : ∀ {ε α : Type} (refused : ε) (n : Nat) (cs : List (Call ε α)), (∀ m, .failNext m ∉ cs) →
    (s.failNext n).calls refused cs =
      (List.replicate (min n (cs.countP (·.isTransaction))) (.error refused) ++
          ((s.failNext 0).calls refused (admitted n cs)).1,
        ((s.failNext 0).calls refused (admitted n cs)).2.failNext (n - cs.countP (·.isTransaction)))
  session : ∀ as, s.refusals = 0 → (∀ e, .fail e ∉ as) → ∃ rs, rs.length = as.length ∧
    s.session as = (.ok rs, s.replaced (s.account.writeAll (as.filterMap Access.write?)))
  broken : ∀ before e after, s.refusals = 0 → (∀ e', .fail e' ∉ before) → ∃ seen, seen.length = before.length ∧
    s.session (before ++ .fail e :: after) = (.error ⟨seen, .error e⟩, s)
  groups : ∀ refusal expected gs, s.refusals = 0 →
    (∃ f, s.transaction (fun t => replayGroups expected gs { t with refusal }) = (.error f, s)) ∨
      ∃ r, s.transaction (fun t => replayGroups expected gs { t with refusal }) =
          (.ok r, s.replaced (s.account.writeAll (r.writes expected))) ∧
        ∀ x ∈ refusal, x.Spares (r.writes expected)
  difference : ∀ refusal expected d, s.refusals = 0 →
    (∃ f, s.transaction (fun t => replayDifference expected d { t with refusal }) = (.error f, s)) ∨
      ∃ r, s.transaction (fun t => replayDifference expected d { t with refusal }) =
          (.ok r, s.replaced (s.account.writeAll (r.writes expected d))) ∧
        ∀ x ∈ refusal, x.Spares (r.writes expected d)

/-- A transaction that may be refused at a write is not committed with less than all of its writes. -/
lemma transaction_of_writes (h : s.view = s.account.state) (hr : s.refusals = 0) {body : Transaction.Body α}
    {written : α → List Write} (hb : ∀ t r t', body t = .ok (r, t') → t.writeAll (written r) = .ok t')
    (refusal : Option Refusal) :
    (∃ f, s.transaction (fun t => body { t with refusal }) = (.error f, s)) ∨
      ∃ r, s.transaction (fun t => body { t with refusal }) = (.ok r, s.replaced (s.account.writeAll (written r))) ∧
        ∀ x ∈ refusal, x.Spares (written r) := by
  have ha := attempts h (.error .refusedTransaction) fun t => body { t with refusal }
  rw [transaction]
  generalize s.attempt (.error .refusedTransaction) (fun t => body { t with refusal }) = x at ha
  cases ha with
  | refused n hn => cases hr.symm.trans hn
  | failed e => exact .inl ⟨e, rfl⟩
  | committed r t _ ht =>
    have hw := hb _ r t ht
    refine .inr ⟨r, by rw [Transaction.account_of_writeAll hw]; rfl, fun x hx => ?_⟩
    exact Transaction.spares_of_writeAll hw (r := x) hx

lemma atomic_of_view (h : s.view = s.account.state) : s.Atomic where
  view := h
  attempts := attempts h
  refuses _ n _ hc := calls_failNext s n hc
  session as hr hf := by
    obtain ⟨rs, hl, hs⟩ := accesses_start s.account hf
    refine ⟨rs, hl, ?_⟩
    simp only [Storage.session, attempt, hr, hs]
    exact congrArg (Prod.mk _) (commit_eq h _)
  broken before e after hr hf := by
    obtain ⟨seen, hl, hs⟩ := accesses_start s.account hf
    refine ⟨seen, hl, ?_⟩
    simp only [Storage.session, attempt, hr, accesses_broken hs]
  groups refusal expected gs hr :=
    transaction_of_writes h hr (fun _ _ _ => writes_of_replayGroups) refusal
  difference refusal expected d hr :=
    transaction_of_writes h hr (fun _ _ _ => writes_of_replayDifference) refusal

theorem atomic_of_calls (refused : ε) (cs : List (Call ε α)) : (empty.calls refused cs).2.Atomic ∧
    (empty.calls refused cs).2.commits = (empty.calls refused cs).1.countP (·.isOk) :=
  ⟨atomic_of_view (view_calls rfl cs), (commits_calls empty cs).trans (Nat.zero_add _)⟩

end Storage

end AccountReplica
