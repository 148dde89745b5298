import AccountReplica.Proofs.Replica.Commits
import AccountReplica.Proofs.Replica.Sound
import Mathlib.Data.List.Induction

/-! Which move of a run an entry of the history or a report comes from. -/

namespace AccountReplica.Replica

variable {r r' : Replica} {retryDelay : Nat} {storage : SharedStorage} {moves : List Move}

lemma flatMap_turned {α : Type} (f : Entry → List α) (r : Replica) (i : Input)
    (underway : List (OperationId × Errand)) :
    (r.turned i underway).history.flatMap f = r.history.flatMap f ++ f (.turn r.engine i) := by
  simp [turned]

lemma flatMap_still {α : Type} {f : Entry → List α} (hf : ∀ id what, f (.commit id what) = [])
    (h : r'.history = r.history ∨ ∃ id what, r'.history = r.history ++ [.commit id what]) :
    r'.history.flatMap f = r.history.flatMap f := by
  rcases h with h | ⟨id, what, h⟩
  · rw [h]
  · rw [h, List.flatMap_append, List.flatMap_singleton, hf, List.append_nil]

lemma run_concat (r : Replica) (moves : List Move) (m : Move) : r.run (moves ++ [m]) = (r.run moves).move m :=
  List.foldl_concat ..

lemma history_run (retryDelay : Nat) (storage : SharedStorage) (moves more : List Move) :
    ∃ later, ((new retryDelay storage).run (moves ++ more)).history =
      ((new retryDelay storage).run moves).history ++ later := by
  induction more using List.reverseRecOn with
  | nil => exact ⟨[], by rw [List.append_nil, List.append_nil]⟩
  | append_singleton more m ih =>
    obtain ⟨later, hl⟩ := ih
    have ha := (advance (sound_of_run retryDelay storage (moves ++ more)) m).1
    rw [← List.append_assoc, run_concat]
    rcases ha.history_cases with h | ⟨x, h⟩
    · exact ⟨later, h.trans hl⟩
    · exact ⟨later ++ [x], by rw [h, hl, List.append_assoc]⟩

lemma move_of_entry {before after : List Entry} {x : Entry}
    (h : ((new retryDelay storage).run moves).history = before ++ x :: after) :
    ∃ moves₁ m moves₂, moves = moves₁ ++ m :: moves₂ ∧ ((new retryDelay storage).run moves₁).history = before ∧
      (((new retryDelay storage).run moves₁).move m).history = before ++ [x] := by
  induction moves using List.reverseRecOn generalizing after with
  | nil => exact absurd h (by simp [run, new])
  | append_singleton moves m ih =>
    have ha := (advance (sound_of_run retryDelay storage moves) m).1
    have hlater {after' : List Entry} (h : ((new retryDelay storage).run moves).history = before ++ x :: after') :
        ∃ moves₁ m' moves₂, moves ++ [m] = moves₁ ++ m' :: moves₂ ∧
          ((new retryDelay storage).run moves₁).history = before ∧
          (((new retryDelay storage).run moves₁).move m').history = before ++ [x] := by
      obtain ⟨moves₁, m', moves₂, rfl, hb, hx⟩ := ih h
      exact ⟨moves₁, m', moves₂ ++ [m], by rw [List.append_assoc, List.cons_append], hb, hx⟩
    rw [run_concat] at h
    rcases ha.history_cases with he | ⟨y, he⟩
    · exact hlater (he.symm.trans h)
    · rcases concat_eq_append_cons (he.symm.trans h) with ⟨-, rfl, hb⟩ | ⟨after', -, h'⟩
      · exact ⟨moves, m, [], rfl, hb, hb ▸ he⟩
      · exact hlater h'

/-- What was committed is what was stored at that point of the run. -/
lemma proceed_of_commit {before after : List Entry} {id : OperationId} {what : Commit}
    (h : ((new retryDelay storage).run moves).history = before ++ .commit id what :: after) :
    ∃ moves₁ n c moves₂ x, moves = moves₁ ++ .proceed n c :: moves₂ ∧
      ((new retryDelay storage).run moves₁).history = before ∧
      ((new retryDelay storage).run moves₁).underway[n]? = some (id, x) ∧ what.Of x c ∧
      ((new retryDelay storage).run (moves₁ ++ [.proceed n c])).storage.storage.account = what.left := by
  obtain ⟨moves₁, m, moves₂, rfl, rfl, hx⟩ := move_of_entry h
  cases m with
  | command c => simp [move, feed] at hx
  | proceed n c =>
    have hr := run_concat (new retryDelay storage) moves₁ (.proceed n c)
    simp only [move] at hx hr
    split at hx
    · simp at hx
    · next id' x hu =>
      simp only [hu] at hr
      obtain ⟨rfl, hw⟩ : id' = id ∧ (x.proceed c ((new retryDelay storage).run moves₁).storage).commit = some what := by
        cases hw : (x.proceed c ((new retryDelay storage).run moves₁).storage).commit <;> simp_all
      obtain ⟨ho, hl⟩ := Errand.commit_of_proceed hw
      exact ⟨moves₁, n, c, moves₂, x, rfl, rfl, hu, ho, by rw [hr]; exact hl⟩
  | deliver n =>
    simp only [move] at hx
    split at hx <;> simp [feed] at hx
  | interfere s =>
    simp only [move] at hx
    split at hx <;> simp at hx

lemma run_of_prefix {before after : List Entry}
    (h : ((new retryDelay storage).run moves).history = before ++ after) :
    ∃ moves₁, ((new retryDelay storage).run moves₁).history = before := by
  cases after with
  | nil => exact ⟨moves, h.trans (List.append_nil _)⟩
  | cons x after =>
    obtain ⟨moves₁, m, moves₂, -, hb, -⟩ := move_of_entry h
    exact ⟨moves₁, hb⟩

lemma report_of_mem_perform {xs : List Effect} {underway : List (OperationId × Errand)} {id : OperationId}
    {report : Report} (h : (id, .report report) ∈ xs.foldl perform underway) : (id, .report report) ∈ underway := by
  induction xs generalizing underway with
  | nil => exact h
  | cons x xs ih =>
    have hm := ih h
    cases x with
    | spawn id' task =>
      rcases List.mem_append.mp hm with hm | hm
      · exact hm
      · cases List.mem_singleton.mp hm
    | armTimer id' delay =>
      rcases List.mem_append.mp hm with hm | hm
      · exact hm
      · cases List.mem_singleton.mp hm
    | cancelTimer id' => exact List.mem_of_mem_filter hm
    | _ => exact hm

lemma proceed_of_report {id : OperationId} {report : Report}
    (h : (id, .report report) ∈ ((new retryDelay storage).run moves).underway) :
    ∃ before n c after x, moves = before ++ .proceed n c :: after ∧
      ((new retryDelay storage).run before).underway[n]? = some (id, x) ∧ (∀ report', x ≠ .report report') ∧
      (x.proceed c ((new retryDelay storage).run before).storage).errand = .report report := by
  induction moves using List.reverseRecOn with
  | nil => cases h
  | append_singleton moves m ih =>
    have hlater (h : (id, .report report) ∈ ((new retryDelay storage).run moves).underway) :
        ∃ before n c after x, moves ++ [m] = before ++ .proceed n c :: after ∧
          ((new retryDelay storage).run before).underway[n]? = some (id, x) ∧ (∀ report', x ≠ .report report') ∧
          (x.proceed c ((new retryDelay storage).run before).storage).errand = .report report := by
      obtain ⟨before, n, c, after, x, rfl, hx⟩ := ih h
      exact ⟨before, n, c, after ++ [m], x, by rw [List.append_assoc, List.cons_append], hx⟩
    rw [run_concat] at h
    cases m with
    | command c => exact hlater (report_of_mem_perform h)
    | proceed n c =>
      simp only [move] at h
      split at h
      · exact hlater h
      · next id' x hx =>
        rcases List.mem_or_eq_of_mem_set h with h | h
        · exact hlater h
        · obtain ⟨rfl, he⟩ := Prod.mk.inj h
          cases x with
          | report report' =>
            cases he
            exact hlater (List.mem_of_getElem? hx)
          | _ => exact ⟨moves, n, c, [], _, rfl, hx, by rintro _ ⟨⟩, he.symm⟩
    | deliver n =>
      simp only [move] at h
      split at h
      · exact hlater (List.mem_of_mem_eraseIdx (report_of_mem_perform h))
      · exact hlater h
    | interfere s =>
      simp only [move] at h
      split at h <;> exact hlater h

end AccountReplica.Replica
