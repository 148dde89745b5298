import AccountReplica.Proofs.Storage.Writes

/-! The order in which an account is written: nothing counts but the write that comes last for a record. -/

namespace AccountReplica

inductive RecordKey
  | message (id : MessageId)
  | webpage (media : MediaId)
  | contact (peer : PeerId)
deriving DecidableEq

inductive Record
  | message (message : Message)
  | webpage (page : Webpage)
  | contact (isContact : Bool)
deriving DecidableEq

def Account.record? (a : Account) : RecordKey → Option Record
  | .message id => a.messages[id]?.map .message
  | .webpage media => a.webpages[media]?.map .webpage
  | .contact peer => a.contacts[peer]?.map .contact

namespace Write

def keys : Write → List RecordKey
  | storeMessage m => [.message m.id]
  | deleteMessages ids => ids.map .message
  | storeWebpage page => [.webpage page.media]
  | setContact peer _ => [.contact peer]
  | setState _ | readInbox .. => []

def record? : Write → Option Record
  | storeMessage m => some (.message m)
  | storeWebpage page => some (.webpage page)
  | setContact _ isContact => some (.contact isContact)
  | _ => none

def under (k : RecordKey) (w : Write) : Option (Option Record) :=
  if k ∈ w.keys then some w.record? else none

/-- Read marks take the largest number, in whatever order they are written. -/
def mark (marks : Std.ExtTreeMap PeerId Int32) : Write → Std.ExtTreeMap PeerId Int32
  | readInbox chat upTo => marks.insert chat (max (marks.getD chat 0) upTo)
  | _ => marks

end Write

def RecordKey.last (k : RecordKey) (ws : List Write) : Option (Option Record) :=
  (ws.filterMap (Write.under k)).getLast?

def SameLasts (ws ws' : List Write) : Prop :=
  ∀ k : RecordKey, k.last ws = k.last ws'

section

variable {k : RecordKey} {ws ws' : List Write}

lemma RecordKey.last_cons (w : Write) : k.last (w :: ws) = (k.last ws).or (w.under k) := by
  simp only [last, List.filterMap_cons]
  cases w.under k with
  | none => simp
  | some x => rw [List.getLast?_cons, Option.or_some]

lemma RecordKey.last_eq_none_iff : k.last ws = none ↔ ∀ w ∈ ws, k ∉ w.keys := by
  simp [last, Write.under]

instance : Decidable (SameLasts ws ws') :=
  decidable_of_iff (∀ k ∈ (ws ++ ws').flatMap Write.keys, k.last ws = k.last ws') <| by
    refine ⟨fun h k => ?_, fun h k _ => h k⟩
    by_cases hk : k ∈ (ws ++ ws').flatMap Write.keys
    · exact h k hk
    · simp only [List.mem_flatMap, List.mem_append, not_exists, not_and] at hk
      rw [RecordKey.last_eq_none_iff.mpr fun w hm => hk w (.inl hm),
        RecordKey.last_eq_none_iff.mpr fun w hm => hk w (.inr hm)]

end

section

variable {κ β : Type} [Ord κ] [Std.TransOrd κ] [Std.LawfulEqOrd κ] [DecidableEq κ]

lemma getElem?_insert_eq (m : Std.ExtTreeMap κ β) (k x : κ) (v : β) :
    (m.insert k v)[x]? = if x = k then some v else m[x]? := by
  rw [Std.ExtTreeMap.getElem?_insert]
  simp only [Std.LawfulEqCmp.compare_eq_iff_eq]
  exact if_congr eq_comm rfl rfl

lemma getElem?_eraseAll (ks : List κ) (m : Std.ExtTreeMap κ β) (x : κ) :
    (ks.foldl (·.erase ·) m)[x]? = if x ∈ ks then none else m[x]? := by
  induction ks generalizing m with
  | nil => simp
  | cons k ks ih =>
    rw [List.foldl_cons, ih, Std.ExtTreeMap.getElem?_erase]
    by_cases hk : k = x
    · simp [hk]
    · simp [hk, Ne.symm hk]

end

namespace Account

lemma record?_write (a : Account) (w : Write) (k : RecordKey) :
    (a.write w).record? k = (w.under k).getD (a.record? k) := by
  cases w with
  | setState | readInbox => rfl
  | storeMessage m =>
    cases k with
    | message id =>
      by_cases h : id = m.id <;>
        simp [write, record?, Write.under, Write.keys, Write.record?, getElem?_insert_eq, h]
    | _ => simp [write, record?, Write.under, Write.keys]
  | deleteMessages ids =>
    cases k with
    | message id =>
      by_cases h : id ∈ ids <;> simp [write, record?, Write.under, Write.keys, Write.record?, getElem?_eraseAll, h]
    | _ => simp [write, record?, Write.under, Write.keys]
  | storeWebpage page =>
    cases k with
    | webpage media =>
      by_cases h : media = page.media <;>
        simp [write, record?, Write.under, Write.keys, Write.record?, getElem?_insert_eq, h]
    | _ => simp [write, record?, Write.under, Write.keys]
  | setContact peer isContact =>
    cases k with
    | contact peer' =>
      by_cases h : peer' = peer <;>
        simp [write, record?, Write.under, Write.keys, Write.record?, getElem?_insert_eq, h]
    | _ => simp [write, record?, Write.under, Write.keys]

lemma record?_writeAll (a : Account) (ws : List Write) (k : RecordKey) :
    (a.writeAll ws).record? k = (k.last ws).getD (a.record? k) := by
  induction ws generalizing a with
  | nil => rfl
  | cons w ws ih =>
    refine (ih (a.write w)).trans ?_
    rw [record?_write, RecordKey.last_cons]
    cases k.last ws <;> rfl

lemma inboxRead_writeAll (a : Account) (ws : List Write) :
    (a.writeAll ws).inboxRead = ws.foldl Write.mark a.inboxRead := by
  induction ws generalizing a with
  | nil => rfl
  | cons w ws ih =>
    refine (ih (a.write w)).trans ?_
    cases w <;> rfl

lemma settings_writeAll (a : Account) (ws : List Write) : (a.writeAll ws).settings = a.settings :=
  foldl_keeps (f := write) (·.settings) (fun _ w => by cases w <;> rfl) ws a

lemma ext_record? {a b : Account} (hs : a.state = b.state) (hi : a.inboxRead = b.inboxRead)
    (ht : a.settings = b.settings) (hr : ∀ k, a.record? k = b.record? k) : a = b := by
  obtain ⟨state, messages, inboxRead, settings, webpages, contacts⟩ := a
  have hm := fun id => hr (.message id)
  have hw := fun media => hr (.webpage media)
  have hc := fun peer => hr (.contact peer)
  simp only [record?] at hm hw hc
  cases hs
  cases hi
  cases ht
  cases Std.ExtTreeMap.ext_getElem? fun id => Option.map_injective (fun _ _ => Record.message.inj) (hm id)
  cases Std.ExtTreeMap.ext_getElem? fun media => Option.map_injective (fun _ _ => Record.webpage.inj) (hw media)
  cases Std.ExtTreeMap.ext_getElem? fun peer => Option.map_injective (fun _ _ => Record.contact.inj) (hc peer)
  rfl

end Account

lemma Write.mark_comm (m : Std.ExtTreeMap PeerId Int32) (w w' : Write) : mark (mark m w) w' = mark (mark m w') w := by
  cases w with
  | readInbox c n =>
    cases w' with
    | readInbox c' n' =>
      refine Std.ExtTreeMap.ext_getElem? fun x => ?_
      simp only [mark, getElem?_insert_eq, Std.ExtTreeMap.getD_eq_getD_getElem?]
      by_cases hc : c = c'
      · subst hc
        by_cases hx : x = c
        · simp [hx, max_right_comm]
        · simp [hx]
      · by_cases hx : x = c
        · simp [hx, hc]
        · simp [hx, Ne.symm hc]
    | _ => rfl
  | _ => cases w' <;> rfl

namespace Account

variable {ws ws' : List Write}

lemma inboxRead_perm (h : ws.Perm ws') (a : Account) : (a.writeAll ws).inboxRead = (a.writeAll ws').inboxRead := by
  rw [inboxRead_writeAll, inboxRead_writeAll]
  exact h.foldl_eq' (fun w _ w' _ m => Write.mark_comm m w w') _

theorem writeAll_eq_iff (h : ws.Perm ws') (a : Account) (s : SequenceState) :
    (a.writeAll ws).write (.setState s) = (a.writeAll ws').write (.setState s) ↔ SameLasts ws ws' := by
  have hr (ws : List Write) (k : RecordKey) :
      ((a.writeAll ws).write (.setState s)).record? k = (k.last ws).getD (a.record? k) :=
    record?_writeAll a ws k
  refine ⟨fun he k => ?_, fun hl => ?_⟩
  · have hk := congrArg (·.record? k) he
    simp only [hr] at hk
    have hn : k.last ws = none ↔ k.last ws' = none := by
      simp only [RecordKey.last_eq_none_iff, h.mem_iff]
    cases hx : k.last ws with
    | none => exact (hn.mp hx).symm
    | some x =>
      cases hy : k.last ws' with
      | none => cases hx.symm.trans (hn.mpr hy)
      | some y =>
        rw [hx, hy] at hk
        exact congrArg some hk
  · refine ext_record? rfl (inboxRead_perm h a) ?_ fun k => ?_
    · exact (settings_writeAll a ws).trans (settings_writeAll a ws').symm
    · rw [hr, hr, hl k]

end Account

end AccountReplica
