import Caplv.Program.Workqueue

namespace Caplv.Program

-- An object under watch: what was last seen of it, and what was stored since, in order.
structure Watched (α : Type) where
  seen : α
  behind : List α

namespace Watched

variable {α : Type} (object : Watched α)

def stored : α := object.behind.getLast?.getD object.seen

def write (value : α) : Watched α := { object with behind := object.behind ++ [value] }

-- A write that changes nothing is none.
def put [DecidableEq α] (value : α) : Watched α := if value = object.stored then object else object.write value

variable {object}

theorem write_behind (value : α) : (object.write value).behind ≠ [] := by
  simp [write]

theorem put_seen [DecidableEq α] (value : α) : (object.put value).seen = object.seen := by
  unfold put
  split
  · rfl
  · rfl

theorem of_put_behind [DecidableEq α] {value : α} (h : (object.put value).behind = []) :
    object.put value = object ∧ object.stored = object.seen ∧ value = object.seen := by
  unfold put at h ⊢
  split
  · rename_i hsame
    rw [if_pos hsame] at h
    have hstored : object.stored = object.seen := by
      rw [stored, h]
      rfl
    exact ⟨rfl, hstored, hsame.trans hstored⟩
  · rename_i hdiffers
    rw [if_neg hdiffers] at h
    exact absurd h (write_behind value)

end Watched

-- What a server stores of the objects under their keys and what a controller has seen of it, with
-- what the run for each key has fetched. The objects come in groups, and a group may be paused.
-- `missed` marks the objects that had a write of their run fail, or the pause of their group end,
-- since they were last seen to change.
structure Informed (κ α : Type) where
  objects : κ → Watched (Option α)
  fetched : κ → Option α
  paused : κ → Bool
  missed : κ → Bool

namespace Informed

variable {κ α : Type} [DecidableEq κ] [DecidableEq α] (informed : Informed κ α)

def hold (own : κ) (value : α) : Informed κ α :=
  { informed with fetched := Function.update informed.fetched own (some value) }

def put (key : κ) (value : Option α) (succeeded : Bool) : Informed κ α :=
  { informed with
    objects := Function.update informed.objects key ((informed.objects key).put value)
    missed := Function.update informed.missed key (informed.missed key || !succeeded) }

def view (key : κ) : Option α × Option α := ((informed.objects key).seen, informed.fetched key)

theorem view_put (key : κ) (value : Option α) (succeeded : Bool) (other : κ) :
    (informed.put key value succeeded).view other = informed.view other := by
  unfold view put
  by_cases hkey : other = key
  · subst hkey
    simp [Watched.put_seen]
  · simp [hkey]

omit [DecidableEq α] in
theorem view_hold_of_ne {own other : κ} (value : α) (hother : other ≠ own) :
    (informed.hold own value).view other = informed.view other := by
  simp [view, hold, hother]

end Informed

section Learning

variable {κ α : Type} [DecidableEq κ] (groupOf : α → κ) {sig : Signature}
  {reconciler : Reconciler sig (Informed κ α) κ}

-- Anybody may write an object. What was stored reaches the controller in order, though not every
-- version of it. Nobody tells it that a group's pause has begun or ended.
inductive Learns (before after : Informed κ α) : List κ → Prop where
  | write (key : κ) (value : Option α)
      (hafter : after = { before with
        objects := Function.update before.objects key ((before.objects key).write value) }) : Learns before after []
  | deliver (key : κ) (skipped rest : List (Option α)) (value : Option α)
      (hbehind : (before.objects key).behind = skipped ++ value :: rest)
      (hafter : after = { before with
        objects := Function.update before.objects key ⟨value, rest⟩
        missed := Function.update before.missed key false }) : Learns before after [key]
  | pause (group : κ) (paused : Bool) (missed : κ → Bool)
      (hafter : after = { before with paused := Function.update before.paused group paused, missed := missed })
      (hmissed : ∀ key, missed key = false → before.missed key = false ∧
        ∀ value, (before.objects key).seen = some value → groupOf value = group → before.paused group = true →
          paused = true) : Learns before after []
  | notify (keys : List κ) (hafter : after = before) : Learns before after keys

-- The controller is up to date with an object that is wanted and not paused.
structure Due (wanted : α → Prop) (informed : Informed κ α) (key : κ) (value : α) : Prop where
  current : (informed.objects key).behind = []
  told : informed.missed key = false
  seen : (informed.objects key).seen = some value
  unpaused : informed.paused (groupOf value) = false
  wanted : wanted value

def Waits (wanted : α → Prop) (informed : Informed κ α) (key : κ) : Prop :=
  ∃ value, Due groupOf wanted informed key value

variable {groupOf} {wanted : α → Prop} {informed other : Informed κ α} {key : κ} {value : α}

omit [DecidableEq κ] in
theorem Due.congr (h : Due groupOf wanted informed key value) (hobject : informed.objects key = other.objects key)
    (hmissed : informed.missed key = other.missed key) (hpaused : informed.paused = other.paused) :
    Due groupOf wanted other key value where
  current := hobject ▸ h.current
  told := hmissed ▸ h.told
  seen := hobject ▸ h.seen
  unpaused := hpaused ▸ h.unpaused
  wanted := h.wanted

omit [DecidableEq κ] in
theorem Due.value_eq {held : α} (h : Due groupOf wanted informed key value)
    (hview : informed.view key = (some held, some held)) : value = held :=
  Option.some.inj (h.seen.symm.trans (congrArg Prod.fst hview))

theorem Due.of_hold {own : κ} {held : α} (h : Due groupOf wanted (informed.hold own held) key value) :
    Due groupOf wanted informed key value := h.congr rfl rfl rfl

theorem Due.of_put [DecidableEq α] {written : κ} {new : Option α} {succeeded : Bool}
    (h : Due groupOf wanted (informed.put written new succeeded) key value) :
    Due groupOf wanted informed key value := by
  by_cases hkey : key = written
  · subst hkey
    have hcurrent := h.current
    have htold := h.told
    simp only [Informed.put, Function.update_self] at hcurrent htold
    refine h.congr ?_ ?_ rfl
    · simp only [Informed.put, Function.update_self]
      exact (Watched.of_put_behind hcurrent).1
    · simp only [Informed.put, Function.update_self]
      rw [htold, (Bool.or_eq_false_iff.mp htold).1]
  · exact h.congr (Function.update_of_ne hkey ..) (Function.update_of_ne hkey ..) rfl

theorem Due.put_unchanged [DecidableEq α] {new : Option α} {succeeded : Bool}
    (h : Due groupOf wanted (informed.put key new succeeded) key value) :
    succeeded = true ∧ (informed.objects key).stored = some value ∧ new = some value := by
  have hcurrent := h.current
  have htold := h.told
  simp only [Informed.put, Function.update_self] at hcurrent htold
  obtain ⟨-, hstored, hnew⟩ := Watched.of_put_behind hcurrent
  have hseen := h.of_put.seen
  refine ⟨?_, hstored.trans hseen, hnew.trans hseen⟩
  simpa using (Bool.or_eq_false_iff.mp htold).2

theorem learns_watches (hchanges : reconciler.changes = Learns groupOf) (wanted : α → Prop) :
    reconciler.Watches (Waits groupOf wanted) Informed.view := by
  intro before after keys key hlearns
  rw [hchanges] at hlearns
  cases hlearns with
  | write changed new hafter =>
    subst hafter
    by_cases hkey : key = changed
    · subst hkey
      refine ⟨?_, .inl ?_⟩
      · rintro ⟨value, hdue⟩
        have hcurrent := hdue.current
        simp only [Function.update_self] at hcurrent
        exact absurd hcurrent (Watched.write_behind new)
      · simp [Informed.view, Watched.write]
    · refine ⟨?_, .inl ?_⟩
      · rintro ⟨value, hdue⟩
        exact .inl ⟨value, hdue.congr (Function.update_of_ne hkey ..) rfl rfl⟩
      · simp [Informed.view, hkey]
  | deliver changed skipped rest new hbehind hafter =>
    subst hafter
    by_cases hkey : key = changed
    · exact ⟨fun _ => .inr (List.mem_singleton.mpr hkey), .inr (List.mem_singleton.mpr hkey)⟩
    · refine ⟨?_, .inl ?_⟩
      · rintro ⟨value, hdue⟩
        exact .inl ⟨value, hdue.congr (Function.update_of_ne hkey ..) (Function.update_of_ne hkey ..) rfl⟩
      · simp [Informed.view, hkey]
  | pause group paused missed hafter hmissed =>
    subst hafter
    refine ⟨?_, .inl rfl⟩
    rintro ⟨value, hdue⟩
    obtain ⟨htold, hlifted⟩ := hmissed key hdue.told
    have hunpaused := hdue.unpaused
    refine .inl ⟨value, { hdue with told := htold, unpaused := ?_ }⟩
    by_cases hgroup : groupOf value = group
    · simp only [hgroup, Function.update_self] at hunpaused
      rw [hgroup, ← Bool.not_eq_true]
      intro hpaused
      have hstill := hlifted value hdue.seen hgroup hpaused
      rw [hunpaused] at hstill
      cases hstill
    · simpa only [Function.update_of_ne hgroup] using hunpaused
  | notify keys hafter =>
    subst hafter
    exact ⟨.inl, .inl rfl⟩

-- What an operation of the run for `own` may do to what is known.
inductive Affects [DecidableEq α] (own : κ) (before : Informed κ α) : Informed κ α → Prop where
  | same : Affects own before before
  | hold (value : α) : Affects own before (before.hold own value)
  | put (key : κ) (value : Option α) (succeeded : Bool) : Affects own before (before.put key value succeeded)

theorem affects_modest [DecidableEq α]
    (haffects : ∀ own before op reply after, reconciler.act own before op reply after → Affects own before after) :
    reconciler.Modest (Waits groupOf wanted) Informed.view := by
  intro own before op reply after key hact
  cases haffects own before op reply after hact with
  | same => exact ⟨id, fun _ => rfl⟩
  | hold held =>
    refine ⟨?_, before.view_hold_of_ne held⟩
    rintro ⟨value, hdue⟩
    exact ⟨value, hdue.of_hold⟩
  | put written new succeeded =>
    refine ⟨?_, fun _ => before.view_put written new succeeded key⟩
    rintro ⟨value, hdue⟩
    exact ⟨value, hdue.of_put⟩

-- A controller that starts with everything it has seen marked loses nothing that is due.
theorem due_pending [DecidableEq α] (hchanges : reconciler.changes = Learns groupOf)
    (haffects : ∀ own before op reply after, reconciler.act own before op reply after → Affects own before after)
    (hsettles : ∀ key, Reconciler.Settles (reconciler.act key) (Waits groupOf wanted · key) (Informed.view · key)
      (fun _ => True) (reconciler.reconcile key))
    {c : Config ((queueing κ).sum sig) (Informed κ α × Workqueue κ) κ Unit}
    (hc : reconciler.system.Reachable
      (fun state => ∀ key, (state.1.objects key).seen ≠ none → state.2.dirty key = true) c)
    (hfree : c.state.2.processing key = false) (hdue : Due groupOf wanted c.state.1 key value) :
    c.state.2.Pending key := by
  have hmodest : reconciler.Modest (Waits groupOf wanted) Informed.view := affects_modest haffects
  refine Reconciler.never_lost (learns_watches hchanges wanted) hmodest
    (fun key => Reconciler.Settles.reconciles hmodest (hsettles key))
    (fun state hstate key hwaits => .inl (hstate key ?_)) hc hfree ⟨value, hdue⟩
  obtain ⟨value, hdue⟩ := hwaits
  rw [hdue.seen]
  exact Option.some_ne_none value

end Learning

end Caplv.Program
