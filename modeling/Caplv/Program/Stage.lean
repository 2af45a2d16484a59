import Caplv.Program.Logic

namespace Caplv.Program

-- What a part of a program does when it goes through, on the variables it hands on and on
-- the state: where it does, what it leaves behind and which states it passes on the way.
structure Stage (υ ω : Type) where
  ok : υ → ω → Prop
  next : υ → ω → υ × ω
  path : υ → ω → ω → Prop
  path_first : ∀ vars before, ok vars before → path vars before before
  path_next : ∀ vars before, ok vars before → path vars before (next vars before).2

namespace Stage

variable {υ ω α : Type} {a b : Stage υ ω} {rel rel' : ω → ω → Prop}

def assign (f : υ → υ) : Stage υ ω where
  ok _ _ := True
  next vars before := (f vars, before)
  path _ before mid := mid = before
  path_first _ _ _ := rfl
  path_next _ _ _ := rfl

def skip : Stage υ ω := assign id

def stop : Stage υ ω where
  ok _ _ := False
  next vars before := (vars, before)
  path _ before mid := mid = before
  path_first _ _ _ := rfl
  path_next _ _ _ := rfl

def ofResult {ε : Type} (f : α → Stage υ ω) : Except ε α → Stage υ ω
  | .error _ => stop
  | .ok value => f value

-- One change of the state, not made again where it has been made.
def once (ok : υ → ω → Prop) (update : υ → ω → υ) (effect : υ → ω → ω) : Stage υ ω where
  ok := ok
  next vars before := (update vars before, effect vars before)
  path vars before mid := mid = before ∨ mid = effect vars before
  path_first _ _ _ := .inl rfl
  path_next _ _ _ := .inr rfl

def check (ok : ω → Prop) : Stage υ ω where
  ok _ := ok
  next vars before := (vars, before)
  path _ before mid := mid = before
  path_first _ _ _ := rfl
  path_next _ _ _ := rfl

def andThen (a b : Stage υ ω) : Stage υ ω where
  ok vars before := a.ok vars before ∧ b.ok (a.next vars before).1 (a.next vars before).2
  next vars before := b.next (a.next vars before).1 (a.next vars before).2
  path vars before mid := a.path vars before mid ∨
    b.path (a.next vars before).1 (a.next vars before).2 mid
  path_first _ _ h := .inl (a.path_first _ _ h.1)
  path_next _ _ h := .inr (b.path_next _ _ h.2)

def each (f : α → Stage υ ω) : List α → Stage υ ω
  | [] => skip
  | x :: rest => (f x).andThen (each f rest)

-- Started again in a state it has passed, the stage ends where it was going to end.
def Resumes (a : Stage υ ω) : Prop :=
  ∀ vars before mid, a.ok vars before → a.path vars before mid →
    a.ok vars mid ∧ a.next vars mid = a.next vars before

def Within (a : Stage υ ω) (rel : ω → ω → Prop) : Prop :=
  ∀ vars before mid, a.ok vars before → a.path vars before mid → rel before mid

-- Once it has gone through, the stage has nothing left to do in any related state.
def Settles (a : Stage υ ω) (rel : ω → ω → Prop) : Prop :=
  ∀ vars before later, a.ok vars before → rel (a.next vars before).2 later →
    a.ok vars later ∧ a.next vars later = ((a.next vars before).1, later)

theorem Within.mono (h : a.Within rel) (hrel : ∀ before mid, rel before mid → rel' before mid) :
    a.Within rel' :=
  fun vars before mid hok hpath => hrel before mid (h vars before mid hok hpath)

theorem Settles.mono (h : a.Settles rel) (hrel : ∀ before mid, rel' before mid → rel before mid) :
    a.Settles rel' :=
  fun vars before later hok hlater => h vars before later hok (hrel _ _ hlater)

theorem andThen_within (ha : a.Within rel) (hb : b.Within rel)
    (htrans : ∀ x y z, rel x y → rel y z → rel x z) : (a.andThen b).Within rel := by
  rintro vars before mid ⟨hoka, hokb⟩ (hpath | hpath)
  · exact ha vars before mid hoka hpath
  · have hfirst := ha vars before _ hoka (a.path_next vars before hoka)
    exact htrans _ _ _ hfirst (hb _ _ mid hokb hpath)

-- The first stage is settled while the second runs, and stays so.
theorem andThen_settles (ha : a.Settles rel) (hwithin : b.Within rel) (hb : b.Settles rel')
    (htrans : ∀ x y z, rel x y → rel' y z → rel x z) : (a.andThen b).Settles rel' := by
  rintro vars before later ⟨hoka, hokb⟩ hlater
  have hsecond := hwithin _ _ _ hokb (b.path_next _ _ hokb)
  obtain ⟨hok, hnext⟩ := ha vars before later hoka (htrans _ _ _ hsecond hlater)
  obtain ⟨hok', hnext'⟩ := hb _ _ later hokb hlater
  refine ⟨⟨hok, ?_⟩, ?_⟩
  · rw [hnext]
    exact hok'
  · change b.next (a.next vars later).1 (a.next vars later).2 = _
    rw [hnext]
    exact hnext'

-- Cut in the first stage, the sequence takes it up where it was; cut in the second, it
-- passes through the first without an effect.
theorem andThen_resumes (ha : a.Resumes) (hb : b.Resumes) (hsettles : a.Settles rel)
    (hwithin : b.Within rel) : (a.andThen b).Resumes := by
  rintro vars before mid ⟨hoka, hokb⟩ (hpath | hpath)
  · obtain ⟨hok, hnext⟩ := ha vars before mid hoka hpath
    refine ⟨⟨hok, ?_⟩, ?_⟩
    · rw [hnext]
      exact hokb
    · change b.next (a.next vars mid).1 (a.next vars mid).2 = _
      rw [hnext]
      rfl
  · obtain ⟨hok, hnext⟩ := hsettles vars before mid hoka (hwithin _ _ _ hokb hpath)
    obtain ⟨hok', hnext'⟩ := hb _ _ mid hokb hpath
    refine ⟨⟨hok, ?_⟩, ?_⟩
    · rw [hnext]
      exact hok'
    · change b.next (a.next vars mid).1 (a.next vars mid).2 = _
      rw [hnext]
      exact hnext'

theorem assign_within {f : υ → υ} (hrefl : ∀ x, rel x x) : (assign f : Stage υ ω).Within rel := by
  rintro vars before _ - rfl
  exact hrefl _

theorem assign_settles {f : υ → υ} : (assign f : Stage υ ω).Settles rel :=
  fun _ _ _ _ _ => ⟨trivial, rfl⟩

theorem assign_resumes {f : υ → υ} : (assign f : Stage υ ω).Resumes := by
  rintro vars before _ - rfl
  exact ⟨trivial, rfl⟩

theorem stop_within : (stop : Stage υ ω).Within rel := fun _ _ _ hok => hok.elim

theorem stop_settles : (stop : Stage υ ω).Settles rel := fun _ _ _ hok => hok.elim

theorem stop_resumes : (stop : Stage υ ω).Resumes := fun _ _ _ hok => hok.elim

theorem check_settles {ok : ω → Prop} (hok : ∀ before later, ok before → rel before later → ok later) :
    (check ok : Stage υ ω).Settles rel :=
  fun _ before later h hrel => ⟨hok before later h hrel, rfl⟩

theorem check_resumes {ok : ω → Prop} : (check ok : Stage υ ω).Resumes := by
  rintro vars before _ hok rfl
  exact ⟨hok, rfl⟩

section Once

variable {ok : υ → ω → Prop} {update : υ → ω → υ} {effect : υ → ω → ω}

theorem once_within (hrefl : ∀ x, rel x x)
    (heffect : ∀ vars before, ok vars before → rel before (effect vars before)) :
    (once ok update effect).Within rel := by
  rintro vars before _ hok (rfl | rfl)
  · exact hrefl _
  · exact heffect vars before hok

theorem once_settles (hsettled : ∀ vars before later, ok vars before → rel (effect vars before) later →
      ok vars later ∧ update vars later = update vars before ∧ effect vars later = later) :
    (once ok update effect).Settles rel := by
  intro vars before later hok hlater
  obtain ⟨hok', hvars, hstate⟩ := hsettled vars before later hok hlater
  exact ⟨hok', Prod.ext hvars hstate⟩

-- A stage that is settled where it ends can be cut before or after its one change.
theorem once_resumes (hsettles : (once ok update effect).Settles rel) (hrefl : ∀ x, rel x x) :
    (once ok update effect).Resumes := by
  rintro vars before _ hok (rfl | rfl)
  · exact ⟨hok, rfl⟩
  · exact hsettles vars before _ hok (hrefl _)

end Once

structure Steady (a : Stage υ ω) (rel : ω → ω → Prop) : Prop where
  within : a.Within rel
  settles : a.Settles rel
  resumes : a.Resumes

theorem assign_steady {f : υ → υ} (hrefl : ∀ x, rel x x) : (assign f : Stage υ ω).Steady rel :=
  ⟨assign_within hrefl, assign_settles, assign_resumes⟩

theorem stop_steady : (stop : Stage υ ω).Steady rel := ⟨stop_within, stop_settles, stop_resumes⟩

theorem once_steady {ok : υ → ω → Prop} {update : υ → ω → υ} {effect : υ → ω → ω}
    (hrefl : ∀ x, rel x x) (heffect : ∀ vars before, ok vars before → rel before (effect vars before))
    (hsettles : (once ok update effect).Settles rel) : (once ok update effect).Steady rel :=
  ⟨once_within hrefl heffect, hsettles, once_resumes hsettles hrefl⟩

theorem Steady.andThen (ha : a.Steady rel) (hb : b.Steady rel)
    (htrans : ∀ x y z, rel x y → rel y z → rel x z) : (a.andThen b).Steady rel :=
  ⟨andThen_within ha.within hb.within htrans, andThen_settles ha.settles hb.within hb.settles htrans,
    andThen_resumes ha.resumes hb.resumes ha.settles hb.within⟩

section Result

variable {ε : Type} {f : α → Stage υ ω}

theorem ofResult_within (result : Except ε α) (hf : ∀ value, (f value).Within rel) :
    (ofResult f result).Within rel := by
  cases result with
  | error err => exact stop_within
  | ok value => exact hf value

theorem ofResult_settles (result : Except ε α) (hf : ∀ value, (f value).Settles rel) :
    (ofResult f result).Settles rel := by
  cases result with
  | error err => exact stop_settles
  | ok value => exact hf value

theorem ofResult_resumes (result : Except ε α) (hf : ∀ value, (f value).Resumes) :
    (ofResult f result).Resumes := by
  cases result with
  | error err => exact stop_resumes
  | ok value => exact hf value

theorem ofResult_steady (result : Except ε α) (hf : ∀ value, (f value).Steady rel) :
    (ofResult f result).Steady rel :=
  ⟨ofResult_within result fun value => (hf value).within,
    ofResult_settles result fun value => (hf value).settles,
    ofResult_resumes result fun value => (hf value).resumes⟩

end Result

theorem each_steady {f : α → Stage υ ω} {list : List α} (hf : ∀ x ∈ list, (f x).Steady rel)
    (hrefl : ∀ x, rel x x) (htrans : ∀ x y z, rel x y → rel y z → rel x z) :
    (each f list).Steady rel := by
  induction list with
  | nil => exact assign_steady hrefl
  | cons x rest ih =>
    exact (hf x List.mem_cons_self).andThen (ih fun y hy => hf y (List.mem_cons_of_mem _ hy)) htrans

end Stage

section Performs

variable {sig : Signature} {υ ω α β : Type} {machine : Machine sig ω} {stage : Stage υ ω}
  {goesOn : α → υ → Prop} {stops : α → Prop} {vars : υ} {before : ω}

-- What is left of a program that started in `before` does what the stage says: it goes on
-- where the stage is ok, along the stage's path and to the stage's end, and stops elsewhere.
def Performing (machine : Machine sig ω) (stage : Stage υ ω) (goesOn : α → υ → Prop)
    (stops : α → Prop) (vars : υ) (before : ω) : Prog sig α → ω → Prop :=
  Holds machine.handler (fun mid _ => stage.ok vars before → stage.path vars before mid)
    (fun value after =>
      (stage.ok vars before ∧ goesOn value (stage.next vars before).1 ∧
        after = (stage.next vars before).2) ∨
      (¬ stage.ok vars before ∧ stops value))

def Performs (machine : Machine sig ω) (stage : Stage υ ω) (goesOn : α → υ → Prop)
    (stops : α → Prop) (prog : Prog sig α) (vars : υ) (before : ω) : Prop :=
  Performing machine stage goesOn stops vars before prog before

theorem Performing.ask {op : sig.Op} {next : sig.Reply op → Prog sig α} {now after : ω}
    {reply : sig.Reply op} (hpath : stage.ok vars before → stage.path vars before now)
    (hop : machine now op = (reply, after))
    (hnext : Performing machine stage goesOn stops vars before (next reply) after) :
    Performing machine stage goesOn stops vars before (.ask op next) now := by
  refine ⟨fun hok => hpath hok, fun reply' after' hs => ?_⟩
  obtain ⟨rfl, rfl⟩ := Prod.mk.inj (hop.symm.trans hs)
  exact hnext

theorem Performs.bind {a b : Stage υ ω} {goesOn' : β → υ → Prop} {stops' : β → Prop}
    {prog : Prog sig α} {f : α → Prog sig β}
    (hprog : Performs machine a goesOn stops prog vars before)
    (hf : ∀ value, a.ok vars before → goesOn value (a.next vars before).1 →
      Performs machine b goesOn' stops' (f value) (a.next vars before).1 (a.next vars before).2)
    (hstop : ∀ value after, stops value →
      Holds machine.handler (fun _ _ => True) (fun value' _ => stops' value') (f value) after) :
    Performs machine (a.andThen b) goesOn' stops' (prog >>= f) vars before := by
  refine Holds.bind (hprog.mono (fun _ _ _ _ hs => hs) (fun _ _ hg hok => .inl (hg hok.1))
    fun _ _ hpost => hpost) ?_
  rintro value after (⟨hok, hvalue, rfl⟩ | ⟨hnok, hvalue⟩)
  · refine (hf value hok hvalue).mono (fun _ _ _ _ hs => hs) (fun _ _ hg hok' => .inr (hg hok'.2)) ?_
    rintro value' after (⟨hok', hgoes, hafter⟩ | ⟨hnok, hstops⟩)
    · exact .inl ⟨⟨hok, hok'⟩, hgoes, hafter⟩
    · exact .inr ⟨fun h => hnok h.2, hstops⟩
  · exact (hstop value after hvalue).mono (fun _ _ _ _ hs => hs) (fun _ _ _ h => (hnok h.1).elim)
      fun _ _ h => .inr ⟨fun hok => hnok hok.1, h⟩

-- What follows the stage may turn the outcome into another one.
theorem Performs.map {goesOn' : β → υ → Prop} {stops' : β → Prop} {prog : Prog sig α}
    {f : α → Prog sig β} (hprog : Performs machine stage goesOn stops prog vars before)
    (hgoes : ∀ value vars', goesOn value vars' → ∃ value', f value = .done value' ∧ goesOn' value' vars')
    (hstops : ∀ value, stops value → ∃ value', f value = .done value' ∧ stops' value') :
    Performs machine stage goesOn' stops' (prog >>= f) vars before := by
  refine Holds.bind hprog ?_
  rintro value after (⟨hok, hvalue, hafter⟩ | ⟨hnok, hvalue⟩)
  · obtain ⟨value', heq, hvalue'⟩ := hgoes value _ hvalue
    rw [heq]
    exact .inl ⟨hok, hvalue', hafter⟩
  · obtain ⟨value', heq, hvalue'⟩ := hstops value hvalue
    rw [heq]
    exact .inr ⟨hnok, hvalue'⟩

theorem Holds.visited {guard : ω → sig.Op → Prop} {post : α → ω → Prop} (inv : ω → Prop)
    {prog : Prog sig α} {state mid : ω} (h : Holds machine.handler guard post prog state)
    (hguard : ∀ m op, guard m op → inv m) (hpost : ∀ value m, post value m → inv m)
    (hmid : mid ∈ visited machine prog state) : inv mid := by
  induction prog generalizing state with
  | done value =>
    rw [Program.visited, List.mem_singleton] at hmid
    exact hmid ▸ hpost value state h
  | ask op next ih =>
    rw [Program.visited, List.mem_cons] at hmid
    rcases hmid with rfl | hmid
    · exact hguard _ op h.1
    · exact ih _ (h.2 _ _ rfl) hmid

-- A run that performs a resumable stage can be cut anywhere: from the state it left,
-- another run that performs the stage goes on with the same variables and the same state.
theorem Performs.resume {again first : Prog sig α} (hstage : stage.Resumes)
    (hfirst : Performs machine stage goesOn stops first vars before)
    (hagain : ∀ mid, Performs machine stage goesOn stops again vars mid)
    (hgoes : ¬ stops (run machine first before).1) {mid : ω}
    (hmid : mid ∈ visited machine first before) :
    goesOn (run machine again mid).1 (stage.next vars before).1 ∧
      (run machine again mid).2 = (run machine first before).2 := by
  obtain ⟨hok, -, hafter⟩ := (Holds.run hfirst).resolve_right fun h => hgoes h.2
  have hpath : stage.path vars before mid := by
    refine Holds.visited (stage.path vars before) hfirst (fun m op hg => hg hok) ?_ hmid
    rintro value m (⟨-, -, rfl⟩ | ⟨hnok, -⟩)
    · exact stage.path_next vars before hok
    · exact (hnok hok).elim
  obtain ⟨hok', hnext⟩ := hstage vars before mid hok hpath
  obtain ⟨-, hgoes', hafter'⟩ := (Holds.run (hagain mid)).resolve_right fun h => h.1 hok'
  rw [hnext] at hgoes' hafter'
  exact ⟨hgoes', hafter'.trans hafter.symm⟩

end Performs

end Caplv.Program
