import Caplv.Program.System

namespace Caplv.Program

-- Calls that share one execution per key while it is under way: the first caller leads the
-- flight and finishes it, the others wait for its outcome.
inductive FlightOp (κ τ ν : Type) where
  | enter (key : κ) (call : τ)
  | finish (flight : Nat) (outcome : ν)
  | wait (flight : Nat)

inductive Seat where
  | leader (flight : Nat)
  | follower (flight : Nat)
deriving DecidableEq, Repr

variable {κ τ ν ι : Type}

def FlightOp.Reply : FlightOp κ τ ν → Type
  | .enter _ _ => Seat
  | .finish _ _ => Unit
  | .wait _ => ν

structure Flight (κ τ ν : Type) where
  key : κ
  leader : τ
  followers : List τ
  outcome : Option ν

-- `current` is the map of keys in flight. Flights are numbered in the order of their start.
structure Flights (κ τ ν ι : Type) where
  flight : Nat → Option (Flight κ τ ν)
  next : Nat
  current : κ → Option Nat
  leads : ι → Option Nat

namespace Flights

def empty : Flights κ τ ν ι := ⟨fun _ => none, 0, fun _ => none, fun _ => none⟩

section Step

variable [DecidableEq κ] [DecidableEq ι]

def led (flights : Flights κ τ ν ι) (i : ι) (key : κ) (call : τ) : Flights κ τ ν ι :=
  { flight := Function.update flights.flight flights.next (some ⟨key, call, [], none⟩)
    next := flights.next + 1
    current := Function.update flights.current key (some flights.next)
    leads := Function.update flights.leads i (some flights.next) }

def put (flights : Flights κ τ ν ι) (n : Nat) (flight : Flight κ τ ν) : Flights κ τ ν ι :=
  { flights with flight := Function.update flights.flight n (some flight) }

-- The end of a flight takes its key out of the map, if the key is still this flight's.
def landed (flights : Flights κ τ ν ι) (n : Nat) : Flights κ τ ν ι :=
  { flights with current := fun key => if flights.current key = some n then none else flights.current key }

inductive Step (i : ι) (before : Flights κ τ ν ι) :
    (op : FlightOp κ τ ν) → op.Reply → Flights κ τ ν ι → Prop where
  | lead (key : κ) (call : τ) (h : before.current key = none) :
      Step i before (.enter key call) (Seat.leader before.next) (before.led i key call)
  | join (key : κ) (call : τ) {n : Nat} {flight : Flight κ τ ν} (h : before.current key = some n)
      (hflight : before.flight n = some flight) :
      Step i before (.enter key call) (Seat.follower n)
        (before.put n { flight with followers := call :: flight.followers })
  | finish {n : Nat} {flight : Flight κ τ ν} (outcome : ν) (hflight : before.flight n = some flight) :
      Step i before (.finish n outcome) () ((before.put n { flight with outcome := some outcome }).landed n)
  | wait {n : Nat} {flight : Flight κ τ ν} {outcome : ν} (hflight : before.flight n = some flight)
      (houtcome : flight.outcome = some outcome) : Step i before (.wait n) outcome before

-- The answer of a group that runs: a wait is answered once the flight has landed.
def ready (flights : Flights κ τ ν ι) : FlightOp κ τ ν → Bool
  | .enter key _ => (flights.current key).all fun n => (flights.flight n).isSome
  | .finish n _ => (flights.flight n).isSome
  | .wait n => ((flights.flight n).bind Flight.outcome).isSome

def answer [Inhabited ν] (i : ι) (flights : Flights κ τ ν ι) :
    (op : FlightOp κ τ ν) → op.Reply × Flights κ τ ν ι
  | .enter key call =>
    match flights.current key with
    | none => (Seat.leader flights.next, flights.led i key call)
    | some n =>
      match flights.flight n with
      | none => (Seat.follower n, flights)
      | some flight =>
        (Seat.follower n, flights.put n { flight with followers := call :: flight.followers })
  | .finish n outcome =>
    match flights.flight n with
    | none => ((), flights)
    | some flight => ((), (flights.put n { flight with outcome := some outcome }).landed n)
  | .wait n => (((flights.flight n).bind Flight.outcome).getD default, flights)

theorem answer_step [Inhabited ν] (i : ι) (flights : Flights κ τ ν ι) (op : FlightOp κ τ ν)
    (h : flights.ready op = true) : Step i flights op (flights.answer i op).1 (flights.answer i op).2 := by
  cases op with
  | enter key call =>
    cases hcurrent : flights.current key with
    | none =>
      simp only [answer, hcurrent]
      exact .lead key call hcurrent
    | some n =>
      cases hflight : flights.flight n with
      | none => simp [ready, hcurrent, hflight] at h
      | some flight =>
        simp only [answer, hcurrent, hflight]
        exact .join key call hcurrent hflight
  | finish n outcome =>
    cases hflight : flights.flight n with
    | none => simp [ready, hflight] at h
    | some flight =>
      simp only [answer, hflight]
      exact .finish outcome hflight
  | wait n =>
    cases hflight : flights.flight n with
    | none => simp [ready, hflight] at h
    | some flight =>
      cases houtcome : flight.outcome with
      | none => simp [ready, hflight, houtcome] at h
      | some outcome =>
        simp only [answer, hflight, Option.bind_some, houtcome, Option.getD_some]
        exact .wait hflight houtcome

end Step

-- The memory of a process that starts again: no key is in flight.
def forgotten (flights : Flights κ τ ν ι) : Flights κ τ ν ι := { flights with current := fun _ => none }

end Flights

structure Flight.Later (before after : Flight κ τ ν) : Prop where
  key : after.key = before.key
  leader : after.leader = before.leader
  followers : ∀ call ∈ before.followers, call ∈ after.followers
  outcome : ∀ outcome, before.outcome = some outcome → after.outcome = some outcome

def Flight.callers (flight : Flight κ τ ν) : List τ := flight.leader :: flight.followers

theorem Flight.Later.refl (flight : Flight κ τ ν) : flight.Later flight :=
  ⟨rfl, rfl, fun _ h => h, fun _ h => h⟩

theorem Flight.Later.trans {a b c : Flight κ τ ν} (hab : a.Later b) (hbc : b.Later c) : a.Later c :=
  ⟨hbc.key.trans hab.key, hbc.leader.trans hab.leader, fun call h => hbc.followers call (hab.followers call h),
    fun outcome h => hbc.outcome outcome (hab.outcome outcome h)⟩

theorem Flight.Later.callers {before after : Flight κ τ ν} (h : before.Later after) {call : τ}
    (hcall : call ∈ before.callers) : call ∈ after.callers := by
  rcases List.mem_cons.mp hcall with rfl | hfollower
  · exact h.leader ▸ List.mem_cons_self
  · exact List.mem_cons_of_mem _ (h.followers call hfollower)

namespace Flights

def Later (before after : Flights κ τ ν ι) : Prop :=
  ∀ n flight, before.flight n = some flight → ∃ later, after.flight n = some later ∧ flight.Later later

theorem Later.refl (flights : Flights κ τ ν ι) : flights.Later flights :=
  fun _ flight h => ⟨flight, h, .refl flight⟩

theorem Later.trans {a b c : Flights κ τ ν ι} (hab : a.Later b) (hbc : b.Later c) : a.Later c := by
  intro n flight h
  obtain ⟨middle, hmiddle, hfirst⟩ := hab n flight h
  obtain ⟨last, hlast, hsecond⟩ := hbc n middle hmiddle
  exact ⟨last, hlast, hfirst.trans hsecond⟩

-- Every caller of a flight fits its key, and each flight under way has at most one leader.
structure Sound (fits : κ → τ → Prop) (flights : Flights κ τ ν ι) : Prop where
  fresh : ∀ n, flights.next ≤ n → flights.flight n = none
  keyed : ∀ n flight, flights.flight n = some flight → ∀ call ∈ flight.callers, fits flight.key call
  current : ∀ key n, flights.current key = some n →
    ∃ flight, flights.flight n = some flight ∧ flight.key = key ∧ flight.outcome = none
  leads : ∀ i j n, flights.leads i = some n → flights.leads j = some n → i = j
  started : ∀ i n, flights.leads i = some n → n < flights.next

def Leading (flights : Flights κ τ ν ι) (i : ι) (n : Nat) : Prop :=
  flights.leads i = some n ∧ ∃ flight, flights.flight n = some flight ∧ flight.outcome = none

-- A caller enters with a key it fits, and a flight is finished by its leader.
def Guard (fits : κ → τ → Prop) (i : ι) (flights : Flights κ τ ν ι) : FlightOp κ τ ν → Prop
  | .enter key call => fits key call
  | .finish n _ => flights.Leading i n
  | .wait _ => True

theorem sound_empty (fits : κ → τ → Prop) : (empty : Flights κ τ ν ι).Sound fits :=
  ⟨fun _ _ => rfl, nofun, nofun, nofun, nofun⟩

theorem Sound.lt {fits : κ → τ → Prop} {flights : Flights κ τ ν ι} (h : flights.Sound fits) {n : Nat}
    {flight : Flight κ τ ν} (hflight : flights.flight n = some flight) : n < flights.next := by
  by_contra hge
  rw [h.fresh n (by omega)] at hflight
  cases hflight

theorem Sound.forgotten {fits : κ → τ → Prop} {flights : Flights κ τ ν ι} (h : flights.Sound fits) :
    flights.forgotten.Sound fits :=
  ⟨h.fresh, h.keyed, nofun, h.leads, h.started⟩

section Step

variable [DecidableEq κ] [DecidableEq ι] {fits : κ → τ → Prop}
  {flights before after : Flights κ τ ν ι} {i : ι} {op : FlightOp κ τ ν} {reply : op.Reply}

omit [DecidableEq κ] [DecidableEq ι] in
theorem put_later {n : Nat} {flight later : Flight κ τ ν} (hflight : flights.flight n = some flight)
    (hlater : flight.Later later) : flights.Later (flights.put n later) := by
  intro m other hother
  rcases eq_or_ne m n with rfl | hne
  · obtain rfl : flight = other := Option.some.inj (hflight.symm.trans hother)
    exact ⟨later, Function.update_self .., hlater⟩
  · exact ⟨other, (Function.update_of_ne hne ..).trans hother, .refl other⟩

theorem led_later (h : flights.Sound fits) (key : κ) (call : τ) : flights.Later (flights.led i key call) := by
  intro n flight hflight
  have hne : n ≠ flights.next := Nat.ne_of_lt (h.lt hflight)
  exact ⟨flight, (Function.update_of_ne hne ..).trans hflight, .refl flight⟩

theorem Step.later (hbefore : before.Sound fits) (hstep : Step i before op reply after)
    (hguard : before.Guard fits i op) : before.Later after := by
  cases hstep with
  | lead key call h => exact led_later hbefore key call
  | join key call h hflight =>
    exact put_later hflight ⟨rfl, rfl, fun _ h => List.mem_cons_of_mem _ h, fun _ h => h⟩
  | finish outcome hflight =>
    obtain ⟨-, flight, hsame, hopen⟩ := hguard
    cases hflight.symm.trans hsame
    refine put_later hflight ⟨rfl, rfl, fun _ h => h, fun old hold => ?_⟩
    rw [hopen] at hold
    cases hold
  | wait hflight houtcome => exact .refl before

omit [DecidableEq κ] [DecidableEq ι] in
theorem Sound.put_fresh (h : flights.Sound fits) {n m : Nat} {old later : Flight κ τ ν}
    (hold : flights.flight m = some old) (hn : flights.next ≤ n) :
    Function.update flights.flight m (some later) n = none := by
  have hlt := h.lt hold
  have hne : n ≠ m := by omega
  exact (Function.update_of_ne hne ..).trans (h.fresh n hn)

theorem led_sound (h : flights.Sound fits) (i : ι) {key : κ} {call : τ} (hfits : fits key call) :
    (flights.led i key call).Sound fits := by
  have hfresh : flights.flight flights.next = none := h.fresh _ (Nat.le_refl _)
  refine ⟨fun n hn => ?_, fun n flight hflight => ?_, fun other n hcurrent => ?_, fun a b n ha hb => ?_,
    fun j n hj => ?_⟩
  · have hlt : flights.next < n := hn
    exact (Function.update_of_ne (Nat.ne_of_gt hlt) ..).trans (h.fresh n (Nat.le_of_lt hlt))
  · rcases eq_or_ne n flights.next with rfl | hne
    · cases (Function.update_self ..).symm.trans hflight
      exact List.forall_mem_singleton.mpr hfits
    · exact h.keyed n flight ((Function.update_of_ne hne ..).symm.trans hflight)
  · rcases eq_or_ne other key with rfl | hne
    · cases (Function.update_self ..).symm.trans hcurrent
      exact ⟨_, Function.update_self .., rfl, rfl⟩
    · obtain ⟨flight, hflight, hkey, hopen⟩ :=
        h.current other n ((Function.update_of_ne hne ..).symm.trans hcurrent)
      exact ⟨flight, (Function.update_of_ne (Nat.ne_of_lt (h.lt hflight)) ..).trans hflight, hkey, hopen⟩
  · have hother (j : ι) (hj : (flights.led i key call).leads j = some n) :
        (j = i ∧ n = flights.next) ∨ (j ≠ i ∧ flights.leads j = some n) := by
      rcases eq_or_ne j i with rfl | hne
      · cases (Function.update_self ..).symm.trans hj
        exact .inl ⟨rfl, rfl⟩
      · exact .inr ⟨hne, (Function.update_of_ne hne ..).symm.trans hj⟩
    rcases hother a ha with ⟨rfl, rfl⟩ | ⟨-, ha⟩ <;> rcases hother b hb with ⟨hbi, hbn⟩ | ⟨-, hb⟩
    · exact hbi.symm
    · exact absurd (h.started b _ hb) (Nat.lt_irrefl _)
    · exact absurd (hbn ▸ h.started a _ ha) (Nat.lt_irrefl _)
    · exact h.leads a b n ha hb
  · rcases eq_or_ne j i with rfl | hne
    · cases (Function.update_self ..).symm.trans hj
      exact Nat.lt_succ_self _
    · exact Nat.lt_succ_of_lt (h.started j n ((Function.update_of_ne hne ..).symm.trans hj))

theorem Step.sound (hbefore : before.Sound fits) (hstep : Step i before op reply after)
    (hguard : before.Guard fits i op) : after.Sound fits := by
  cases hstep with
  | lead key call h =>
    exact led_sound hbefore i hguard
  | @join key call m old h hold =>
    obtain ⟨flight, hsame, hkey, hopen⟩ := hbefore.current key m h
    cases hold.symm.trans hsame
    refine ⟨fun n hn => ?_, fun n flight hflight => ?_, fun key' n hcurrent => ?_, hbefore.leads,
      hbefore.started⟩
    · exact hbefore.put_fresh hold hn
    · rcases eq_or_ne n m with rfl | hne
      · cases (Function.update_self ..).symm.trans hflight
        intro caller hcaller
        have hkeyed := hbefore.keyed n old hold
        rcases List.mem_cons.mp hcaller with rfl | hcaller
        · exact hkeyed _ List.mem_cons_self
        · rcases List.mem_cons.mp hcaller with rfl | hcaller
          · exact hkey ▸ hguard
          · exact hkeyed _ (List.mem_cons_of_mem _ hcaller)
      · exact hbefore.keyed n flight ((Function.update_of_ne hne ..).symm.trans hflight)
    · obtain ⟨flight, hflight, hkey', hopen'⟩ := hbefore.current key' n hcurrent
      rcases eq_or_ne n m with rfl | hne
      · cases hold.symm.trans hflight
        exact ⟨_, Function.update_self .., hkey', hopen⟩
      · exact ⟨flight, (Function.update_of_ne hne ..).trans hflight, hkey', hopen'⟩
  | @finish m old outcome hold =>
    refine ⟨fun n hn => ?_, fun n flight hflight => ?_, fun key n hcurrent => ?_, hbefore.leads,
      hbefore.started⟩
    · exact hbefore.put_fresh hold hn
    · rcases eq_or_ne n m with rfl | hne
      · cases (Function.update_self ..).symm.trans hflight
        exact hbefore.keyed n old hold
      · exact hbefore.keyed n flight ((Function.update_of_ne hne ..).symm.trans hflight)
    · have hcurrent' : before.current key = some n ∧ n ≠ m := by
        change (if before.current key = some m then none else before.current key) = some n at hcurrent
        split at hcurrent
        · cases hcurrent
        · next hother => exact ⟨hcurrent, fun h => hother (h ▸ hcurrent)⟩
      obtain ⟨flight, hflight, hkey, hopen⟩ := hbefore.current key n hcurrent'.1
      exact ⟨flight, (Function.update_of_ne hcurrent'.2 ..).trans hflight, hkey, hopen⟩
  | wait hflight houtcome => exact hbefore

theorem Step.next_le (hstep : Step i before op reply after) : before.next ≤ after.next := by
  cases hstep with
  | lead _ _ _ => exact Nat.le_succ _
  | _ => exact Nat.le_refl _

theorem Step.leading (hbefore : before.Sound fits) (hstep : Step i before op reply after)
    (hguard : before.Guard fits i op) {j : ι} (hne : j ≠ i) {n : Nat} (h : before.Leading j n) :
    after.Leading j n := by
  obtain ⟨hleads, flight, hflight, hopen⟩ := h
  cases hstep with
  | lead key call _ =>
    exact ⟨(Function.update_of_ne hne ..).trans hleads, flight,
      (Function.update_of_ne (Nat.ne_of_lt (hbefore.lt hflight)) ..).trans hflight, hopen⟩
  | @join key call m old _ hold =>
    refine ⟨hleads, ?_⟩
    rcases eq_or_ne n m with rfl | hnm
    · cases hold.symm.trans hflight
      exact ⟨_, Function.update_self .., hopen⟩
    · exact ⟨flight, (Function.update_of_ne hnm ..).trans hflight, hopen⟩
  | @finish m old outcome hold =>
    have hnm : n ≠ m := fun h => hne (hbefore.leads j i m (h ▸ hleads) hguard.1)
    exact ⟨hleads, flight, (Function.update_of_ne hnm ..).trans hflight, hopen⟩
  | wait _ _ => exact ⟨hleads, flight, hflight, hopen⟩

-- An outcome is there from before, or it is the one this step sets.
theorem Step.outcome {op : FlightOp κ τ ν} {reply : op.Reply} (hstep : Step i before op reply after)
    {n : Nat} {flight : Flight κ τ ν} {outcome : ν} (hflight : after.flight n = some flight)
    (houtcome : flight.outcome = some outcome) :
    ∃ old, before.flight n = some old ∧ old.leader = flight.leader ∧
      (old.outcome = some outcome ∨ op = .finish n outcome) := by
  cases hstep with
  | lead key call _ =>
    rcases eq_or_ne n before.next with rfl | hne
    · cases (Function.update_self ..).symm.trans hflight
      cases houtcome
    · exact ⟨flight, (Function.update_of_ne hne ..).symm.trans hflight, rfl, .inl houtcome⟩
  | @join key call m old _ hold =>
    rcases eq_or_ne n m with rfl | hne
    · cases (Function.update_self ..).symm.trans hflight
      exact ⟨old, hold, rfl, .inl houtcome⟩
    · exact ⟨flight, (Function.update_of_ne hne ..).symm.trans hflight, rfl, .inl houtcome⟩
  | @finish m old outcome' hold =>
    rcases eq_or_ne n m with rfl | hne
    · cases (Function.update_self ..).symm.trans hflight
      cases houtcome
      exact ⟨old, hold, rfl, .inr rfl⟩
    · exact ⟨flight, (Function.update_of_ne hne ..).symm.trans hflight, rfl, .inl houtcome⟩
  | wait _ _ => exact ⟨flight, hflight, rfl, .inl houtcome⟩

end Step

end Flights

end Caplv.Program
