import HttpAuth.Authenticator.Send
import HttpAuth.Proofs.Effects
import Mathlib.Data.List.Induction

namespace HttpAuth.Authenticator

/-- How far a call has come. `request` is the caller's, `message` is what goes out for it. -/
inductive Stage where
  | fresh (request : Request)
  | ready (request message : Request)
  | refused (request : Request) (response : Response)
  | taught (request : Request)
  | again (message : Request)
  | done (reply : Except String Response)
deriving DecidableEq

variable {W H : Type}

/-- A call holds the authenticator for one step at a time. -/
def advance (net : Network W) (hd : Handling W H) (a : Authenticator H) :
    Stage → SessionM W (Stage × Authenticator H)
  | .fresh request => do
    let (first?, a) ← a.authorize hd request
    return (.ready request (first?.getD request), a)
  | .ready request message => do
    match ← Session.send net .delivery message with
    | .error e => return (.done (.error e), a)
    | .ok response =>
      if response.status ≠ .unauthorized then return (.done (.ok response), a)
      else return (.refused request response, a)
  | .refused request response => do
    let (result, a) ← a.learn hd request.uri response
    match result with
    | .error e =>
      Session.log (.notRetried request.uri e)
      return (.done (.ok response), a)
    | .ok () => return (.taught request, a)
  | .taught request => do
    let (second?, a) ← a.authorize hd request
    return (.again (second?.getD request), a)
  | .again message => do
    let reply ← Session.send net .delivery message
    return (.done reply, a)
  | .done reply => return (.done reply, a)

def advances (net : Network W) (hd : Handling W H) :
    Nat → Authenticator H → Stage → SessionM W (Stage × Authenticator H)
  | 0, a, stage => return (stage, a)
  | n + 1, a, stage => do
    let (stage, a) ← advance net hd a stage
    advances net hd n a stage

theorem advances_done (net : Network W) (hd : Handling W H) (n : Nat) (a : Authenticator H)
    (reply : Except String Response) (s : Session W) :
    advances net hd n a (.done reply) s = ((.done reply, a), s) := by
  induction n with
  | zero => rfl
  | succ n ih => exact ih

/-- The second half of a call. -/
def repeated (net : Network W) (hd : Handling W H) (a : Authenticator H) (request : Request) :
    SessionM W (Except String Response × Authenticator H) := do
  let (second?, a) ← a.authorize hd request
  let reply ← Session.send net .delivery (second?.getD request)
  return (reply, a)

theorem advances_taught (net : Network W) (hd : Handling W H) (n : Nat) (a : Authenticator H)
    (request : Request) (s : Session W) :
    advances net hd (n + 2) a (.taught request) s =
      ((.done (a.repeated net hd request s).1.1, (a.repeated net hd request s).1.2),
        (a.repeated net hd request s).2) :=
  advances_done net hd n _ _ _

theorem advances_refused (net : Network W) (hd : Handling W H) (n : Nat) (a : Authenticator H)
    (request : Request) (response : Response) (s : Session W) :
    advances net hd (n + 3) a (.refused request response) s =
      match a.learn hd request.uri response s with
      | ((.error e, a), s) =>
        ((.done (.ok response), a), (Session.log (.notRetried request.uri e) s).2)
      | ((.ok (), a), s) =>
        ((.done (a.repeated net hd request s).1.1, (a.repeated net hd request s).1.2),
          (a.repeated net hd request s).2) := by
  rw [advances, Session.bind_apply, advance, Session.bind_apply]
  obtain ⟨⟨result, a'⟩, s'⟩ := a.learn hd request.uri response s
  cases result with
  | error e => exact advances_done net hd _ _ _ _
  | ok u => exact advances_taught net hd n a' request s'

/-- Five steps are a whole call. -/
theorem advances_five (net : Network W) (hd : Handling W H) (a : Authenticator H)
    (request : Request) (s : Session W) :
    advances net hd 5 a (.fresh request) s =
      ((.done (a.send net hd request s).1.1, (a.send net hd request s).1.2),
        (a.send net hd request s).2) := by
  rw [advances, Session.bind_apply, advance, Session.bind_apply, send, Session.bind_apply]
  obtain ⟨⟨first?, a'⟩, s'⟩ := a.authorize hd request s
  simp only [Session.pure_apply, Session.bind_apply]
  rw [advances, Session.bind_apply, advance, Session.bind_apply]
  obtain ⟨reply, s''⟩ := Session.send net .delivery (first?.getD request) s'
  cases reply with
  | error e => exact advances_done net hd _ _ _ _
  | ok response =>
    by_cases hr : response.status ≠ .unauthorized
    · simp only [if_pos hr]
      exact advances_done net hd _ _ _ _
    · simp only [if_neg hr, Session.pure_apply, Session.bind_apply]
      rw [advances_refused]
      obtain ⟨⟨result, a''⟩, s'''⟩ := a'.learn hd request.uri response s''
      cases result with
      | error e => rfl
      | ok u => rfl

inductive Side where
  | left
  | right
deriving DecidableEq, Repr

def Side.other : Side → Side
  | left => right
  | right => left

/-- An authenticator that two calls share. -/
structure Shared (W H : Type) where
  auth : Authenticator H
  session : Session W
  stages : Side → Stage

/-- The next step of one call. The other call stays where it is. -/
def move (net : Network W) (hd : Handling W H) (m : Shared W H) (x : Side) : Shared W H :=
  let r := advance net hd m.auth (m.stages x) m.session
  { auth := r.1.2, session := r.2, stages := fun y => if y = x then r.1.1 else m.stages y }

def interleave (net : Network W) (hd : Handling W H) (m : Shared W H) (schedule : List Side) :
    Shared W H :=
  schedule.foldl (move net hd) m

/-- Steps of one call alone. -/
theorem interleave_replicate (net : Network W) (hd : Handling W H) (n : Nat) (m : Shared W H)
    (x : Side) :
    interleave net hd m (List.replicate n x) =
      { auth := (advances net hd n m.auth (m.stages x) m.session).1.2
        session := (advances net hd n m.auth (m.stages x) m.session).2
        stages := fun y =>
          if y = x then (advances net hd n m.auth (m.stages x) m.session).1.1 else m.stages y } := by
  induction n generalizing m with
  | zero =>
    have hstages : m.stages = fun y => if y = x then m.stages x else m.stages y := by
      funext y
      split
      · next h => rw [h]
      · rfl
    change m = { auth := m.auth, session := m.session, stages := _ }
    simp only [advances, Session.pure_apply, ← hstages]
  | succ n ih =>
    rw [List.replicate_succ, interleave, List.foldl_cons, ← interleave, ih]
    simp only [move, if_pos, advances, Session.bind_apply]
    congr 1
    funext y
    split <;> rfl

/-- A whole call alone. -/
theorem interleave_call (net : Network W) (hd : Handling W H) (m : Shared W H) (x : Side)
    (request : Request) (hx : m.stages x = .fresh request) :
    interleave net hd m (List.replicate 5 x) =
      { auth := (m.auth.send net hd request m.session).1.2
        session := (m.auth.send net hd request m.session).2
        stages := fun y =>
          if y = x then .done (m.auth.send net hd request m.session).1.1 else m.stages y } := by
  rw [interleave_replicate, hx, advances_five]

/-- The third step of `x`, in which it learns, comes when the other call has made `k` steps. -/
def ThirdAfter (x : Side) (k : Nat) (schedule : List Side) : Prop :=
  ∃ before after, schedule = before ++ x :: after ∧ before.count x = 2 ∧ before.count x.other = k

/-- The other call has prepared its first message and has not yet learned from the reply when `x` learns. -/
def Overtakes (x : Side) (schedule : List Side) : Prop :=
  ThirdAfter x 1 schedule ∨ ThirdAfter x 2 schedule

theorem Side.other_other (x : Side) : x.other.other = x := by
  cases x <;> rfl

theorem Side.other_ne (x : Side) : x.other ≠ x := by
  cases x <;> decide

theorem Side.eq_other {x y : Side} (h : y ≠ x) : y = x.other := by
  revert h
  cases x <;> cases y <;> decide

section schedules

variable {x : Side} {k : Nat} {schedule : List Side}

theorem count_append_self : (schedule ++ [x]).count x = schedule.count x + 1 := by
  simp

theorem count_append_other : (schedule ++ [x.other]).count x = schedule.count x := by
  simp [x.other_ne]

theorem count_other_append : (schedule ++ [x]).count x.other = schedule.count x.other := by
  simp [x.other_ne.symm]

theorem thirdAfter_append {z : Side} : ThirdAfter x k (schedule ++ [z]) ↔
    ThirdAfter x k schedule ∨
      z = x ∧ schedule.count x = 2 ∧ schedule.count x.other = k := by
  constructor
  · rintro ⟨before, after, he, hx, hk⟩
    cases after using List.reverseRecOn with
    | nil =>
      obtain ⟨rfl, hz⟩ := List.append_inj' he rfl
      cases hz
      exact .inr ⟨rfl, hx, hk⟩
    | append_singleton after y =>
      rw [← List.cons_append, ← List.append_assoc] at he
      obtain ⟨rfl, -⟩ := List.append_inj' he rfl
      exact .inl ⟨before, after, rfl, hx, hk⟩
  · rintro (⟨before, after, rfl, hx, hk⟩ | ⟨rfl, hx, hk⟩)
    · exact ⟨before, after ++ [z], by simp, hx, hk⟩
    · exact ⟨schedule, [], rfl, hx, hk⟩

theorem ThirdAfter.counts (h : ThirdAfter x k schedule) :
    3 ≤ schedule.count x ∧ k ≤ schedule.count x.other := by
  obtain ⟨before, after, rfl, hx, rfl⟩ := h
  simp only [List.count_append, List.count_cons_self]
  constructor
  · omega
  · exact Nat.le_add_right _ _

theorem thirdAfter_exists (h : 3 ≤ schedule.count x) : ∃ k, ThirdAfter x k schedule := by
  induction schedule using List.reverseRecOn with
  | nil => cases h
  | append_singleton schedule z ih =>
    by_cases hs : 3 ≤ schedule.count x
    · obtain ⟨k, hk⟩ := ih hs
      exact ⟨k, thirdAfter_append.mpr (.inl hk)⟩
    · by_cases hz : z = x
      · subst hz
        rw [count_append_self] at h
        exact ⟨_, thirdAfter_append.mpr (.inr ⟨rfl, by omega, rfl⟩)⟩
      · rw [Side.eq_other hz, count_append_other] at h
        exact absurd h hs

theorem ThirdAfter.unique {j : Nat} (hj : ThirdAfter x j schedule) (hk : ThirdAfter x k schedule) :
    j = k := by
  induction schedule using List.reverseRecOn with
  | nil =>
    have := hj.counts.1
    simp at this
  | append_singleton schedule z ih =>
    rcases thirdAfter_append.mp hj with hj | ⟨-, hc, hj⟩
    · rcases thirdAfter_append.mp hk with hk | ⟨-, hc, -⟩
      · exact ih hj hk
      · have := hj.counts.1
        omega
    · rcases thirdAfter_append.mp hk with hk | ⟨-, -, hk⟩
      · have := hk.counts.1
        omega
      · omega

/-- One of two calls is the second to make its third step. -/
theorem ThirdAfter.order {j : Nat} (hj : ThirdAfter x j schedule)
    (hk : ThirdAfter x.other k schedule) : 3 ≤ j ∨ 3 ≤ k := by
  induction schedule using List.reverseRecOn with
  | nil =>
    have := hj.counts.1
    simp at this
  | append_singleton schedule z ih =>
    rcases thirdAfter_append.mp hj with hj | ⟨hz, -, hj⟩
    · rcases thirdAfter_append.mp hk with hk | ⟨-, -, hk⟩
      · exact ih hj hk
      · rw [x.other_other] at hk
        have := hj.counts.1
        omega
    · rcases thirdAfter_append.mp hk with hk | ⟨hz', -, -⟩
      · have := hk.counts.1
        omega
      · exact absurd (hz'.symm.trans hz) x.other_ne

theorem not_overtakes_both : ¬ (Overtakes x schedule ∧ Overtakes x.other schedule) := by
  rintro ⟨hx, hy⟩
  rcases hx with hx | hx <;> rcases hy with hy | hy <;>
    · have := hx.order hy
      omega

/-- The call was not overtaken, and it is too late for that. -/
structure Unhindered (x : Side) (schedule : List Side) : Prop where
  ahead : ¬ Overtakes x.other schedule
  settled : 3 ≤ schedule.count x ∨ 3 ≤ schedule.count x.other

theorem Overtakes.append (h : Overtakes x schedule) (z : Side) : Overtakes x (schedule ++ [z]) := by
  rcases h with h | h
  · exact .inl (thirdAfter_append.mpr (.inl h))
  · exact .inr (thirdAfter_append.mpr (.inl h))

theorem Unhindered.append (h : Unhindered x schedule) (z : Side) :
    Unhindered x (schedule ++ [z]) := by
  have hs := h.settled
  constructor
  · rintro (ho | ho) <;> rcases thirdAfter_append.mp ho with ho | ⟨-, hc, hk⟩
    · exact h.ahead (.inl ho)
    · rw [x.other_other] at hk
      omega
    · exact h.ahead (.inr ho)
    · rw [x.other_other] at hk
      omega
  · simp only [List.count_append]
    omega

end schedules

end HttpAuth.Authenticator
