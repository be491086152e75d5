import Mathlib.Algebra.Order.BigOperators.Group.List
import Mathlib.Algebra.Order.Ring.Nat
import Mathlib.Data.List.Perm.Subperm
import HttpAuth.Proofs.BearerSteps
import HttpAuth.Proofs.Growth

namespace HttpAuth

/-- Every scheme has bearer handlers. -/
def Registry.OnlyBearer (r : Registry Handler) : Prop :=
  ∀ entry ∈ r.entries, ∃ options, entry.2 = Handler.bearerFactory options

namespace Handler

variable {W : Type} {h k : Handler}

/-- The scopes that a handler has learned. -/
def scopes : Handler → List String
  | basic _ => []
  | bearer b => b.scopes

theorem scopes_learn (c : Challenge) (h : Handler) : h.scopes <+: (learn c h).2.scopes := by
  cases h with
  | basic b => exact List.nil_prefix
  | bearer b =>
    rcases BearerAuth.learn_cases b c with ⟨flaw, hl⟩ | ⟨d, -, ⟨-, hl⟩ | ⟨-, -, -, hl⟩⟩
    · simp only [learn, hl]
      exact List.prefix_refl _
    · simp only [learn, hl]
      exact List.prefix_refl _
    · simp only [learn, hl, Except.map, BearerAuth.takeIn]
      split
      · exact List.prefix_refl _
      · exact List.prefix_append _ _

theorem scopes_authorize (net : Network W) (h : Handler) (s : Session W) :
    (h.authorize net s).1.2.scopes = h.scopes := by
  cases h with
  | basic b => rfl
  | bearer b =>
    have hcourse := BearerAuth.outcome_authorize net b s
    change (b.authorize net s).1.2.scopes = b.scopes
    rcases hresult : b.authorize net s with ⟨⟨result, b'⟩, s'⟩
    rw [hresult] at hcourse
    dsimp only at hcourse
    cases hcourse with
    | nothing | reused | renewed | failed => rfl

/-- No scope is ever dropped. -/
theorem scopes_of_descends {net : Network W} (hk : Authenticator.Descends (handling net) h k) :
    h.scopes <+: k.scopes := by
  induction hk with
  | refl => exact List.prefix_refl _
  | learned c _ ih => exact ih.trans (scopes_learn c _)
  | asked s _ ih =>
    exact ih.trans (scopes_authorize net _ s ▸ List.prefix_refl _)

/-- A bearer handler that has learned each of its scopes once. -/
inductive Orderly : Handler → Prop where
  | bearer {b : BearerAuth} (hc : b.Coherent) (hn : b.scopes.Nodup) : Orderly (.bearer b)

theorem orderly_bearerFactory (options : TokenOptions) (host : String) (credentials : Credentials) :
    (bearerFactory options host credentials).Orderly :=
  .bearer (fun _ => ⟨rfl, rfl, rfl, rfl⟩) .nil

/-- A challenge that is accepted brings a new scope. -/
theorem Orderly.learn_ok (hh : h.Orderly) {c : Challenge} (hok : (learn c h).1 = .ok ()) :
    ∃ d, c.demand? = some d ∧ d.scope ∉ h.scopes ∧ (learn c h).2.scopes = h.scopes ++ [d.scope] ∧
      (learn c h).2.Orderly := by
  obtain ⟨hc, hn⟩ := hh
  rename_i b
  cases hl : b.learn c with
  | error e =>
    simp only [learn, hl] at hok
    cases hok
  | ok next =>
    obtain ⟨d, hd, -, hnew, rfl⟩ := BearerAuth.learn_eq_ok hc hl
    refine ⟨d, hd, hnew, ?_⟩
    simp only [learn, hl]
    refine ⟨rfl, .bearer (BearerAuth.coherent_taught b d) ?_⟩
    refine List.nodup_append.mpr ⟨hn, List.pairwise_singleton .., ?_⟩
    rintro scope hold _ hm rfl
    exact hnew (List.mem_singleton.mp hm ▸ hold)

theorem Orderly.learn (hh : h.Orderly) (c : Challenge) : (Handler.learn c h).2.Orderly := by
  cases hl : (Handler.learn c h).1 with
  | error e => rwa [snd_of_error hl]
  | ok u =>
    obtain ⟨d, -, -, -, hnext⟩ := hh.learn_ok hl
    exact hnext

theorem Orderly.authorize (hh : h.Orderly) (net : Network W) (s : Session W) :
    (h.authorize net s).1.2.Orderly := by
  obtain ⟨hc, hn⟩ := hh
  rename_i b
  have hcourse := BearerAuth.outcome_authorize net b s
  change (Handler.bearer (b.authorize net s).1.2).Orderly
  rcases hresult : b.authorize net s with ⟨⟨result, b'⟩, s'⟩
  rw [hresult] at hcourse
  dsimp only at hcourse
  have hwanted := hcourse.wanted
  cases hcourse with
  | nothing | reused | failed => exact .bearer hc hn
  | renewed r t _ hw => exact .bearer (BearerAuth.coherent_of_wanted (hwanted.trans hw)) hn

theorem Orderly.descends {net : Network W} (hh : h.Orderly)
    (hk : Authenticator.Descends (handling net) h k) : k.Orderly := by
  induction hk with
  | refl => exact hh
  | learned c _ ih => exact ih.learn c
  | asked s _ ih => exact ih.authorize net s

end Handler

namespace Authenticator

variable {W : Type} {net : Network W} {a b : Authenticator Handler} {entries : List Entry} {slot : Slot}

def scopesAt (a : Authenticator Handler) (slot : Slot) : List String :=
  ((a.handler? slot).map Handler.scopes).getD []

theorem scopesAt_of_handler? {h : Handler} (hh : a.handler? slot = some h) :
    a.scopesAt slot = h.scopes := by
  rw [scopesAt, hh]
  rfl

theorem scopesAt_of_absent (hn : a.handler? slot = none) : a.scopesAt slot = [] := by
  rw [scopesAt, hn]
  rfl

theorem descends_after {H : Type} (hd : Handling W H) (h : H) (cs : List Challenge) :
    Descends hd h (Learner.after hd.learn h cs) := by
  induction cs generalizing h with
  | nil => exact .refl
  | cons c rest ih => exact (Descends.learned c .refl).trans (ih _)

theorem Grown.scopesAt (hg : Grown (Handler.handling net) a b entries) (slot : Slot) :
    a.scopesAt slot <+: b.scopesAt slot := by
  cases hh : a.handler? slot with
  | none =>
    rw [scopesAt_of_absent hh]
    exact List.nil_prefix
  | some h =>
    obtain ⟨k, hk, hdescends⟩ := hg.kept slot h hh
    rw [scopesAt_of_handler? hh, scopesAt_of_handler? hk]
    exact Handler.scopes_of_descends hdescends

/-- All handlers are bearer handlers of registered schemes. -/
structure Orderly (a : Authenticator Handler) : Prop where
  bearer : a.registry.OnlyBearer
  handlers : ∀ slot h, a.handler? slot = some h → h.Orderly
  registered : ∀ slot ∈ a.table.slots, slot.scheme ∈ a.schemes

theorem orderly_ofRegistry {r : Registry Handler} {basic : Factory Handler}
    (hb : (ofRegistry r basic).registry.OnlyBearer) : (ofRegistry r basic).Orderly where
  bearer := hb
  handlers := by
    rintro slot h ⟨⟩
  registered := by
    rintro slot ⟨⟩

theorem Orderly.pupil? (ha : a.Orderly) {h : Handler} (hp : a.pupil? slot = some h) :
    h.Orderly ∧ h.scopes = a.scopesAt slot := by
  obtain ⟨factory, hf, hmade⟩ := Option.map_eq_some_iff.mp hp
  cases hh : a.handler? slot with
  | some k =>
    rw [hh, Option.getD_some] at hmade
    subst hmade
    exact ⟨ha.handlers slot k hh, (scopesAt_of_handler? hh).symm⟩
  | none =>
    obtain ⟨options, rfl⟩ := ha.bearer _ (Assoc.mem_of_lookup hf)
    rw [hh, Option.getD_none] at hmade
    subst hmade
    exact ⟨Handler.orderly_bearerFactory _ _ _, (scopesAt_of_absent hh).symm⟩

theorem Orderly.scopesAt_nodup (ha : a.Orderly) (slot : Slot) : (a.scopesAt slot).Nodup := by
  cases hh : a.handler? slot with
  | none =>
    rw [scopesAt_of_absent hh]
    exact .nil
  | some h =>
    rw [scopesAt_of_handler? hh]
    obtain ⟨-, hn⟩ := ha.handlers slot h hh
    exact hn

theorem Orderly.grown (ha : a.Orderly) (hg : Grown (Handler.handling net) a b entries) : b.Orderly := by
  refine ⟨hg.registry ▸ ha.bearer, ?_, ?_⟩
  · intro slot k hk
    cases hh : a.handler? slot with
    | none =>
      obtain ⟨h, hp, hdescends⟩ := hg.built slot k hh hk
      exact (ha.pupil? hp).1.descends hdescends
    | some h =>
      obtain ⟨k', hk', hdescends⟩ := hg.kept slot h hh
      rw [hk] at hk'
      cases hk'
      exact (ha.handlers slot h hh).descends hdescends
  · intro slot hm
    rw [hg.schemes]
    obtain ⟨k, hk⟩ := Option.isSome_iff_exists.mp (Table.mem_slots_iff.mp hm)
    cases hh : a.handler? slot with
    | none =>
      obtain ⟨h, hp, -⟩ := hg.built slot k hh hk
      obtain ⟨factory, hf, -⟩ := Option.map_eq_some_iff.mp hp
      exact Registry.mem_schemes_iff.mpr ⟨factory, hf⟩
    | some h => exact ha.registered slot (Table.mem_slots_iff.mpr (Option.isSome_iff_exists.mpr ⟨h, hh⟩))

/-- A lesson that succeeds brings a scope that its handler did not have. -/
theorem Orderly.learn_ok (ha : a.Orderly) {uri : Uri} {response : Response} {host : String}
    {cs : List Challenge} (hasks : Asks uri response host cs) (s : Session W)
    (hok : (a.learn (Handler.handling net) uri response s).1.1 = .ok ()) :
    ∃ c ∈ cs, ∃ d, c.demand? = some d ∧ d.scope ∉ a.scopesAt ⟨host, c.scheme⟩ ∧
      d.scope ∈ (a.learn (Handler.handling net) uri response s).1.2.scopesAt ⟨host, c.scheme⟩ := by
  rw [(hasks.learn (Handler.handling net) a s).1] at hok ⊢
  have hfits := Learner.fits_of_lesson (Prod.ext hok rfl)
  have hteaches : a.Teaches (Handler.handling net) host cs := by
    apply (teaches_iff (passes_iff.mpr hfits)).mpr
    intro hr
    rw [Learner.lesson_of_repeats hr] at hok
    cases hok
  obtain ⟨before, c, after, hsplit, hanswer⟩ := hteaches
  have hm : c ∈ cs := hsplit ▸ List.mem_append_right _ List.mem_cons_self
  obtain ⟨h, hp, haccepted⟩ := Option.map_eq_some_iff.mp hanswer
  obtain ⟨hh, hscopes⟩ := ha.pupil? hp
  -- the handler of `c` as it is when the turn comes to `c`
  have hbefore := descends_after (Handler.handling net) h (Challenge.forScheme c.scheme before)
  obtain ⟨d, hd, hnew, hlearned, -⟩ := (hh.descends hbefore).learn_ok haccepted
  refine ⟨c, hm, d, hd, ?_, ?_⟩
  · rw [← hscopes]
    exact fun hold => hnew ((Handler.scopes_of_descends hbefore).subset hold)
  · have hne : Challenge.forScheme c.scheme cs ≠ [] :=
      List.ne_nil_of_mem (Challenge.mem_forScheme.mpr ⟨hm, rfl⟩)
    have hafter : Learner.after (Handler.handling net).learn h (Challenge.forScheme c.scheme cs) =
        Learner.after (Handler.handling net).learn
          (Handler.learn c (Learner.after (Handler.handling net).learn h
            (Challenge.forScheme c.scheme before))).2 (Challenge.forScheme c.scheme after) := by
      rw [hsplit, Challenge.forScheme_append, Challenge.forScheme_self, Learner.after_append]
      rfl
    rw [Learner.lesson_snd, Learner.given_of_fits hfits,
      scopesAt_of_handler? ((brought_after (Handler.handling net) host a cs).taught c.scheme h hne hp),
      hafter]
    apply (Handler.scopes_of_descends (descends_after (Handler.handling net) _ _)).subset
    rw [hlearned]
    exact List.mem_append_right _ (List.mem_singleton_self _)

/-- How many scopes the handlers have learned that count for their hosts. -/
def held (counts : String → String → Bool) (a : Authenticator Handler) : Nat :=
  (a.table.slots.map fun slot => (a.scopesAt slot).countP (counts slot.host)).sum

section counting

variable {counts : String → String → Bool}

/-- Scopes counted for slots of which some have no handler yet. -/
theorem Grown.held_eq (hg : Grown (Handler.handling net) a b entries) :
    a.held counts = (b.table.slots.map fun slot => (a.scopesAt slot).countP (counts slot.host)).sum := by
  obtain ⟨new, -, hslots⟩ := hg.added
  obtain ⟨-, -, hnew⟩ := List.nodup_append.mp (hslots.nodup_iff.mp (Table.nodup_slots b.table))
  have hnone : (new.map fun slot => (a.scopesAt slot).countP (counts slot.host)).sum = 0 := by
    apply List.sum_eq_zero
    intro n hn
    obtain ⟨slot, hm, rfl⟩ := List.mem_map.mp hn
    have habsent : a.handler? slot = none := by
      by_contra hs
      exact hnew slot (Table.mem_slots_iff.mpr (Option.ne_none_iff_isSome.mp hs)) slot hm rfl
    rw [scopesAt_of_absent habsent, List.countP_nil]
  rw [held, (hslots.map _).sum_eq, List.map_append, List.sum_append, hnone, Nat.add_zero]

theorem Grown.countP_le (hg : Grown (Handler.handling net) a b entries) (slot : Slot) :
    (a.scopesAt slot).countP (counts slot.host) ≤ (b.scopesAt slot).countP (counts slot.host) :=
  (hg.scopesAt slot).sublist.countP_le

theorem Grown.held_le (hg : Grown (Handler.handling net) a b entries) : a.held counts ≤ b.held counts := by
  rw [hg.held_eq]
  exact List.sum_le_sum fun slot _ => hg.countP_le slot

theorem Grown.held_lt (hg : Grown (Handler.handling net) a b entries) {scope : String}
    (hn : scope ∉ a.scopesAt slot) (hm : scope ∈ b.scopesAt slot)
    (hc : counts slot.host scope = true) : a.held counts < b.held counts := by
  rw [hg.held_eq]
  apply List.sum_lt_sum _ _ fun slot _ => hg.countP_le slot
  refine ⟨slot, ?_, ?_⟩
  · rw [Table.mem_slots_iff]
    by_contra hs
    rw [scopesAt_of_absent (Option.not_isSome_iff_eq_none.mp hs)] at hm
    cases hm
  · obtain ⟨more, hb⟩ := hg.scopesAt slot
    rw [← hb] at hm ⊢
    have hmore : 0 < more.countP (counts slot.host) :=
      List.countP_pos_iff.mpr ⟨scope, (List.mem_append.mp hm).resolve_left hn, hc⟩
    rw [List.countP_append]
    omega

theorem Orderly.countP_le (ha : a.Orderly) (slot : Slot) {scopes : List String}
    (hc : ∀ scope, counts slot.host scope = true → scope ∈ scopes) :
    (a.scopesAt slot).countP (counts slot.host) ≤ scopes.length := by
  have hnodup := (ha.scopesAt_nodup slot).filter (counts slot.host)
  have hsubset : (a.scopesAt slot).filter (counts slot.host) ⊆ scopes :=
    fun scope hm => hc scope (List.mem_filter.mp hm).2
  rw [List.countP_eq_length_filter]
  exact (List.Nodup.subperm hnodup hsubset).length_le

/-- Where the scopes that count are among finitely many for each of some hosts, only so many can be held. -/
theorem Orderly.held_le (ha : a.Orderly) (hosts : List String) (scopes : String → List String)
    (hc : ∀ host scope, counts host scope = true → host ∈ hosts ∧ scope ∈ scopes host) :
    a.held counts ≤ (hosts.map fun host => a.schemes.length * (scopes host).length).sum := by
  let count := fun slot : Slot => (a.scopesAt slot).countP (counts slot.host)
  let places := hosts.flatMap fun host => a.schemes.map (Slot.mk host)
  have helsewhere : ((a.table.slots.filter fun slot => ¬ slot.host ∈ hosts).map count).sum = 0 := by
    apply List.sum_eq_zero
    intro n hn
    obtain ⟨slot, hm, rfl⟩ := List.mem_map.mp hn
    apply List.countP_eq_zero.mpr
    intro scope _ hcounts
    simpa [(hc _ _ hcounts).1] using (List.mem_filter.mp hm).2
  have hplaces : (a.table.slots.filter fun slot => slot.host ∈ hosts) ⊆ places := by
    intro slot hm
    obtain ⟨hm, hhost⟩ := List.mem_filter.mp hm
    exact List.mem_flatMap.mpr ⟨slot.host, of_decide_eq_true hhost,
      List.mem_map.mpr ⟨slot.scheme, ha.registered slot hm, rfl⟩⟩
  have hnodup := (Table.nodup_slots a.table).filter fun slot => decide (slot.host ∈ hosts)
  obtain ⟨within, hperm, hsub⟩ := List.Nodup.subperm hnodup hplaces
  calc a.held counts
      = ((a.table.slots.filter fun slot => slot.host ∈ hosts).map count).sum := by
        rw [held, ← List.sum_map_filter_add_sum_map_filter_not (fun slot => slot.host ∈ hosts), helsewhere,
          Nat.add_zero]
    _ = (within.map count).sum := ((hperm.map count).sum_eq).symm
    _ ≤ (places.map count).sum := (hsub.map count).sum_le_sum fun _ _ => Nat.zero_le _
    _ ≤ (places.map fun slot => (scopes slot.host).length).sum :=
        List.sum_le_sum fun slot _ => ha.countP_le slot fun scope h => (hc _ _ h).2
    _ = (hosts.map fun host => a.schemes.length * (scopes host).length).sum := by
        simp [places, List.flatMap_def, List.sum_flatten, Function.comp_def]

end counting

end Authenticator

end HttpAuth
